import Muster.Instance

/-!
A named deployment: its machines in the order in which they were launched, and
the properties that its phases have left. No two machines have the same id.
-/

namespace Muster

structure Cluster where
  name : String
  instances : List Instance
  properties : SortedMap String String
  distinct : (instances.map Instance.id).Nodup

namespace Cluster

def new (name : String) : Cluster := ⟨name, [], .empty, .nil⟩

def find? (cluster : Cluster) (id : String) : Option Instance :=
  cluster.instances.find? fun machine => machine.id = id

theorem find?_eq_none (cluster : Cluster) (id : String) :
    cluster.find? id = none ↔ id ∉ cluster.instances.map Instance.id := by
  simp [find?]

def add (cluster : Cluster) (machine : Instance) : Bool × Cluster :=
  if fresh : cluster.find? machine.id = none then
    (true, { cluster with
      instances := cluster.instances ++ [machine]
      distinct := by
        have absent := (find?_eq_none cluster machine.id).mp fresh
        rw [List.map_append, List.nodup_append]
        refine ⟨cluster.distinct, by simp, ?_⟩
        intro id member other same
        simp only [List.map_cons, List.map_nil, List.mem_singleton] at same
        subst same
        intro equal
        subst equal
        exact absent member })
  else (false, cluster)

/-- Adds machines in order; of machines with one id the first is kept. -/
def addAll (cluster : Cluster) (machines : List Instance) : Cluster :=
  machines.foldl (fun cluster machine => (cluster.add machine).2) cluster

def ofInstances (name : String) (machines : List Instance) : Cluster := (new name).addAll machines

def remove (cluster : Cluster) (ids : List String) : List Instance × Cluster :=
  (cluster.instances.filter fun machine => machine.id ∈ ids,
    { cluster with
      instances := cluster.instances.filter fun machine => machine.id ∉ ids
      distinct := cluster.distinct.sublist (List.Sublist.map _ List.filter_sublist) })

def ids (cluster : Cluster) : List String := cluster.instances.map Instance.id

def size (cluster : Cluster) : Nat := cluster.instances.length

def isEmpty (cluster : Cluster) : Bool := cluster.instances.isEmpty

def withRole (cluster : Cluster) (role : String) : List Instance :=
  cluster.instances.filter fun machine => machine.hasRole role

def withoutRole (cluster : Cluster) (role : String) : List Instance :=
  cluster.instances.filter fun machine => !machine.hasRole role

def roleNames (cluster : Cluster) : RoleSet := rolesOf (cluster.instances.map Instance.roles)

def property (cluster : Cluster) (key : String) : Option String := cluster.properties.get? key

def setProperty (cluster : Cluster) (key value : String) : Cluster :=
  { cluster with properties := cluster.properties.insert key value }

def setProperties (cluster : Cluster) (properties : SortedMap String String) : Cluster :=
  { cluster with properties }

def rememberHosts (cluster : Cluster) (id : String) (hosts : Hosts) : Cluster :=
  let noted (machine : Instance) : Instance :=
    if machine.id = id then { machine with hosts := some hosts } else machine
  have same : (cluster.instances.map noted).map Instance.id = cluster.instances.map Instance.id := by
    rw [List.map_map]
    apply List.map_congr_left
    intro machine _
    show (noted machine).id = machine.id
    unfold noted
    split <;> rfl
  { cluster with instances := cluster.instances.map noted, distinct := same ▸ cluster.distinct }

end Cluster

end Muster
