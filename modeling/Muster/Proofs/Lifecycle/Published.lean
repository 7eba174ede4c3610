import Muster.Proofs.Firewall
import Muster.Handler.Scripted

/-!
What is read off the nodes and roles of a cluster, and is the same in clusters with the same nodes:
who may share a machine, and where the machines of a role are reached. The latter is published in
the properties of the cluster, and to publish it again changes nothing.
-/

namespace Muster

open Sortable

/-! ### Entries that are there -/

-- By induction over the entries: those before the key stay in front, and none behind it has it.
theorem insertEntry_of_find {κ ν : Type} [Sortable κ] [DecidableEq κ] {key : κ} {value : ν} {entries : List (κ × ν)}
    (ascending : (entries.map Prod.fst).Pairwise Before)
    (found : (entries.find? fun entry => entry.1 = key).map Prod.snd = some value) :
    insertEntry key value entries = entries := by
  induction entries with
  | nil => cases found
  | cons head rest ih =>
      obtain ⟨first, later⟩ := List.pairwise_cons.mp ascending
      by_cases same : head.1 = key
      · subst same
        have here : head.2 = value := by simpa using found
        simp only [insertEntry, cmp_self, ← here]
      · rw [List.find?_cons_of_neg (by simpa using same)] at found
        obtain ⟨entry, present, _⟩ := Option.map_eq_some_iff.mp found
        have listed : key ∈ rest.map Prod.fst :=
          List.mem_map.mpr ⟨entry, List.mem_of_find?_eq_some present, by simpa using List.find?_some present⟩
        have greater : cmp key head.1 = .gt := by
          rw [cmp_swap head.1 key, show cmp head.1 key = .lt from first key listed]
          rfl
        simp only [insertEntry, greater, ih later found]

theorem SortedMap.insert_of_get? {κ ν : Type} [Sortable κ] [DecidableEq κ] {map : SortedMap κ ν} {key : κ} {value : ν}
    (found : map.get? key = some value) : map.insert key value = map :=
  toList_injective (insertEntry_of_find map.ascending found)

namespace Cluster

variable {before after : Cluster}

/-! ### Clusters with the same nodes -/

namespace SameNodes

theorem checkDisjoint (same : before.SameNodes after) (a b : String) :
    after.checkDisjoint a b = before.checkDisjoint a b := by
  have bare (cluster : Cluster) : cluster.checkDisjoint a b =
      ((cluster.instances.map Instance.bare).find? fun machine => machine.hasRole a && machine.hasRole b).elim (.ok ())
        fun machine => .error (.conflict a b ("instance '" ++ machine.id ++ "'")) := by
    rw [List.find?_map, Option.elim_map, Cluster.checkDisjoint]
    change _ = (cluster.instances.find? fun machine => machine.hasRole a && machine.hasRole b).elim _ _
    cases cluster.instances.find? fun machine => machine.hasRole a && machine.hasRole b <;> rfl
  rw [bare after, bare before, same]

theorem hosts (same : before.SameNodes after) (role : String) :
    Handler.Scripted.hosts after role = Handler.Scripted.hosts before role := by
  have bare (cluster : Cluster) : Handler.Scripted.hosts cluster role =
      ((cluster.instances.map Instance.bare).filter fun machine => machine.hasRole role).map
        Instance.internalAddress := by
    rw [List.filter_map, List.map_map]
    rfl
  rw [bare after, bare before, same]

end SameNodes

/-! ### Where roles are reached -/

def publish (cluster : Cluster) (roles : List String) : Cluster :=
  roles.foldl (fun cluster role => cluster.setProperty (Handler.Scripted.hostsKey role)
    (",".intercalate (Handler.Scripted.hosts cluster role))) cluster

variable {cluster : Cluster} {roles : List String} {role : String}

theorem publish_instances (cluster : Cluster) (roles : List String) :
    (cluster.publish roles).instances = cluster.instances := by
  induction roles generalizing cluster with
  | nil => rfl
  | cons role rest ih => exact ih _

theorem publish_name (cluster : Cluster) (roles : List String) : (cluster.publish roles).name = cluster.name := by
  induction roles generalizing cluster with
  | nil => rfl
  | cons role rest ih => exact ih _

def Publishes (cluster : Cluster) (role : String) : Prop :=
  cluster.property (Handler.Scripted.hostsKey role) =
    some (",".intercalate (Handler.Scripted.hosts cluster role))

theorem setProperty_publishes (cluster : Cluster) (role : String) :
    (cluster.setProperty (Handler.Scripted.hostsKey role)
      (",".intercalate (Handler.Scripted.hosts cluster role))).Publishes role := by
  simp only [Publishes, property, setProperty, SortedMap.get?_insert, if_true]
  rfl

theorem Publishes.publish (publishes : cluster.Publishes role) (roles : List String) :
    (cluster.publish roles).Publishes role := by
  induction roles generalizing cluster with
  | nil => exact publishes
  | cons other rest ih =>
      apply ih
      by_cases same : other = role
      · exact same ▸ cluster.setProperty_publishes other
      · have different : Handler.Scripted.hostsKey role ≠ Handler.Scripted.hostsKey other := by
          intro equal
          exact same ((String.append_left_inj _).mp equal).symm
        simp only [Publishes, property, setProperty, SortedMap.get?_insert, if_neg different] at publishes ⊢
        exact publishes

theorem publish_publishes (member : role ∈ roles) : (cluster.publish roles).Publishes role := by
  induction roles generalizing cluster with
  | nil => cases member
  | cons other rest ih =>
      rcases List.mem_cons.mp member with rfl | later
      · exact (cluster.setProperty_publishes role).publish rest
      · exact ih later

theorem publish_of_publishes (published : ∀ role ∈ roles, cluster.Publishes role) : cluster.publish roles = cluster := by
  induction roles with
  | nil => rfl
  | cons role rest ih =>
      have same : cluster.setProperty (Handler.Scripted.hostsKey role)
          (",".intercalate (Handler.Scripted.hosts cluster role)) = cluster := by
        simp only [setProperty, SortedMap.insert_of_get? (published role List.mem_cons_self)]
      rw [publish, List.foldl_cons, same]
      exact ih fun other member => published other (List.mem_cons_of_mem _ member)

theorem publish_publish (cluster : Cluster) (roles : List String) :
    (cluster.publish roles).publish roles = cluster.publish roles :=
  publish_of_publishes fun _ member => publish_publishes member

end Cluster

end Muster
