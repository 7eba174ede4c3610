import Muster.Cluster
import Muster.Phase
import Muster.Topology

/-!
Where roles may stand: how many machines of a cluster carry a role, and whether
two roles share a machine or are about to.
-/

namespace Muster

inductive PlacementFault where
  | notFound (cluster role : String)
  | ambiguous (cluster role : String) (count : Nat)
  | conflict (a b location : String)
  deriving DecidableEq

structure PlacementError where
  fault : PlacementFault
  phase : Option Phase
  deriving DecidableEq

namespace PlacementFault

def message : PlacementFault → String
  | notFound cluster role => "cluster '" ++ cluster ++ "' has no instance with role '" ++ role ++ "'"
  | ambiguous cluster role count =>
      "cluster '" ++ cluster ++ "' has " ++ toString count ++ " instances with role '" ++ role ++
        "' where exactly one is required"
  | conflict a b location =>
      "roles '" ++ a ++ "' and '" ++ b ++ "' must not share an instance but " ++ location ++
        " carries both"

end PlacementFault

namespace PlacementError

def plain (fault : PlacementFault) : PlacementError := ⟨fault, none⟩

def inPhase (error : PlacementError) (phase : Phase) : PlacementError :=
  { error with phase := some phase }

def message (error : PlacementError) : String :=
  match error.phase with
  | none => error.fault.message
  | some phase => "[" ++ phase.name ++ "] " ++ error.fault.message

end PlacementError

namespace Cluster

def locateUnique (cluster : Cluster) (role : String) : Except PlacementFault Instance :=
  match cluster.withRole role with
  | [] => .error (.notFound cluster.name role)
  | [machine] => .ok machine
  | machines => .error (.ambiguous cluster.name role machines.length)

def checkDisjoint (cluster : Cluster) (a b : String) : Except PlacementFault Unit :=
  match cluster.instances.find? fun machine => machine.hasRole a && machine.hasRole b with
  | none => .ok ()
  | some machine => .error (.conflict a b ("instance '" ++ machine.id ++ "'"))

end Cluster

def Topology.checkDisjoint (topology : Topology) (a b : String) : Except PlacementFault Unit :=
  match topology.groups.find? fun group => group.hasRole a && group.hasRole b with
  | none => .ok ()
  | some group => .error (.conflict a b ("instance group [" ++ group.roles.text ++ "]"))

end Muster
