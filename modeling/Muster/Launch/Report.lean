import Muster.Instance
import Muster.InstanceGroup
import Muster.Phase

/-!
The account of a launch: what became of each group, which machines are left
running, which were destroyed on the way, and which could not be.
-/

namespace Muster

/-- What became of one group. The counts are exact numbers, which fit into 32 bits if the numbers of the
topology are modest. -/
structure GroupOutcome where
  roles : RoleSet
  target : Nat
  required : Nat
  attempts : Nat
  attempted : Nat
  succeeded : Nat
  failed : Nat
  causes : List String
  deriving DecidableEq

namespace GroupOutcome

def new (group : InstanceGroup) : GroupOutcome :=
  ⟨group.roles, group.target.toNat, group.required.toNat, 0, 0, 0, 0, []⟩

def isSuccess (outcome : GroupOutcome) : Bool := outcome.required ≤ outcome.succeeded

def shortfall (outcome : GroupOutcome) : Nat := outcome.target - outcome.succeeded

def text (outcome : GroupOutcome) : String :=
  "[" ++ outcome.roles.text ++ "] " ++ toString outcome.succeeded ++ "/" ++
    toString outcome.target ++ " healthy with " ++ toString outcome.required ++
    " required after " ++ toString outcome.attempts ++ " attempt(s)" ++
    match outcome.causes.getLast? with
    | none => ""
    | some cause => " (last error: " ++ cause ++ ")"

end GroupOutcome

structure LaunchReport where
  groups : List GroupOutcome
  instances : List Instance
  destroyed : List String
  /-- Created machines that could not be destroyed. -/
  orphaned : List String
  deriving DecidableEq

namespace LaunchReport

def group? (report : LaunchReport) (roles : RoleSet) : Option GroupOutcome :=
  report.groups.find? fun outcome => outcome.roles = roles

def failedGroups (report : LaunchReport) : List GroupOutcome :=
  report.groups.filter fun outcome => !outcome.isSuccess

def accounted (report : LaunchReport) : List String :=
  report.instances.map Instance.id ++ report.destroyed ++ report.orphaned

def text (report : LaunchReport) : String :=
  ", ".intercalate (report.groups.map GroupOutcome.text) ++
    if report.instances.isEmpty then ""
    else "; " ++ toString report.instances.length ++ " instance(s) left running"

end LaunchReport

inductive Stop where
  | cancelled
  | timeout
  deriving DecidableEq, Repr

inductive LaunchError where
  | partialFailure (phase : Phase) (report : LaunchReport)
  | timeout (phase : Phase) (report : LaunchReport)
  | cancelled (phase : Phase) (report : LaunchReport)
  | provider (phase : Phase) (roles : RoleSet) (detail : String)
  deriving DecidableEq

namespace LaunchError

def report? : LaunchError → Option LaunchReport
  | partialFailure _ report | timeout _ report | cancelled _ report => some report
  | provider .. => none

def message : LaunchError → String
  | partialFailure phase report => "[" ++ phase.name ++ "] launch failed: " ++ report.text
  | timeout phase report => "[" ++ phase.name ++ "] launch deadline elapsed: " ++ report.text
  | cancelled phase report => "[" ++ phase.name ++ "] launch cancelled: " ++ report.text
  | provider phase roles detail =>
      "[" ++ phase.name ++ "] provider error for instance group [" ++ roles.text ++ "]: '" ++
        detail ++ "'"

def exitCode : LaunchError → Nat
  | partialFailure .. => 20
  | timeout .. => 21
  | provider .. => 22
  | cancelled .. => 23

end LaunchError

end Muster
