import Muster.Provider
import Muster.Text.Digits

/-!
A provider that only keeps books. Machines get running numbers, nothing leaves
the program, and failures happen where they were asked for. It serves dry runs
and rehearsals.
-/

namespace Muster

structure DueFailures where
  create : Nat
  createAlways : Bool
  ready : Nat
  deriving DecidableEq

def DueFailures.none : DueFailures := ⟨0, false, 0⟩

inductive HostNames where
  | both
  | publicOnly
  | privateOnly
  | neither
  deriving DecidableEq

/-- What a simulated provider has been asked to do wrong: `due`, `statementRoles`, `failResolve` and
`createMillis` by its own means. The others are for rehearsals, which have requests refused, crash or
wait, and addresses or host names held back. -/
structure SimulatedFaults where
  due : SortedMap RoleSet DueFailures
  statementRoles : List String
  failResolve : Bool
  failDestroy : Bool
  failAuthorize : Bool
  crashes : Nat
  createMillis : Nat
  readyMillis : Nat
  hidePublicIp : Bool
  hidePrivateIp : Bool
  hostNames : HostNames

def SimulatedFaults.none : SimulatedFaults :=
  ⟨.empty, [], false, false, false, 0, 0, 0, false, false, .both⟩

structure Simulation where
  faults : SimulatedFaults
  sequence : Nat
  created : List Node
  rolesById : SortedMap String RoleSet
  destroyed : List String
  scripts : List (String × Script)
  authorized : List IngressTarget
  attempts : SortedMap RoleSet Nat
  inFlight : Nat
  maxInFlight : Nat
  resolveCalls : Nat

namespace Simulation

def new : Simulation := ⟨.none, 0, [], .empty, [], [], [], .empty, 0, 0, 0⟩

def running (simulation : Simulation) : List Node :=
  simulation.created.filter fun node => node.id ∉ simulation.destroyed

def dueFor (simulation : Simulation) (roles : RoleSet) : DueFailures :=
  simulation.faults.due.getD roles .none

def setDue (simulation : Simulation) (roles : RoleSet) (due : DueFailures) : Simulation :=
  { simulation with
    faults := { simulation.faults with due := simulation.faults.due.insert roles due } }

def failNext (simulation : Simulation) (roles : RoleSet) (count : Nat) : Simulation :=
  simulation.setDue roles { simulation.dueFor roles with create := count }

def failAlways (simulation : Simulation) (roles : RoleSet) : Simulation :=
  simulation.setDue roles { simulation.dueFor roles with createAlways := true }

def failReady (simulation : Simulation) (roles : RoleSet) (count : Nat) : Simulation :=
  simulation.setDue roles { simulation.dueFor roles with ready := count }

def failStatements (simulation : Simulation) (role : String) : Simulation :=
  { simulation with
    faults := { simulation.faults with statementRoles := simulation.faults.statementRoles ++ [role] } }

def failResolve (simulation : Simulation) (fails : Bool) : Simulation :=
  { simulation with faults := { simulation.faults with failResolve := fails } }

def setDelay (simulation : Simulation) (millis : Nat) : Simulation :=
  { simulation with faults := { simulation.faults with createMillis := millis } }

def attemptsFor (simulation : Simulation) (roles : RoleSet) : Nat :=
  simulation.attempts.getD roles 0

/-- The machine with a running number. Machines share a network by 250. -/
def nodeNumbered (number : Nat) (clusterName : String) : Node :=
  let host := toString (number / 250) ++ "." ++ toString (number % 250 + 1)
  { id := "stub-" ++ .ofList (Text.paddedDigits 5 number)
    publicIp := some ("203.0." ++ host)
    privateIp := some ("10.0." ++ host)
    metadata := .ofList [("provider", "stub"), ("cluster", clusterName)] }

def shown (faults : SimulatedFaults) (node : Node) : Node :=
  { node with
    publicIp := if faults.hidePublicIp then none else node.publicIp
    privateIp := if faults.hidePrivateIp then none else node.privateIp }

def beginCreate (simulation : Simulation) : Beginning × Simulation :=
  if 0 < simulation.faults.crashes then
    (.crashed, { simulation with
      faults := { simulation.faults with crashes := simulation.faults.crashes - 1 } })
  else
    let inFlight := simulation.inFlight + 1
    (.working simulation.faults.createMillis,
      { simulation with inFlight, maxInFlight := max simulation.maxInFlight inFlight })

def dropCreate (simulation : Simulation) : Simulation :=
  { simulation with inFlight := simulation.inFlight - 1 }

def launch (simulation : Simulation) (spec : InstanceSpec) : Node × Simulation :=
  let node := nodeNumbered (simulation.sequence + 1) spec.clusterName
  (node, { simulation with
    sequence := simulation.sequence + 1
    created := simulation.created ++ [node]
    rolesById := simulation.rolesById.insert node.id spec.roles
    scripts :=
      if spec.bootstrap.isEmpty then simulation.scripts
      else simulation.scripts ++ [(node.id, spec.bootstrap)] })

def creationFailure (roles : RoleSet) : ProviderError :=
  .failed ("injected failure creating [" ++ roles.text ++ "]")

def finishCreate (simulation : Simulation) (spec : InstanceSpec) :
    Except ProviderError Node × Simulation :=
  let counted := { simulation.dropCreate with
    attempts := simulation.attempts.modify spec.roles 0 (· + 1) }
  let due := simulation.dueFor spec.roles
  if due.createAlways then (.error (creationFailure spec.roles), counted)
  else if 0 < due.create then
    (.error (creationFailure spec.roles),
      counted.setDue spec.roles { due with create := due.create - 1 })
  else
    let (node, launched) := counted.launch spec
    (.ok (shown simulation.faults node), launched)

def checkReady (simulation : Simulation) (id : String) : Except ProviderError Unit × Simulation :=
  match simulation.rolesById.get? id with
  | none => (.error (.notReady id "unknown machine"), simulation)
  | some roles =>
      let due := simulation.dueFor roles
      if 0 < due.ready then
        (.error (.notReady id "injected readiness failure"),
          simulation.setDue roles { due with ready := due.ready - 1 })
      else (.ok (), simulation)

def markDestroyed (destroyed ids : List String) : List String :=
  ids.foldl (fun gone id => if id ∈ gone then gone else gone ++ [id]) destroyed

def destroy (simulation : Simulation) (ids : List String) :
    Except ProviderError Unit × Simulation :=
  if simulation.faults.failDestroy then (.error (.failed "injected destroy failure"), simulation)
  else (.ok (), { simulation with destroyed := markDestroyed simulation.destroyed ids })

def hostsOf (names : HostNames) (id : String) : Hosts :=
  let publicName := some (id ++ ".public.stub")
  let privateName := some (id ++ ".private.stub")
  match names with
  | .both => ⟨publicName, privateName⟩
  | .publicOnly => ⟨publicName, none⟩
  | .privateOnly => ⟨none, privateName⟩
  | .neither => ⟨none, none⟩

def resolveHosts (simulation : Simulation) (id : String) :
    Except ProviderError Hosts × Simulation :=
  let counted := { simulation with resolveCalls := simulation.resolveCalls + 1 }
  if simulation.faults.failResolve then
    (.error (.unresolved id "injected resolver failure"), counted)
  else (.ok (hostsOf simulation.faults.hostNames id), counted)

def runScript (simulation : Simulation) (id : String) (script : Script) :
    Except ProviderError Unit × Simulation :=
  let failing := match simulation.rolesById.get? id with
    | none => false
    | some roles => simulation.faults.statementRoles.any roles.contains
  if failing then (.error (.statements id "injected statement failure"), simulation)
  else (.ok (), { simulation with scripts := simulation.scripts ++ [(id, script)] })

def authorize (simulation : Simulation) (targets : List IngressTarget) :
    Except ProviderError Unit × Simulation :=
  if simulation.faults.failAuthorize then
    (.error (.failed "injected authorize failure"), simulation)
  else (.ok (), { simulation with authorized := simulation.authorized ++ targets })

def provider : Provider Simulation where
  beginCreate _ simulation := simulation.beginCreate
  finishCreate spec simulation :=
    let (result, simulation) := simulation.finishCreate spec
    (some result, simulation)
  dropCreate _ simulation := simulation.dropCreate
  readyMillis _ simulation := simulation.faults.readyMillis
  checkReady node simulation := simulation.checkReady node.id
  destroy ids simulation := simulation.destroy ids
  resolveHosts node simulation := simulation.resolveHosts node.id
  runScript node script simulation := simulation.runScript node.id script
  authorize targets simulation := simulation.authorize targets

end Simulation

end Muster
