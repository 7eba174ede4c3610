import Muster.Handler.Scripted
import Muster.InOrder
import Muster.Launch
import Muster.Rollout

/-!
Running a phase. First every role of the phase must have a handler, and no two
roles that exclude each other may share a machine. Then the hooks before the phase
are called in role order, the phase does to the provider what it is for, and the
hooks after it are called. The first step that fails ends the phase.

The firewall rules and what has been granted stay with the dispatcher from phase to
phase. What a phase did is told as a list of deeds.
-/

namespace Muster

/-- Something that a phase did, and whether it succeeded. -/
inductive Deed where
  | hook (hook : Hook) (role : String) (succeeded : Bool)
  | launch (succeeded : Bool)
  | authorize (targets : List IngressTarget) (succeeded : Bool)
  | run (id : String) (script : Script) (succeeded : Bool)
  | destroy (ids : List String) (succeeded : Bool)
  deriving DecidableEq

inductive Effect where
  | launch
  | authorize
  | rollOut
  | destroy
  deriving DecidableEq, Repr

def Phase.effects : Phase → List Effect
  | .bootstrap => [.launch]
  | .configure => [.authorize, .rollOut]
  | .start | .stop => [.rollOut]
  | .cleanup => [.rollOut, .destroy]

inductive PhaseStep (σ : Type) where
  | call (hook : Hook) (handler : Handler σ)
  | effect (effect : Effect)

def Phase.steps {σ : Type} (phase : Phase) (handlers : List (Handler σ)) : List (PhaseStep σ) :=
  handlers.map (.call .before) ++ phase.effects.map .effect ++ handlers.map (.call .after)

structure PhasePlan (σ : Type) where
  provider : Provider σ
  options : LaunchOptions
  topology : Topology
  phase : Phase

structure PhaseRun (σ : Type) where
  event : PhaseEvent σ
  now : Nat
  deeds : List Deed

namespace PhaseRun

variable {σ : Type}

def note (run : PhaseRun σ) (deed : Deed) : PhaseRun σ := { run with deeds := run.deeds ++ [deed] }

def call (plan : PhasePlan σ) (hook : Hook) (handler : Handler σ) (run : PhaseRun σ) :
    Except Error Unit × PhaseRun σ :=
  match handler.hook hook plan.phase plan.topology run.event with
  | (.ok (), event) => (.ok (), { run with event }.note (.hook hook handler.role true))
  | (.error cause, event) =>
      (.error (.handler handler.role plan.phase hook cause),
        { run with event }.note (.hook hook handler.role false))

def bootScript (topology : Topology) (queue : StatementQueue) (roles : RoleSet) : Script :=
  ⟨environment topology roles, queue.forRoles roles⟩

/-- Launches the machines of the topology. They take the place of those in the
cluster, whose properties are kept. -/
def launch (plan : PhasePlan σ) (run : PhaseRun σ) : Except Error Unit × PhaseRun σ :=
  let event := run.event
  let (result, now, answered) :=
    Launch.run plan.provider plan.topology (bootScript plan.topology event.queue) plan.options run.now
      event.provider
  match result with
  | .error error =>
      (.error (.launch error),
        { run with event := { event with provider := answered }, now }.note (.launch false))
  | .ok (launched, _) =>
      let cluster := launched.setProperties event.cluster.properties
      (.ok (), { run with event := { event with provider := answered, cluster }, now }.note (.launch true))

def providerError (plan : PhasePlan σ) (cluster : Cluster) (error : ProviderError) : Error :=
  .launch (.provider plan.phase cluster.roleNames error.message)

def authorize (plan : PhasePlan σ) (run : PhaseRun σ) : Except Error Unit × PhaseRun σ :=
  let event := run.event
  let pending := event.firewall.pending event.cluster
  if pending.isEmpty then (.ok (), run)
  else
    match plan.provider.authorize pending event.provider with
    | (.error error, answered) =>
        (.error (providerError plan event.cluster error),
          { run with event := { event with provider := answered } }.note (.authorize pending false))
    | (.ok (), answered) =>
        let firewall := event.firewall.markApplied pending
        (.ok (), { run with event := { event with provider := answered, firewall } }.note
          (.authorize pending true))

def rollOut (plan : PhasePlan σ) (run : PhaseRun σ) : Except Error Unit × PhaseRun σ :=
  let event := run.event
  if event.queue.isEmpty then (.ok (), run)
  else
    let limit := concurrency plan.topology plan.options
    let rollout := Rollout.run plan.provider ⟨plan.topology, event.queue, limit⟩ event.cluster
      event.provider
    let deeds := rollout.calls.map fun call => Deed.run call.machine.id call.script call.failure.isNone
    let ended := { run with
      event := { event with provider := rollout.provider, cluster := rollout.cluster }
      deeds := run.deeds ++ deeds }
    match rollout.failure? with
    | none => (.ok (), ended)
    | some (machine, error) =>
        (.error (.launch (.provider plan.phase machine.roles error.message)), ended)

def destroy (plan : PhasePlan σ) (run : PhaseRun σ) : Except Error Unit × PhaseRun σ :=
  let event := run.event
  let ids := event.cluster.ids
  if ids.isEmpty then (.ok (), run)
  else
    match plan.provider.destroy ids event.provider with
    | (.error error, answered) =>
        (.error (providerError plan event.cluster error),
          { run with event := { event with provider := answered } }.note (.destroy ids false))
    | (.ok (), answered) =>
        let cluster := (event.cluster.remove ids).2
        (.ok (), { run with event := { event with provider := answered, cluster } }.note
          (.destroy ids true))

def perform (plan : PhasePlan σ) : PhaseStep σ → PhaseRun σ → Except Error Unit × PhaseRun σ
  | .call hook handler => call plan hook handler
  | .effect .launch => launch plan
  | .effect .authorize => authorize plan
  | .effect .rollOut => rollOut plan
  | .effect .destroy => destroy plan

end PhaseRun

structure Dispatcher (σ : Type) where
  provider : Provider σ
  registry : Registry σ
  firewall : Firewall
  options : LaunchOptions

structure PhaseOutcome (σ : Type) where
  result : Except Error Unit
  dispatcher : Dispatcher σ
  cluster : Cluster
  state : σ
  now : Nat
  deeds : List Deed

namespace Dispatcher

variable {σ : Type}

def new (provider : Provider σ) (registry : Registry σ) (topology : Topology)
    (options : LaunchOptions) : Dispatcher σ :=
  ⟨provider, registry, .forTopology topology, options⟩

/-- The roles of a phase: before there are machines, those of the groups. -/
def rolesFor (phase : Phase) (topology : Topology) (cluster : Cluster) : RoleSet :=
  match phase with
  | .bootstrap => topology.roleNames
  | _ => cluster.roleNames

def excluded (topology : Topology) (handler : Handler σ) : RoleSet :=
  .ofList (handler.disallowed ++
    ((topology.roleConfig? handler.role).map RoleConfig.disallowColocation).getD [])

def checkApart (phase : Phase) (topology : Topology) (cluster : Cluster) (a b : String) :
    Except PlacementFault Unit :=
  match phase with
  | .bootstrap => topology.checkDisjoint a b
  | _ => cluster.checkDisjoint a b

def exclusions (topology : Topology) (handlers : List (Handler σ)) : List (String × String) :=
  handlers.flatMap fun handler =>
    (excluded topology handler).toList.map fun other => (handler.role, other)

def checkExclusions (phase : Phase) (topology : Topology) (cluster : Cluster) :
    List (String × String) → Except PlacementError Unit
  | [] => .ok ()
  | (role, other) :: rest =>
      match checkApart phase topology cluster role other with
      | .error fault => .error ((PlacementError.plain fault).inPhase phase)
      | .ok () => checkExclusions phase topology cluster rest

def handlersFor (dispatcher : Dispatcher σ) (phase : Phase) (topology : Topology) (cluster : Cluster) :
    Except Error (List (Handler σ)) :=
  match dispatcher.registry.resolve (rolesFor phase topology cluster) with
  | .error error => .error (.config error)
  | .ok handlers =>
      match checkExclusions phase topology cluster (exclusions topology handlers) with
      | .error error => .error (.placement error)
      | .ok () => .ok handlers

/-- The rules that hooks find when a phase begins; CONFIGURE adds those of the topology. -/
def rulesFor (dispatcher : Dispatcher σ) (phase : Phase) (topology : Topology) : Firewall :=
  match phase with
  | .configure => dispatcher.firewall.addConfigRules topology
  | _ => dispatcher.firewall

def run (dispatcher : Dispatcher σ) (phase : Phase) (topology : Topology) (cluster : Cluster)
    (now : Nat) (state : σ) : PhaseOutcome σ :=
  match dispatcher.handlersFor phase topology cluster with
  | .error error => ⟨.error error, dispatcher, cluster, state, now, []⟩
  | .ok handlers =>
      let plan : PhasePlan σ := ⟨dispatcher.provider, dispatcher.options, topology, phase⟩
      let begun : PhaseRun σ :=
        ⟨⟨cluster, dispatcher.rulesFor phase topology, .empty, state⟩, now, []⟩
      let (result, ended) := inOrder (PhaseRun.perform plan) (phase.steps handlers) begun
      ⟨result, { dispatcher with firewall := ended.event.firewall }, ended.event.cluster,
        ended.event.provider, ended.now, ended.deeds⟩

def bootstrap (dispatcher : Dispatcher σ) (topology : Topology) (now : Nat) (state : σ) :
    PhaseOutcome σ :=
  dispatcher.run .bootstrap topology (.new topology.clusterName) now state

end Dispatcher

end Muster
