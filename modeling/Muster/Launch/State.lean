import Muster.Launch.Report
import Muster.Provider

/-!
A launch as a machine of small steps. Every creation has a slot. A slot waits for
a permit, creates its machine, checks that it is ready, destroys it if it is not,
and ends by sending one arrival, whatever happens to it; the launch reads arrivals
one at a time. Slots move in any order, and cancellation or the deadline may come
at any moment. An attempt is over when every slot of it has been heard of.

What is done in one step: a slot asks the provider for one thing, or the launch
reads one arrival, notices that it is cancelled, or begins the next attempt.
-/

namespace Muster.Launch

structure Plan where
  topology : Topology
  bootstrap : RoleSet → Script
  permits : Nat
  timeLimit : Option Nat
  deadline : Option Nat

namespace Plan

def spec (plan : Plan) (roles : RoleSet) : InstanceSpec :=
  ⟨plan.topology.clusterName, roles, plan.bootstrap roles⟩

/-- How many attempts there are, counted in 32 bits. -/
def maxAttempts (plan : Plan) : Nat := (plan.topology.maxStartupRetries + 1).toNat

end Plan

inductive Stage where
  | queued
  | creating (millis : Nat)
  | checking (node : Node) (millis : Nat)
  | destroying (node : Node) (cause : String)
  deriving DecidableEq

structure Slot where
  number : Nat
  group : Nat
  spec : InstanceSpec
  stage : Stage
  deriving DecidableEq

def Slot.isAtWork (slot : Slot) : Bool := slot.stage ≠ .queued

inductive SlotResult where
  | healthy (machine : Instance)
  | failed (cause : String) (destroyed orphaned : Option String)
  deriving DecidableEq

structure Arrival where
  group : Nat
  result : SlotResult
  deriving DecidableEq

structure GroupProgress where
  outcome : GroupOutcome
  healthy : List Instance
  deriving DecidableEq

namespace GroupProgress

def new (group : InstanceGroup) : GroupProgress := ⟨.new group, []⟩

/-- Whether the group is launched in the next attempt: every group is at first, and
later the groups that are short of what they require. -/
def isDue (progress : GroupProgress) : Bool :=
  0 < progress.outcome.shortfall && (progress.outcome.attempts = 0 || !progress.outcome.isSuccess)

def launch (progress : GroupProgress) : GroupProgress :=
  if progress.isDue then
    { progress with outcome := { progress.outcome with
        attempts := progress.outcome.attempts + 1
        attempted := progress.outcome.attempted + progress.outcome.shortfall } }
  else progress

def receive (progress : GroupProgress) : SlotResult → GroupProgress
  | .healthy machine =>
      { outcome := { progress.outcome with succeeded := progress.outcome.succeeded + 1 }
        healthy := progress.healthy ++ [machine] }
  | .failed cause _ _ =>
      { progress with outcome := { progress.outcome with
          failed := progress.outcome.failed + 1
          causes := progress.outcome.causes ++ [cause] } }

end GroupProgress

structure State (σ : Type) where
  provider : σ
  attempt : Nat
  slots : List Slot
  inbox : List Arrival
  groups : List GroupProgress
  destroyed : List String
  orphaned : List String
  cancelled : Bool
  stop : Option Stop
  issued : Nat
  finished : Bool

inductive Event where
  | start (slot : Nat)
  | created (slot : Nat)
  | expired (slot : Nat)
  | checked (slot : Nat)
  | aborted (slot : Nat)
  | discarded (slot : Nat)
  | received
  | cancel
  | noticed
  | deadline
  | proceed
  deriving DecidableEq, Repr

namespace State

variable {σ : Type}

def initial (plan : Plan) (cancelled : Bool) (provider : σ) : State σ where
  provider
  attempt := 0
  slots := []
  inbox := []
  groups := plan.topology.groups.map .new
  destroyed := []
  orphaned := []
  cancelled
  stop := none
  issued := 0
  finished := false

def slot? (state : State σ) (number : Nat) : Option Slot :=
  state.slots.find? fun slot => slot.number = number

def atWork (state : State σ) : Nat := state.slots.countP Slot.isAtWork

def isPending (state : State σ) : Bool := !state.slots.isEmpty || !state.inbox.isEmpty

def setStage (state : State σ) (number : Nat) (stage : Stage) : State σ :=
  { state with slots := state.slots.map fun slot =>
      if slot.number = number then { slot with stage } else slot }

def endSlot (state : State σ) (slot : Slot) (result : SlotResult) : State σ :=
  { state with
    slots := state.slots.filter fun other => other.number ≠ slot.number
    inbox := state.inbox ++ [⟨slot.group, result⟩] }

def failSlot (state : State σ) (slot : Slot) (cause : String) : State σ :=
  state.endSlot slot (.failed cause none none)

def crashed : String := "launch task ended without reporting"

def discard (provider : Provider σ) (state : State σ) (slot : Slot) (node : Node) (cause : String) :
    State σ :=
  match provider.destroy [node.id] state.provider with
  | (.ok (), answered) =>
      { state with provider := answered }.endSlot slot (.failed cause (some node.id) none)
  | (.error _, answered) =>
      { state with provider := answered }.endSlot slot (.failed cause none (some node.id))

def startSlot (provider : Provider σ) (state : State σ) (slot : Slot) : State σ :=
  match provider.beginCreate slot.spec state.provider with
  | (.crashed, answered) =>
      { state with provider := answered }.failSlot slot crashed
  | (.working millis, answered) =>
      { state with provider := answered }.setStage slot.number (.creating millis)

def finishCreation (provider : Provider σ) (state : State σ) (slot : Slot) : State σ :=
  match provider.finishCreate slot.spec state.provider with
  | (none, answered) => { state with provider := answered }.failSlot slot crashed
  | (some (.error error), answered) =>
      { state with provider := answered }.failSlot slot error.message
  | (some (.ok node), answered) =>
      { state with provider := answered }.setStage slot.number
        (.checking node (provider.readyMillis node answered))

def finishCheck (provider : Provider σ) (state : State σ) (slot : Slot) (node : Node) : State σ :=
  match provider.checkReady node state.provider with
  | (.ok (), answered) =>
      { state with provider := answered }.endSlot slot (.healthy (.ofNode node slot.spec.roles))
  | (.error error, answered) =>
      { state with provider := answered }.setStage slot.number (.destroying node error.message)

def dropCreation (provider : Provider σ) (state : State σ) (slot : Slot) (cause : String) : State σ :=
  { state with provider := provider.dropCreate slot.spec state.provider }.failSlot slot cause

/-- What a cancellation makes of a slot; one that is destroying its machine goes on. -/
def abortSlot (provider : Provider σ) (state : State σ) (slot : Slot) : Option (State σ) :=
  match slot.stage with
  | .queued => some (state.failSlot slot "cancelled before launch")
  | .creating _ => some (dropCreation provider state slot "cancelled while launching")
  | .checking node _ =>
      some (state.setStage slot.number
        (.destroying node (ProviderError.notReady node.id "cancelled").message))
  | .destroying .. => none

def receive (state : State σ) (arrival : Arrival) : State σ :=
  let counted := { state with
    groups := state.groups.modify arrival.group fun progress => progress.receive arrival.result }
  match arrival.result with
  | .healthy _ => counted
  | .failed _ destroyed orphaned =>
      { counted with
        destroyed := counted.destroyed ++ destroyed.toList
        orphaned := counted.orphaned ++ orphaned.toList }

/-- The slots of the next attempt: as many for each group as it is short of, group by
group. -/
def dueSlots (plan : Plan) (state : State σ) : List Slot :=
  let due := state.groups.zipIdx.filter fun (progress, _) => progress.isDue
  let wanted := due.flatMap fun (progress, group) =>
    List.replicate progress.outcome.shortfall (group, plan.spec progress.outcome.roles)
  (wanted.zipIdx state.issued).map fun ((group, spec), number) => ⟨number, group, spec, .queued⟩

def beginAttempt (plan : Plan) (state : State σ) : State σ :=
  let slots := state.dueSlots plan
  { state with
    attempt := state.attempt + 1
    slots
    groups := state.groups.map GroupProgress.launch
    issued := state.issued + slots.length }

/-- Between attempts: ends the launch when it was cancelled, when its attempts are
used up or when no group is due, and begins the next attempt otherwise. -/
def proceed (plan : Plan) (state : State σ) : State σ :=
  let stop :=
    if 0 < state.attempt && state.stop.isNone && state.cancelled then some .cancelled
    else state.stop
  let state := { state with stop }
  if stop.isSome || plan.maxAttempts ≤ state.attempt || !state.groups.any GroupProgress.isDue then
    { state with finished := true }
  else state.beginAttempt plan

def step (provider : Provider σ) (plan : Plan) (event : Event) (state : State σ) :
    Option (State σ) :=
  match event with
  | .start number => do
      let slot ← state.slot? number
      if slot.stage = .queued ∧ state.cancelled = false ∧ state.atWork < plan.permits then
        some (startSlot provider state slot)
      else none
  | .created number => do
      let slot ← state.slot? number
      match slot.stage with
      | .creating _ => if state.cancelled then none else some (finishCreation provider state slot)
      | _ => none
  | .expired number => do
      let slot ← state.slot? number
      match slot.stage, plan.timeLimit with
      | .creating _, some limit =>
          if state.cancelled then none
          else some (dropCreation provider state slot
            (ProviderError.timedOut (.ofMillis limit)).message)
      | _, _ => none
  | .checked number => do
      let slot ← state.slot? number
      match slot.stage with
      | .checking node _ => if state.cancelled then none else some (finishCheck provider state slot node)
      | _ => none
  | .aborted number => do
      let slot ← state.slot? number
      if state.cancelled then abortSlot provider state slot else none
  | .discarded number => do
      let slot ← state.slot? number
      match slot.stage with
      | .destroying node cause => some (discard provider state slot node cause)
      | _ => none
  | .received =>
      match state.inbox with
      | [] => none
      | arrival :: rest => some ({ state with inbox := rest }.receive arrival)
  | .cancel => some { state with cancelled := true }
  | .noticed =>
      if state.isPending && state.cancelled && state.stop.isNone then
        some { state with stop := some .cancelled }
      else none
  | .deadline =>
      if state.isPending && plan.deadline.isSome && state.stop.isNone then
        some { state with stop := some .timeout, cancelled := true }
      else none
  | .proceed => if state.isPending || state.finished then none else some (state.proceed plan)

def healthy (state : State σ) : List Instance := state.groups.flatMap GroupProgress.healthy

def outcomes (state : State σ) : List GroupOutcome := state.groups.map GroupProgress.outcome

def report (state : State σ) (instances : List Instance) : LaunchReport :=
  ⟨state.outcomes, instances, state.destroyed, state.orphaned⟩

def failure (stop : Option Stop) (report : LaunchReport) : LaunchError :=
  match stop with
  | some .cancelled => .cancelled .bootstrap report
  | some .timeout => .timeout .bootstrap report
  | none => .partialFailure .bootstrap report

/-- What a finished launch answers. A launch that failed destroys what it launched
if the topology says so. -/
def verdict (provider : Provider σ) (plan : Plan) (state : State σ) :
    Except LaunchError (Cluster × LaunchReport) × σ :=
  if state.stop.isNone && state.outcomes.all GroupOutcome.isSuccess then
    let cluster := Cluster.ofInstances plan.topology.clusterName state.healthy
    (.ok (cluster, state.report cluster.instances), state.provider)
  else if plan.topology.terminateAllOnFailure && !state.healthy.isEmpty then
    let ids := state.healthy.map Instance.id
    match provider.destroy ids state.provider with
    | (.ok (), answered) =>
        (.error (failure state.stop
          ({ state with destroyed := state.destroyed ++ ids }.report [])), answered)
    | (.error _, answered) =>
        (.error (failure state.stop
          ({ state with orphaned := state.orphaned ++ ids }.report [])), answered)
  else (.error (failure state.stop (state.report state.healthy)), state.provider)

end State

end Muster.Launch
