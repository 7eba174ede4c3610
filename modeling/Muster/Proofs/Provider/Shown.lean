import Muster.Proofs.Launch.Completion
import Muster.Rehearsal

/-!
Providers whose state has more in it than another's. A provider shows another one if a
part of its state answers as the other does and changes as the other's state. Whatever
runs on the first runs on the second, with the same answers, and what is proved of runs
on the second holds for what the first shows.
-/

namespace Muster

variable {σ τ : Type}

-- Answers are the same, and what comes of a state is seen in its part.
structure Provider.Shows (provider : Provider σ) (shown : Provider τ) (part : σ → τ) : Prop where
  beginCreate : ∀ spec state, shown.beginCreate spec (part state) =
    (provider.beginCreate spec state).map id part
  finishCreate : ∀ spec state, shown.finishCreate spec (part state) =
    (provider.finishCreate spec state).map id part
  dropCreate : ∀ spec state, shown.dropCreate spec (part state) = part (provider.dropCreate spec state)
  readyMillis : ∀ node state, shown.readyMillis node (part state) = provider.readyMillis node state
  checkReady : ∀ node state, shown.checkReady node (part state) =
    (provider.checkReady node state).map id part
  destroy : ∀ ids state, shown.destroy ids (part state) = (provider.destroy ids state).map id part
  resolveHosts : ∀ node state, shown.resolveHosts node (part state) =
    (provider.resolveHosts node state).map id part
  runScript : ∀ node script state, shown.runScript node script (part state) =
    (provider.runScript node script state).map id part
  authorize : ∀ targets state, shown.authorize targets (part state) =
    (provider.authorize targets state).map id part

-- A provider within a larger state shows itself there, if what is put in can be taken out.
theorem Provider.within_shows (provider : Provider σ) {part : τ → σ} {replace : τ → σ → τ}
    (put : ∀ whole changed, part (replace whole changed) = changed) :
    (provider.within part replace).Shows provider part := by
  constructor <;> intros <;> simp [Provider.within, put]

theorem Rehearsal.provider_shows : Rehearsal.provider.Shows Simulation.provider Rehearsal.simulation :=
  Simulation.provider.within_shows fun _ _ => rfl

namespace Launch

def State.map (part : σ → τ) (state : State σ) : State τ where
  provider := part state.provider
  attempt := state.attempt
  slots := state.slots
  inbox := state.inbox
  groups := state.groups
  destroyed := state.destroyed
  orphaned := state.orphaned
  cancelled := state.cancelled
  stop := state.stop
  issued := state.issued
  finished := state.finished

def Moment.map (part : σ → τ) (moment : Moment σ) : Moment τ := ⟨moment.before.map part, moment.event⟩

namespace State

theorem map_receive (part : σ → τ) (state : State σ) (arrival : Arrival) :
    (state.map part).receive arrival = (state.receive arrival).map part := by
  unfold receive
  cases arrival.result <;> rfl

theorem map_proceed (part : σ → τ) (plan : Plan) (state : State σ) :
    (state.map part).proceed plan = (state.proceed plan).map part := by
  unfold proceed
  rw [apply_ite (map part)]
  rfl

section

variable {provider : Provider σ} {shown : Provider τ} {part : σ → τ} (shows : provider.Shows shown part)
  (plan : Plan) (state : State σ) (slot : Slot)

include shows

theorem map_startSlot :
    startSlot shown (state.map part) slot = (startSlot provider state slot).map part := by
  have answer : shown.beginCreate slot.spec (state.map part).provider = _ :=
    shows.beginCreate slot.spec state.provider
  unfold startSlot
  rw [answer]
  rcases provider.beginCreate slot.spec state.provider with ⟨_ | millis, answered⟩ <;> rfl

theorem map_finishCreation :
    finishCreation shown (state.map part) slot = (finishCreation provider state slot).map part := by
  have answer : shown.finishCreate slot.spec (state.map part).provider = _ :=
    shows.finishCreate slot.spec state.provider
  unfold finishCreation
  rw [answer]
  rcases provider.finishCreate slot.spec state.provider with ⟨_ | (error | node), answered⟩
  · rfl
  · rfl
  · change setStage _ _ (.checking node (shown.readyMillis node (part answered))) = _
    rw [shows.readyMillis]
    rfl

theorem map_finishCheck (node : Node) :
    finishCheck shown (state.map part) slot node = (finishCheck provider state slot node).map part := by
  have answer : shown.checkReady node (state.map part).provider = _ := shows.checkReady node state.provider
  unfold finishCheck
  rw [answer]
  rcases provider.checkReady node state.provider with ⟨_ | _, answered⟩ <;> rfl

theorem map_discard (node : Node) (cause : String) :
    discard shown (state.map part) slot node cause = (discard provider state slot node cause).map part := by
  have answer : shown.destroy [node.id] (state.map part).provider = _ :=
    shows.destroy [node.id] state.provider
  unfold discard
  rw [answer]
  rcases provider.destroy [node.id] state.provider with ⟨_ | _, answered⟩ <;> rfl

theorem map_dropCreation (cause : String) :
    dropCreation shown (state.map part) slot cause = (dropCreation provider state slot cause).map part := by
  unfold dropCreation
  have answer : shown.dropCreate slot.spec (state.map part).provider = _ :=
    shows.dropCreate slot.spec state.provider
  rw [answer]
  rfl

theorem map_abortSlot :
    abortSlot shown (state.map part) slot = (abortSlot provider state slot).map (map part) := by
  unfold abortSlot
  split
  · rfl
  · rw [map_dropCreation shows]
    rfl
  · rfl
  · rfl

omit shows in
theorem map_bind {first : Slot → Option (State σ)} {second : Slot → Option (State τ)} {found : Option Slot}
    (same : ∀ slot, second slot = (first slot).map (map part)) :
    found.bind second = (found.bind first).map (map part) := by
  cases found with
  | none => rfl
  | some slot => exact same slot

-- An event makes of what is shown what is shown of what it makes.
theorem map_step (event : Event) :
    (state.map part).step shown plan event = (state.step provider plan event).map (map part) := by
  cases event with
  | start number =>
      apply map_bind
      intro slot
      rw [map_startSlot shows, apply_ite (Option.map (map part))]
      rfl
  | created number =>
      apply map_bind
      intro slot
      rw [map_finishCreation shows]
      split
      · rw [apply_ite (Option.map (map part))]
        rfl
      · rfl
  | expired number =>
      apply map_bind
      intro slot
      split
      · rw [map_dropCreation shows, apply_ite (Option.map (map part))]
        rfl
      · rfl
  | checked number =>
      apply map_bind
      intro slot
      split
      · rw [map_finishCheck shows, apply_ite (Option.map (map part))]
        rfl
      · rfl
  | aborted number =>
      apply map_bind
      intro slot
      rw [map_abortSlot shows, apply_ite (Option.map (map part))]
      rfl
  | discarded number =>
      apply map_bind
      intro slot
      split
      · rw [map_discard shows]
        rfl
      · rfl
  | received =>
      unfold step
      dsimp only [map]
      split
      · rfl
      · rename_i arrival rest inbox
        exact congrArg some (map_receive part { state with inbox := rest } arrival)
  | cancel => rfl
  | noticed | deadline =>
      unfold step
      dsimp only
      rw [apply_ite (Option.map (map part))]
      rfl
  | «proceed» =>
      unfold step
      dsimp only
      rw [map_proceed, apply_ite (Option.map (map part))]
      rfl

theorem map_verdict : (state.map part).verdict shown plan =
    (state.verdict provider plan).map id part := by
  have answer : shown.destroy ((state.map part).healthy.map Instance.id) (state.map part).provider = _ :=
    shows.destroy (state.healthy.map Instance.id) state.provider
  unfold verdict
  dsimp only
  rw [answer, apply_ite (Prod.map id part), apply_ite (Prod.map id part)]
  rcases provider.destroy (state.healthy.map Instance.id) state.provider with ⟨_ | _, answered⟩ <;> rfl

end

end State

variable {provider : Provider σ} {shown : Provider τ} {part : σ → τ} {plan : Plan}

theorem Run.map (shows : provider.Shows shown part) {before after : State σ} {trace : List (Moment σ)}
    (run : Run provider plan before trace after) :
    Run shown plan (before.map part) (trace.map (Moment.map part)) (after.map part) := by
  induction run with
  | refl state => exact .refl _
  | next happens later ih =>
      refine .next ?_ ih
      rw [State.map_step shows, happens]
      rfl

theorem Completes.map (shows : provider.Shows shown part) {cancelled : Bool} {start : σ}
    {trace : List (Moment σ)} {final : State σ}
    (completes : Completes provider plan cancelled start trace final) :
    Completes shown plan cancelled (part start) (trace.map (Moment.map part)) (final.map part) :=
  ⟨completes.run.map shows, completes.finished⟩

end Launch

end Muster
