import Muster.Proofs.Launch.Accounts
import Muster.Proofs.Launch.Crashes

/-!
Permits of a launch. A slot takes a permit when it begins to create, and gives it back when it
ends, whichever of its requests fails, expires, crashes or is cancelled. However the moves of
the slots of all groups and attempts are mixed, the permits that are free and the slots at
work are as many as there are permits, so that all of them are free when the launch is over.
-/

namespace Muster.Launch

variable {σ : Type}

/-! ### The pool -/

namespace Change

-- A slot that starts takes a permit.
def takes (change : Change σ) : Nat :=
  match change.event with
  | some (.start _) => 1
  | _ => 0

-- A slot that had a permit, or has just been given one, gives it back if it is gone.
def gives (change : Change σ) : Nat :=
  change.before.slots.countP fun slot =>
    (slot.isAtWork || change.event = some (.start slot.number)) &&
      (change.after.slot? slot.number).isNone

end Change

def freePermits (permits : Nat) (changes : List (Change σ)) : Nat :=
  changes.foldl (fun free change => free - change.takes + change.gives) permits

theorem freePermits_append (permits : Nat) (past : List (Change σ)) (change : Change σ) :
    freePermits permits (past ++ [change]) =
      freePermits permits past - change.takes + change.gives := by
  simp [freePermits]

namespace State

theorem isNone_slot?_iff {state : State σ} {number : Nat} :
    (state.slot? number).isNone = true ↔ ∀ slot ∈ state.slots, slot.number ≠ number := by
  simp [slot?]

-- One slot has moved: nothing but its own permit can have been taken or given back.
theorem gives_moved {plan : Plan} {state : State σ} (sound : state.Sound plan) {slot : Slot}
    (member : slot ∈ state.slots) (event : Option Event) (answered : σ) (next : Next) :
    (⟨state, event, state.moved slot answered next⟩ : Change σ).gives =
      if (slot.isAtWork || event = some (.start slot.number)) && (next.slots slot).isEmpty then 1 else 0 := by
  have after := moved_slots_perm sound member answered next
  have stays (other : Slot) (among : other ∈ state.others slot) :
      ((state.moved slot answered next).slot? other.number).isNone = false := by
    apply Bool.eq_false_iff.mpr
    intro gone
    exact isNone_slot?_iff.mp gone other
      (after.mem_iff.mpr (List.mem_append_right _ among)) rfl
  have itself : ((state.moved slot answered next).slot? slot.number).isNone = (next.slots slot).isEmpty := by
    rw [Bool.eq_iff_iff, isNone_slot?_iff, List.isEmpty_iff]
    constructor
    · intro gone
      cases next with
      | goes stage =>
          exact (gone _ (after.mem_iff.mpr (List.mem_append_left _ List.mem_cons_self)) rfl).elim
      | ends result => rfl
    · intro ends other among same
      rw [after.mem_iff, ends, List.nil_append, others, List.mem_filter] at among
      simp [same] at among
  have none : (state.others slot).countP (fun other =>
      (other.isAtWork || event = some (.start other.number)) &&
        ((state.moved slot answered next).slot? other.number).isNone) = 0 := by
    apply List.countP_eq_zero.mpr
    intro other among
    simp [stays other among]
  rw [Change.gives, (slots_perm sound.distinct member).countP_eq, List.countP_cons, none, itself,
    Nat.zero_add]

def Balanced (plan : Plan) (free : Nat) (state : State σ) : Prop :=
  free + state.atWork = plan.permits

theorem Balanced.moves {provider : Provider σ} {plan : Plan} {state : State σ} {slot : Slot}
    {event : Event} {answered : σ} {next : Next} {free : Nat} (sound : state.Sound plan)
    (balanced : state.Balanced plan free) (found : state.slot? slot.number = some slot)
    (move : Move provider plan state slot event answered next) :
    (state.moved slot answered next).Balanced plan
      (free - (⟨state, some event, state.moved slot answered next⟩ : Change σ).takes +
        (⟨state, some event, state.moved slot answered next⟩ : Change σ).gives) := by
  have member := mem_of_slot? found
  have working := countP_moved sound member answered next Slot.isAtWork
  have given := gives_moved sound member (some event) answered next
  simp only [Balanced, atWork] at balanced ⊢
  rw [given]
  cases move with
  | begins stage goingOn room | crashesEarly stage goingOn room =>
      -- the permit that is taken was free, since there was room for one more
      simp [Change.takes, Slot.isAtWork, stage, Next.slots, Next.fails, atWork] at working room ⊢
      omega
  | creates stage | isRefused stage | crashesLate stage | expires stage | isReady stage
  | isUnready stage | leavesLine stage | stopsCreating stage | stopsChecking stage
  | destroys stage | abandons stage =>
      simp [Change.takes, Slot.isAtWork, stage, Next.slots, Next.fails] at working ⊢
      omega

-- A request that crashes ends its slot, and the permit of the slot is free again.
theorem Balanced.crashes {plan : Plan} {state : State σ} {slot : Slot} {free : Nat}
    (sound : state.Sound plan) (balanced : state.Balanced plan free)
    (found : state.slot? slot.number = some slot) (working : slot.isAtWork = true) (left : σ) :
    (state.moved slot left (.fails crashed)).Balanced plan
      (free - (⟨state, none, state.moved slot left (.fails crashed)⟩ : Change σ).takes +
        (⟨state, none, state.moved slot left (.fails crashed)⟩ : Change σ).gives) := by
  have member := mem_of_slot? found
  have fewer := countP_moved sound member left (.fails crashed) Slot.isAtWork
  have given := gives_moved sound member none left (.fails crashed)
  simp only [Balanced, atWork] at balanced ⊢
  rw [given]
  simp [Change.takes, working, Next.slots, Next.fails] at fewer ⊢
  omega

-- No slot moves: no permit changes hands.
theorem Balanced.stays {plan : Plan} {before after : State σ} {free : Nat}
    (balanced : before.Balanced plan free) (slots : after.slots = before.slots) (event : Event)
    (unmoved : ∀ number, event ≠ .start number) :
    after.Balanced plan (free - (⟨before, some event, after⟩ : Change σ).takes +
      (⟨before, some event, after⟩ : Change σ).gives) := by
  have taken : (⟨before, some event, after⟩ : Change σ).takes = 0 := by
    cases event with
    | start number => exact (unmoved number rfl).elim
    | _ => rfl
  have given : (⟨before, some event, after⟩ : Change σ).gives = 0 := by
    apply List.countP_eq_zero.mpr
    intro slot member
    have there : (after.slot? slot.number).isNone = false := by
      apply Bool.eq_false_iff.mpr
      intro gone
      exact isNone_slot?_iff.mp gone slot (slots ▸ member) rfl
    simp [there]
  rw [taken, given]
  simpa [Balanced, atWork, slots] using balanced

theorem Balanced.begins {plan : Plan} {state : State σ} {free : Nat} (balanced : state.Balanced plan free)
    (settled : state.isPending = false) :
    (state.beginAttempt plan).Balanced plan
      (free - (⟨state, some .proceed, state.beginAttempt plan⟩ : Change σ).takes +
        (⟨state, some .proceed, state.beginAttempt plan⟩ : Change σ).gives) := by
  obtain ⟨none, _⟩ := state.isPending_eq_false.mp settled
  have queued : (state.dueSlots plan).countP Slot.isAtWork = 0 := by
    apply List.countP_eq_zero.mpr
    intro slot member
    obtain ⟨_, _, _, _, stage⟩ := mem_dueSlots member
    simp [Slot.isAtWork, stage]
  have free : free = plan.permits := by simpa [Balanced, atWork, none] using balanced
  simp [Balanced, atWork, Change.takes, Change.gives, none, beginAttempt, queued, free]

/-- Whatever happens, as many permits are taken as slots begin to work, and as many are given back
as slots end. -/
theorem Balanced.happens {provider : Provider σ} {plan : Plan} {before after : State σ}
    {event : Option Event} {free : Nat} (sound : before.Sound plan)
    (balanced : before.Balanced plan free) (happens : Happens provider plan before event after) :
    after.Balanced plan (free - (⟨before, event, after⟩ : Change σ).takes +
      (⟨before, event, after⟩ : Change σ).gives) := by
  cases happens with
  | crashes found working left => exact balanced.crashes sound found working left
  | steps happens =>
      cases State.step_sound provider plan _ _ _ happens with
      | moves found move => exact balanced.moves sound found move
      | receives inbox => exact balanced.stays (by rw [receive_slots]) .received nofun
      | isCancelled => exact balanced.stays rfl .cancel nofun
      | notices => exact balanced.stays rfl .noticed nofun
      | runsOut => exact balanced.stays rfl .deadline nofun
      | finishes => exact balanced.stays rfl .proceed nofun
      | begins settled => exact balanced.begins settled

end State

theorem Course.balanced {provider : Provider σ} {plan : Plan} {cancelled : Bool} {start : σ}
    {changes : List (Change σ)} {state : State σ}
    (course : Course provider plan (.initial plan cancelled start) changes state) :
    state.Balanced plan (freePermits plan.permits changes) := by
  refine course.keeps_sound (fun past state => state.Balanced plan (freePermits plan.permits past)) ?_ rfl
  intro past before event after sound balanced happens
  rw [freePermits_append]
  exact balanced.happens sound happens

-- No slot is left when the launch is over, so that nobody has a permit.
theorem Course.free_of_finished {provider : Provider σ} {plan : Plan} {cancelled : Bool} {start : σ}
    {changes : List (Change σ)} {state : State σ}
    (course : Course provider plan (.initial plan cancelled start) changes state)
    (finished : state.finished = true) : freePermits plan.permits changes = plan.permits := by
  obtain ⟨none, _⟩ := state.isPending_eq_false.mp (course.sound.settled finished)
  simpa [State.Balanced, State.atWork, none] using course.balanced

end Muster.Launch

/-! ### The gauge of the simulated provider -/

namespace Muster.Simulation

def SameGauge (before after : Simulation) : Prop :=
  after.inFlight = before.inFlight ∧ after.maxInFlight = before.maxInFlight

theorem beginCreate_working {simulation after : Simulation} {millis : Nat}
    (answer : simulation.beginCreate = (.working millis, after)) :
    after.inFlight = simulation.inFlight + 1 ∧
      after.maxInFlight = max simulation.maxInFlight (simulation.inFlight + 1) := by
  unfold beginCreate at answer
  split at answer
  · cases answer
  · cases answer
    exact ⟨rfl, rfl⟩

theorem beginCreate_crashed {simulation after : Simulation}
    (answer : simulation.beginCreate = (.crashed, after)) : SameGauge simulation after := by
  unfold beginCreate at answer
  split at answer
  · cases answer
    exact ⟨rfl, rfl⟩
  · cases answer

theorem finishCreate_gauge (simulation : Simulation) (spec : InstanceSpec) :
    SameGauge simulation.dropCreate (simulation.finishCreate spec).2 := by
  obtain ⟨_, answer⟩ | ⟨_, _, answer⟩ | ⟨_, _, answer⟩ := simulation.finishCreate_cases spec <;>
    rw [answer] <;> exact ⟨rfl, rfl⟩

theorem checkReady_gauge (simulation : Simulation) (id : String) :
    SameGauge simulation (simulation.checkReady id).2 := by
  obtain ⟨_, answer⟩ | ⟨_, _, ⟨_, answer⟩ | ⟨_, answer⟩⟩ := simulation.checkReady_cases id <;>
    rw [answer] <;> exact ⟨rfl, rfl⟩

theorem destroy_gauge (simulation : Simulation) (ids : List String) :
    SameGauge simulation (simulation.destroy ids).2 := by
  unfold destroy
  split <;> exact ⟨rfl, rfl⟩

end Muster.Simulation

namespace Muster.Launch

open Simulation

def Slot.isCreating (slot : Slot) : Bool :=
  match slot.stage with
  | .creating _ => true
  | _ => false

namespace State

theorem countP_isCreating_le_atWork (state : State σ) :
    state.slots.countP Slot.isCreating ≤ state.atWork := by
  apply List.countP_mono_left
  intro slot _ creating
  cases stage : slot.stage <;> simp [Slot.isCreating, Slot.isAtWork, stage] at creating ⊢

structure Gauged (start : Simulation) (permits : Nat) (state : State Simulation) : Prop where
  inFlight : state.provider.inFlight = start.inFlight + state.slots.countP Slot.isCreating
  most : state.provider.maxInFlight ≤ max start.maxInFlight (start.inFlight + permits)

theorem Gauged.moves {plan : Plan} {start : Simulation} {state : State Simulation} {slot : Slot}
    {event : Event} {answered : Simulation} {next : Next} (sound : state.Sound plan)
    (gauged : state.Gauged start plan.permits) (found : state.slot? slot.number = some slot)
    (move : Move Simulation.provider plan state slot event answered next) :
    (state.moved slot answered next).Gauged start plan.permits := by
  have creating := countP_moved sound (mem_of_slot? found) answered next Slot.isCreating
  have shown := gauged.inFlight
  have most := gauged.most
  have keeps (same : SameGauge state.provider answered) (before : slot.isCreating = false)
      (after : (next.slots slot).countP Slot.isCreating = 0) :
      (state.moved slot answered next).Gauged start plan.permits := by
    simp only [before, after] at creating
    constructor
    · rw [moved_provider, same.1, shown]
      simpa using creating.symm
    · rw [moved_provider, same.2]
      exact most
  have drops (same : SameGauge state.provider.dropCreate answered) (before : slot.isCreating = true)
      (after : (next.slots slot).countP Slot.isCreating = 0) :
      (state.moved slot answered next).Gauged start plan.permits := by
    simp only [before, after, if_true] at creating
    constructor
    · rw [moved_provider, same.1]
      change state.provider.inFlight - 1 = _
      omega
    · rw [moved_provider, same.2]
      exact most
  cases move with
  | begins stage goingOn room answer =>
      obtain ⟨inFlight, maxInFlight⟩ := beginCreate_working answer
      have early := countP_isCreating_le_atWork state
      simp [Slot.isCreating, stage, Next.slots] at creating
      constructor
      · rw [moved_provider, inFlight]
        omega
      · -- the slot has a permit now, so that it is among as many as there are permits
        rw [moved_provider, maxInFlight]
        omega
  | crashesEarly stage goingOn room answer =>
      exact keeps (beginCreate_crashed answer) (by simp [Slot.isCreating, stage]) rfl
  | creates stage goingOn answer | isRefused stage goingOn answer | crashesLate stage goingOn answer =>
      obtain rfl : (state.provider.finishCreate slot.spec).2 = answered := congrArg Prod.snd answer
      exact drops (finishCreate_gauge _ _) (by simp [Slot.isCreating, stage]) rfl
  | expires stage | stopsCreating stage =>
      exact drops ⟨rfl, rfl⟩ (by simp [Slot.isCreating, stage]) rfl
  | isReady stage goingOn answer | isUnready stage goingOn answer =>
      obtain rfl : (state.provider.checkReady _).2 = answered := congrArg Prod.snd answer
      exact keeps (checkReady_gauge _ _) (by simp [Slot.isCreating, stage]) rfl
  | leavesLine stage | stopsChecking stage =>
      exact keeps ⟨rfl, rfl⟩ (by simp [Slot.isCreating, stage]) rfl
  | destroys stage answer | abandons stage answer =>
      obtain rfl : (state.provider.destroy _).2 = answered := congrArg Prod.snd answer
      exact keeps (destroy_gauge _ _) (by simp [Slot.isCreating, stage]) rfl

theorem Gauged.step {plan : Plan} {start : Simulation} {before after : State Simulation} {event : Event}
    (sound : before.Sound plan) (gauged : before.Gauged start plan.permits)
    (step : Step Simulation.provider plan before event after) : after.Gauged start plan.permits := by
  cases step with
  | moves found move => exact gauged.moves sound found move
  | receives inbox =>
      constructor
      · rw [receive_provider, receive_slots]
        exact gauged.inFlight
      · rw [receive_provider]
        exact gauged.most
  | isCancelled | notices | runsOut | finishes => exact ⟨gauged.inFlight, gauged.most⟩
  | begins settled =>
      obtain ⟨none, _⟩ := before.isPending_eq_false.mp settled
      have queued : (before.dueSlots plan).countP Slot.isCreating = 0 := by
        apply List.countP_eq_zero.mpr
        intro slot member
        obtain ⟨_, _, _, _, stage⟩ := mem_dueSlots member
        simp [Slot.isCreating, stage]
      constructor
      · have shown := gauged.inFlight
        rw [none] at shown
        exact shown.trans (congrArg _ queued.symm)
      · exact gauged.most

end State

theorem Run.gauged {plan : Plan} {cancelled : Bool} {start : Simulation}
    {trace : List (Moment Simulation)} {state : State Simulation}
    (run : Run Simulation.provider plan (.initial plan cancelled start) trace state) :
    state.Gauged start plan.permits := by
  refine run.keeps_sound (fun _ state => state.Gauged start plan.permits) ?_
    (State.sound_initial plan cancelled start) ⟨rfl, Nat.le_max_left _ _⟩
  exact fun _ _ _ _ sound gauged step => gauged.step sound step

theorem State.Ending.gauge {plan : Plan} {state : State Simulation} {answer : Answer} {after : Simulation}
    (ending : State.Ending Simulation.provider plan state answer after) : SameGauge state.provider after := by
  cases ending with
  | succeeds | leaves => exact ⟨rfl, rfl⟩
  | clearsUp failed told some answer | cannotClearUp failed told some answer =>
      obtain rfl : (state.provider.destroy _).2 = after := congrArg Prod.snd answer
      exact destroy_gauge _ _

/-- A launch leaves as many creations in flight as there were, and has never had more of its own
than it has permits. -/
theorem Completes.gauge {plan : Plan} {cancelled : Bool} {start : Simulation}
    {trace : List (Moment Simulation)} {final : State Simulation}
    (completes : Completes Simulation.provider plan cancelled start trace final) :
    (final.verdict Simulation.provider plan).2.inFlight = start.inFlight ∧
      (final.verdict Simulation.provider plan).2.maxInFlight ≤
        max start.maxInFlight (start.inFlight + plan.permits) := by
  have gauged := completes.run.gauged
  have ending := State.verdict_ending Simulation.provider plan final
  obtain ⟨none, _⟩ := final.isPending_eq_false.mp (completes.sound.settled completes.finished)
  constructor
  · rw [ending.gauge.1, gauged.inFlight, none]
    rfl
  · rw [ending.gauge.2]
    exact gauged.most

/-- A launch never has more slots at work than it may, counted over all groups and attempts:
between taking a permit and ending, a slot creates, checks or destroys, and the permits that
are free and those of such slots are always all there are, whatever a provider answers and
whichever of its requests crashes. So every permit is free when the launch is over, and a
simulated provider never sees more creations at a time than there are permits. -/
theorem launches_within_permits (topology : Topology) (bootstrap : RoleSet → Script)
    (options : LaunchOptions) :
    let plan := plan topology bootstrap options
    let bound := max 1 (options.maxConcurrent.getD topology.maxConcurrentLaunches.toNat)
    (∀ (σ : Type) (provider : Provider σ) (cancelled : Bool) (start : σ) (changes : List (Change σ))
      (state : State σ), Course provider plan (.initial plan cancelled start) changes state →
      state.atWork ≤ bound ∧ freePermits bound changes + state.atWork = bound ∧
        (state.finished = true → freePermits bound changes = bound)) ∧
    (∀ (cancelled : Bool) (start : Simulation) (trace : List (Moment Simulation))
      (state : State Simulation), Run Simulation.provider plan (.initial plan cancelled start) trace state →
      state.provider.maxInFlight ≤ max start.maxInFlight (start.inFlight + bound)) ∧
    (∀ (σ : Type) (provider : Provider σ) (now : Nat) (start : σ), ∃ trace final ended,
      Completes provider plan (options.cancelAt.any (· ≤ now)) start trace final ∧
      run provider topology bootstrap options now start =
        ((final.verdict provider plan).1, ended, (final.verdict provider plan).2) ∧
      freePermits bound (trace.map (Moment.change provider plan)) = bound) ∧
    (∀ (now : Nat) (start : Simulation),
      let after := (run Simulation.provider topology bootstrap options now start).2.2
      after.inFlight = start.inFlight ∧
        after.maxInFlight ≤ max start.maxInFlight (start.inFlight + bound)) := by
  intro plan bound
  have permits : plan.permits = bound := Nat.max_comm _ _
  refine ⟨?_, ?_, ?_, ?_⟩
  · intro σ provider cancelled start changes state course
    have balanced : freePermits bound changes + state.atWork = bound := permits ▸ course.balanced
    exact ⟨by omega, balanced, fun finished => permits ▸ course.free_of_finished finished⟩
  · intro cancelled start trace state run
    exact permits ▸ run.gauged.most
  · intro σ provider now start
    obtain ⟨trace, final, ended, completes, answers, _⟩ :=
      run_completes provider topology bootstrap options now start
    exact ⟨trace, final, ended, completes, answers,
      permits ▸ completes.run.course.free_of_finished completes.finished⟩
  · intro now start
    obtain ⟨trace, final, ended, completes, answers, _⟩ :=
      run_completes Simulation.provider topology bootstrap options now start
    rw [answers]
    exact permits ▸ completes.gauge

/-- One creation crashes, the readiness check of the second machine does too, and the third slot is
cancelled while it creates. -/
theorem launches_within_permits_of_three :
    let topology := plainTopology [⟨.ofList ["worker"], 3, 50, 1⟩] 0
    let plan := plan topology (fun _ => ⟨[], []⟩) .none
    let start := { Simulation.new with faults.crashes := 1 }
    ∃ (early late final : State Simulation) (changes : List (Change Simulation)),
      Course Simulation.provider plan (.initial plan false start) changes final ∧
      early.atWork = 2 ∧ early.crash 1 = some late ∧ late.atWork = 1 ∧ final.finished = true ∧
      freePermits 2 changes = 2 := by
  intro topology plan start
  let before := State.initial plan false start
  have happens : ((before.replay Simulation.provider plan
      [.proceed, .start 0, .start 1, .start 2, .created 1]).bind fun early =>
      (early.crash 1).bind fun late => (late.replay Simulation.provider plan
        [.cancel, .aborted 2, .received, .received, .received, .proceed]).map fun final =>
          (early.atWork, late.atWork, final.finished)) = some (2, 1, true) := by decide +kernel
  obtain ⟨early, begins, happens⟩ := Option.bind_eq_some_iff.mp happens
  obtain ⟨late, crashes, happens⟩ := Option.bind_eq_some_iff.mp happens
  obtain ⟨final, ends, same⟩ := Option.map_eq_some_iff.mp happens
  simp only [Prod.mk.injEq] at same
  obtain ⟨two, one, finished⟩ := same
  have course := ((Run.of_replay begins).course.append (.of_crash crashes)).append
    (Run.of_replay ends).course
  obtain ⟨_, _, free⟩ := (launches_within_permits topology (fun _ => ⟨[], []⟩) .none).1 _
    Simulation.provider false start _ final course
  exact ⟨early, late, final, _, course, two, crashes, one, finished, free finished⟩

end Muster.Launch
