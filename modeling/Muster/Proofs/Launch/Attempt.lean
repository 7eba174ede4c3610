import Mathlib
import Muster.Proofs.Launch.Timing

/-!
The lines that the slots of an attempt stand in. While nobody has cancelled, every slot is
in one place: it is ready, it waits in line for a permit, or it waits for a timer, and the
event that it is there for is one that can happen to it. Permits are not given away twice,
and nobody stands in line while a permit is free. One slot at a time is taken out of its
place, goes on for a while, and is put in another or ends; that is what keeps the lines in
order.
-/

namespace Muster.Launch

variable {σ : Type}

inductive Awaits (plan : Plan) (slot : Slot) : Event → Prop where
  | permit (stage : slot.stage = .queued) : Awaits plan slot (.start slot.number)
  | creation {millis : Nat} (stage : slot.stage = .creating millis) :
      Awaits plan slot (.created slot.number)
  | limit {millis : Nat} (stage : slot.stage = .creating millis)
      (limited : plan.timeLimit.isSome = true) : Awaits plan slot (.expired slot.number)
  | check {node : Node} {millis : Nat} (stage : slot.stage = .checking node millis) :
      Awaits plan slot (.checked slot.number)

theorem Awaits.slotOf {plan : Plan} {slot : Slot} {event : Event} (awaits : Awaits plan slot event) :
    Schedule.slotOf? event = some slot.number := by
  cases awaits <;> rfl

def Next.slots (slot : Slot) : Next → List Slot
  | .goes stage => [{ slot with stage }]
  | .ends _ => []

namespace State

theorem slot?_of_mem {state : State σ} (distinct : (state.slots.map Slot.number).Nodup) {slot : Slot}
    (member : slot ∈ state.slots) : state.slot? slot.number = some slot := by
  unfold slot?
  generalize state.slots = slots at distinct member
  induction slots with
  | nil => cases member
  | cons head rest ih =>
      simp only [List.map_cons, List.nodup_cons, List.mem_map, not_exists, not_and] at distinct
      rcases List.mem_cons.mp member with same | later
      · simp [same]
      · have different : head.number ≠ slot.number := fun same => distinct.1 slot later same.symm
        rw [List.find?_cons_of_neg (by simpa using different)]
        exact ih distinct.2 later

structure Attending (plan : Plan) (attempt : Nat) (state : State σ) : Prop where
  sound : state.Sound plan
  heard : state.inbox = []
  attempt : state.attempt = attempt
  unfinished : state.finished = false

theorem moved_slots_perm {plan : Plan} {state : State σ} (sound : state.Sound plan) {slot : Slot}
    (member : slot ∈ state.slots) (answered : σ) (next : Next) :
    (state.moved slot answered next).slots.Perm (next.slots slot ++ state.others slot) := by
  cases next with
  | goes stage =>
      change ({ state with provider := answered }.setStage slot.number stage).slots.Perm _
      exact setStage_slots_perm stage sound.distinct member
  | ends result => exact .refl _

-- Only the slot that moves counts differently afterwards.
theorem countP_moved {plan : Plan} {state : State σ} (sound : state.Sound plan) {slot : Slot}
    (member : slot ∈ state.slots) (answered : σ) (next : Next) (which : Slot → Bool) :
    (state.moved slot answered next).slots.countP which + (if which slot then 1 else 0) =
      state.slots.countP which + (next.slots slot).countP which := by
  have before := (slots_perm sound.distinct member).countP_eq which
  have after := (moved_slots_perm sound member answered next).countP_eq which
  rw [List.countP_cons] at before
  rw [List.countP_append] at after
  omega

-- What a slot waits for can happen as long as nobody has cancelled.
theorem can_awaited (provider : Provider σ) {plan : Plan} {state : State σ} {slot : Slot}
    {event : Event} (found : state.slot? slot.number = some slot) (goingOn : state.cancelled = false)
    (room : slot.stage = .queued → state.atWork < plan.permits) (awaits : Awaits plan slot event) :
    (state.step provider plan event).isSome = true := by
  cases awaits with
  | permit stage => simp [step, found, stage, goingOn, room stage]
  | creation stage => simp [step, found, stage, goingOn]
  | limit stage limited =>
      obtain ⟨limit, limited⟩ := Option.isSome_iff_exists.mp limited
      simp [step, found, stage, limited, goingOn]
  | check stage => simp [step, found, stage, goingOn]

theorem can_discard (provider : Provider σ) (plan : Plan) {state : State σ} {slot : Slot} {node : Node}
    {cause : String} (found : state.slot? slot.number = some slot)
    (stage : slot.stage = .destroying node cause) :
    (state.step provider plan (.discarded slot.number)).isSome = true := by
  simp [step, found, stage]

theorem can_abort (provider : Provider σ) (plan : Plan) {state : State σ} {slot : Slot}
    (found : state.slot? slot.number = some slot) (ended : state.cancelled = true)
    (keeps : ∀ node cause, slot.stage ≠ .destroying node cause) :
    (state.step provider plan (.aborted slot.number)).isSome = true := by
  cases stage : slot.stage with
  | queued | creating | checking => simp [step, found, ended, abortSlot, stage]
  | destroying node cause => exact (keeps node cause stage).elim

end State

namespace Schedule

variable (provider : Provider σ) (plan : Plan)

theorem apply_of_quiet {event : Event} {schedule : Schedule σ} {next : State σ}
    (happens : schedule.state.step provider plan event = some next) (quiet : next.inbox = []) :
    (schedule.apply provider plan event).state = next := by
  simp only [apply, happens, Option.getD_some, quiet]
  rfl

theorem apply_of_arrival {event : Event} {schedule : Schedule σ} {next : State σ} {arrival : Arrival}
    (happens : schedule.state.step provider plan event = some next) (arrived : next.inbox = [arrival]) :
    (schedule.apply provider plan event).state = { next with inbox := [] }.receive arrival := by
  have reads : next.step provider plan .received = some ({ next with inbox := [] }.receive arrival) := by
    simp only [State.step, arrived]
  simp only [apply, happens, Option.getD_some, arrived, reads]
  rfl

theorem apply_of_none {schedule : Schedule σ} (event : Event)
    (cannot : schedule.state.step provider plan event = none) (quiet : schedule.state.inbox = []) :
    (schedule.apply provider plan event).state = schedule.state := by
  simp only [apply, cannot, Option.getD_none, quiet]
  rfl

structure Moves (attempt : Nat) (slot : Slot) (next : Next) (before after : Schedule σ) : Prop where
  attending : after.state.Attending plan attempt
  cancelled : after.state.cancelled = before.state.cancelled
  slots : after.state.slots.Perm (next.slots slot ++ before.state.others slot)

/-- An event that can happen to a slot moves it, and nothing stays unread. -/
theorem apply_moves (event : Event) {attempt : Nat} {schedule : Schedule σ}
    (attending : schedule.state.Attending plan attempt) {slot : Slot}
    (member : slot ∈ schedule.state.slots) (of : slotOf? event = some slot.number)
    (can : (schedule.state.step provider plan event).isSome = true) :
    ∃ answered next, Move provider plan schedule.state slot event answered next ∧
      Moves plan attempt slot next schedule (schedule.apply provider plan event) := by
  obtain ⟨after, happens⟩ := Option.isSome_iff_exists.mp can
  cases State.step_sound provider plan _ _ _ happens with
  | moves found move =>
      rename_i other answered next
      have same : other = slot := by
        have number : other.number = slot.number := by
          cases move <;> exact Option.some.inj of
        rw [number, State.slot?_of_mem attending.sound.distinct member] at found
        exact (Option.some.inj found).symm
      subst same
      refine ⟨answered, next, move, ?_⟩
      have sound := attending.sound.moved member answered next
      have slots := State.moved_slots_perm attending.sound member answered next
      cases next with
      | goes stage =>
          have applied := apply_of_quiet provider plan happens attending.heard
          exact ⟨applied ▸ ⟨sound, attending.heard, attending.attempt, attending.unfinished⟩,
            applied ▸ rfl, applied ▸ slots⟩
      | ends result =>
          have arrived : (schedule.state.moved other answered (.ends result)).inbox =
              [⟨other.group, result⟩] := by
            simp [State.moved, State.endSlot, attending.heard]
          have applied := apply_of_arrival provider plan happens arrived
          refine ⟨⟨applied ▸ sound.receives arrived, ?_, ?_, ?_⟩, ?_, ?_⟩
          · rw [applied, State.receive_inbox]
          · rw [applied, State.receive_attempt]
            exact attending.attempt
          · rw [applied, State.receive_finished]
            exact attending.unfinished
          · rw [applied, State.receive_cancelled]
            rfl
          · rw [applied, State.receive_slots]
            exact slots
  | receives | isCancelled | notices | runsOut | finishes | begins => cases of

/-! ### Lines in order -/

def waiting (schedule : Schedule σ) : List Event :=
  schedule.line.map .start ++ schedule.timers.map Timer.event

def tasks (schedule : Schedule σ) : List Event := schedule.ready ++ schedule.waiting

/-- The slots `rest` stand in the lines, each for an event of its own, while so many others
have a permit too. -/
structure Queues (rest : List Slot) (others : Nat) (schedule : Schedule σ) : Prop where
  tasks : (schedule.tasks.map slotOf?).Perm (rest.map fun slot => some slot.number)
  awaited : ∀ event ∈ schedule.tasks, ∃ slot ∈ rest, Awaits plan slot event
  waits : (schedule.waits.map some).Perm (schedule.waiting.map slotOf?)
  kept : ∀ number ∈ schedule.reserved, .start number ∈ schedule.ready
  once : schedule.reserved.Nodup
  fits : rest.countP Slot.isAtWork + others + schedule.reserved.length ≤ plan.permits
  busy : schedule.line ≠ [] →
    plan.permits ≤ rest.countP Slot.isAtWork + others + schedule.reserved.length
  given : schedule.deadlineAt.isSome = true → plan.deadline.isSome = true

variable {provider : Provider σ} {plan : Plan}

theorem Queues.perm {rest same : List Slot} {others : Nat} {schedule : Schedule σ}
    (queues : Queues plan rest others schedule) (perm : rest.Perm same) :
    Queues plan same others schedule where
  tasks := queues.tasks.trans (perm.map _)
  awaited := fun event among =>
    let ⟨slot, member, awaits⟩ := queues.awaited event among
    ⟨slot, perm.mem_iff.mp member, awaits⟩
  waits := queues.waits
  kept := queues.kept
  once := queues.once
  fits := perm.countP_eq Slot.isAtWork ▸ queues.fits
  busy := perm.countP_eq Slot.isAtWork ▸ queues.busy
  given := queues.given

-- No slot has two places.
theorem Queues.distinct {rest : List Slot} {others : Nat} {schedule : Schedule σ}
    (queues : Queues plan rest others schedule) (distinct : (rest.map Slot.number).Nodup) :
    (schedule.tasks.map slotOf?).Nodup := by
  refine queues.tasks.nodup_iff.mpr (List.pairwise_map.mpr ?_)
  exact (List.pairwise_map.mp distinct).imp fun different same => different (Option.some.inj same)

theorem passPermit_tasks (schedule : Schedule σ) : schedule.passPermit.tasks = schedule.tasks := by
  unfold passPermit
  split
  · rfl
  · rename_i line
    simp [tasks, waiting, line]

-- Slots move without a change to the lines.
theorem Queues.apply {rest : List Slot} {others : Nat} {schedule : Schedule σ}
    (queues : Queues plan rest others schedule) (event : Event) :
    Queues plan rest others (schedule.apply provider plan event) :=
  ⟨queues.1, queues.2, queues.3, queues.4, queues.5, queues.6, queues.7, queues.8⟩

end Schedule

/-- How many turns may still be taken for an event: one for the event itself, and one for
each wait that the slot may have after it. -/
def Event.turns : Event → Nat
  | .start _ => 7
  | .created _ | .expired _ => 4
  | .checked _ => 2
  | _ => 1

namespace Schedule

variable {provider : Provider σ} {plan : Plan}

/-- How many turns the slots of an attempt may still take. -/
def turns (schedule : Schedule σ) : Nat :=
  (schedule.ready.map Event.turns).sum + 6 * schedule.line.length +
    (schedule.timers.map fun timer => timer.event.turns + 1).sum

structure Orderly (plan : Plan) (attempt turns : Nat) (schedule : Schedule σ) : Prop where
  attending : schedule.state.Attending plan attempt
  goingOn : schedule.state.cancelled = false
  queues : Queues plan schedule.state.slots 0 schedule
  turns : schedule.turns ≤ turns

theorem Orderly.weaken {attempt turns more : Nat} {schedule : Schedule σ}
    (orderly : Orderly plan attempt turns schedule) (fewer : turns ≤ more) :
    Orderly plan attempt more schedule :=
  ⟨orderly.attending, orderly.goingOn, orderly.queues, Nat.le_trans orderly.turns fewer⟩

structure Attends (plan : Plan) (attempt number : Nat) (rest : List Slot) (turns : Nat)
    (schedule : Schedule σ) : Prop where
  attending : schedule.state.Attending plan attempt
  goingOn : schedule.state.cancelled = false
  apart : number ∉ rest.map Slot.number
  queues : Queues plan rest 1 schedule
  turns : schedule.turns ≤ turns

namespace Attends

variable {attempt number turns : Nat} {rest : List Slot} {schedule : Schedule σ}

-- A slot that has ended leaves its permit to the first in line.
theorem passes (attends : Attends plan attempt number rest turns schedule)
    (ended : schedule.state.slots.Perm rest) :
    Orderly plan attempt (turns + 1) schedule.passPermit := by
  have queues := attends.queues
  have tasks := passPermit_tasks schedule
  unfold passPermit at tasks ⊢
  split at tasks
  · rename_i nobody
    refine ⟨attends.attending, attends.goingOn, .perm ⟨queues.tasks, queues.awaited, queues.waits,
      queues.kept, queues.once, ?_, fun some => (some nobody).elim, queues.given⟩ ended.symm,
      Nat.le_succ_of_le attends.turns⟩
    have fits := queues.fits
    omega
  · rename_i first later line
    have unkept : first ∉ schedule.reserved := by
      -- otherwise the first in line would be ready as well, and have two places
      intro kept
      have distinct := (queues.perm ended.symm).distinct attends.attending.sound.distinct
      rw [Schedule.tasks, List.map_append, List.nodup_append] at distinct
      refine distinct.2.2 (some first) ?_ (some first) ?_ rfl
      · exact List.mem_map.mpr ⟨_, queues.kept first kept, rfl⟩
      · exact List.mem_map.mpr ⟨.start first, by simp [waiting, line], rfl⟩
    refine ⟨attends.attending, attends.goingOn, .perm ⟨?_, ?_, ?_, ?_, ?_, ?_, ?_, queues.given⟩ ended.symm,
      ?_⟩
    · rw [tasks]
      exact queues.tasks
    · rw [tasks]
      exact queues.awaited
    · have gone := queues.waits.erase (some first)
      rw [← List.map_erase fun _ _ => Option.some.inj] at gone
      simpa [waiting, line, slotOf?] using gone
    · intro number among
      rcases List.mem_cons.mp among with same | early
      · simp [same]
      · exact List.mem_append_left _ (queues.kept number early)
    · exact List.nodup_cons.mpr ⟨unkept, queues.once⟩
    · have fits := queues.fits
      simp only [List.length_cons]
      omega
    · intro _
      have busy := queues.busy (by simp [line])
      simp only [List.length_cons]
      omega
    · have turns := attends.turns
      simp only [Schedule.turns, line, List.length_cons, List.map_append, List.map_cons, List.map_nil,
        List.sum_append, List.sum_cons, List.sum_nil, Event.turns] at turns ⊢
      omega

-- A slot that waits for a timer keeps its permit.
theorem sets {slot : Slot} (attends : Attends plan attempt slot.number rest turns schedule)
    (among : schedule.state.slots.Perm (slot :: rest)) (working : slot.isAtWork = true) {event : Event}
    (awaits : Awaits plan slot event) (millis : Nat) :
    Orderly plan attempt (turns + event.turns + 1) (schedule.setTimer slot.number millis event) := by
  have queues := attends.queues
  have tasks : (schedule.setTimer slot.number millis event).tasks = schedule.tasks ++ [event] := by
    simp [setTimer, wait, Schedule.tasks, waiting]
  refine ⟨attends.attending, attends.goingOn, .perm ⟨?_, ?_, ?_, queues.kept, queues.once, ?_, ?_,
    queues.given⟩ among.symm, ?_⟩
  · rw [tasks, List.map_append, List.map_cons]
    exact (queues.tasks.append_right _).trans (awaits.slotOf ▸ List.perm_append_singleton _ _)
  · rw [tasks]
    intro other member
    rcases List.mem_append.mp member with early | last
    · obtain ⟨holder, inRest, awaited⟩ := queues.awaited other early
      exact ⟨holder, List.mem_cons_of_mem _ inRest, awaited⟩
    · exact ⟨slot, List.mem_cons_self, List.mem_singleton.mp last ▸ awaits⟩
  · have added := queues.waits.append_right [some slot.number]
    simpa [setTimer, wait, waiting, awaits.slotOf] using added
  · have fits := queues.fits
    rw [List.countP_cons_of_pos working]
    change _ + 0 + schedule.reserved.length ≤ _
    omega
  · intro waits
    have busy := queues.busy waits
    rw [List.countP_cons_of_pos working]
    change _ ≤ _ + 0 + schedule.reserved.length
    omega
  · have turns := attends.turns
    simp only [Schedule.turns, setTimer, wait, List.map_append, List.map_cons, List.map_nil,
      List.sum_append, List.sum_cons, List.sum_nil] at turns ⊢
    omega

theorem moves {slot : Slot} {event : Event} {next : Next}
    (attends : Attends plan attempt slot.number rest turns schedule)
    (among : schedule.state.slots.Perm (slot :: rest))
    (moves : Moves plan attempt slot next schedule (schedule.apply provider plan event)) :
    Attends plan attempt slot.number rest turns (schedule.apply provider plan event) ∧
      (schedule.apply provider plan event).state.slots.Perm (next.slots slot ++ rest) := by
  have member : slot ∈ schedule.state.slots := among.mem_iff.mpr List.mem_cons_self
  have others : (schedule.state.others slot).Perm rest :=
    ((State.slots_perm attends.attending.sound.distinct member).symm.trans among).cons_inv
  exact ⟨⟨moves.attending, moves.cancelled.trans attends.goingOn, attends.apart,
    attends.queues.apply event, attends.turns⟩, moves.slots.trans (others.append_left _)⟩

theorem weaken {more : Nat} (attends : Attends plan attempt number rest turns schedule)
    (fewer : turns ≤ more) : Attends plan attempt number rest more schedule :=
  ⟨attends.attending, attends.goingOn, attends.apart, attends.queues, Nat.le_trans attends.turns fewer⟩

end Attends

/-! A slot in its turn, stage by stage and from the last stage back. -/

section Turn

variable {attempt turns : Nat} (slot : Slot) {rest : List Slot} {schedule : Schedule σ}

theorem goOn_ended (attends : Attends plan attempt slot.number rest turns schedule)
    (ended : schedule.state.slots.Perm rest) (fuel : Nat) :
    Orderly plan attempt (turns + 1) (goOn provider plan slot.number (fuel + 1) schedule) := by
  have gone : schedule.state.slot? slot.number = none := by
    apply List.find?_eq_none.mpr
    intro other member
    have inRest := List.mem_map_of_mem (f := Slot.number) (ended.mem_iff.mp member)
    simp only [decide_eq_true_eq]
    intro same
    exact attends.apart (same ▸ inRest)
  simp only [goOn, gone]
  exact attends.passes ended

theorem goOn_destroying (attends : Attends plan attempt slot.number rest turns schedule)
    (among : schedule.state.slots.Perm (slot :: rest)) {node : Node} {cause : String}
    (stage : slot.stage = .destroying node cause) (fuel : Nat) :
    Orderly plan attempt (turns + 1) (goOn provider plan slot.number (fuel + 2) schedule) := by
  have member : slot ∈ schedule.state.slots := among.mem_iff.mpr List.mem_cons_self
  have found := State.slot?_of_mem attends.attending.sound.distinct member
  obtain ⟨answered, next, move, moves⟩ := apply_moves provider plan (.discarded slot.number)
    attends.attending member rfl (State.can_discard provider plan found stage)
  obtain ⟨later, slots⟩ := attends.moves among moves
  rw [goOn]
  simp only [found, stage]
  cases move with
  | destroys | abandons => exact goOn_ended slot later slots fuel

theorem goOn_checking (attends : Attends plan attempt slot.number rest turns schedule)
    (among : schedule.state.slots.Perm (slot :: rest)) {node : Node} {millis : Nat}
    (stage : slot.stage = .checking node millis) (fuel : Nat) :
    Orderly plan attempt (turns + 3) (goOn provider plan slot.number (fuel + 3) schedule) := by
  have member : slot ∈ schedule.state.slots := among.mem_iff.mpr List.mem_cons_self
  have found := State.slot?_of_mem attends.attending.sound.distinct member
  have awaits : Awaits plan slot (.checked slot.number) := .check stage
  rw [goOn]
  simp only [found, stage]
  split
  · obtain ⟨answered, next, move, moves⟩ := apply_moves provider plan _ attends.attending member rfl
      (State.can_awaited provider found attends.goingOn (by simp [stage]) awaits)
    obtain ⟨later, slots⟩ := attends.moves among moves
    have later := later.weaken (Nat.le_add_right turns 2)
    cases move with
    | isReady => exact goOn_ended slot later slots (fuel + 1)
    | isUnready => exact goOn_destroying { slot with stage := .destroying _ _ } later slots rfl fuel
  · exact attends.sets among (by simp [Slot.isAtWork, stage]) awaits millis

theorem goOn_creating (attends : Attends plan attempt slot.number rest turns schedule)
    (among : schedule.state.slots.Perm (slot :: rest)) {millis : Nat}
    (stage : slot.stage = .creating millis) (fuel : Nat) :
    Orderly plan attempt (turns + 5) (goOn provider plan slot.number (fuel + 4) schedule) := by
  have member : slot ∈ schedule.state.slots := among.mem_iff.mpr List.mem_cons_self
  have found := State.slot?_of_mem attends.attending.sound.distinct member
  have working : slot.isAtWork = true := by simp [Slot.isAtWork, stage]
  have later {event : Event} (awaits : Awaits plan slot event) :=
    apply_moves provider plan _ attends.attending member awaits.slotOf
      (State.can_awaited provider found attends.goingOn (by simp [stage]) awaits)
  have creation : Awaits plan slot (.created slot.number) := .creation stage
  have limited (less : plan.timeLimit.getD millis ≠ millis) : plan.timeLimit.isSome = true := by
    cases limit : plan.timeLimit with
    | none => exact (less (by rw [limit]; rfl)).elim
    | some _ => rfl
  rw [goOn]
  simp only [found, stage]
  split
  · obtain ⟨answered, next, move, moves⟩ := later creation
    obtain ⟨later, slots⟩ := attends.moves among moves
    cases move with
    | creates =>
        exact goOn_checking { slot with stage := .checking _ _ }
          (later.weaken (Nat.le_add_right turns 2)) slots rfl fuel
    | isRefused | crashesLate =>
        exact goOn_ended slot (later.weaken (Nat.le_add_right turns 4)) slots (fuel + 2)
  · split
    · obtain ⟨answered, next, move, moves⟩ := later (.limit stage (limited (by omega)))
      obtain ⟨later, slots⟩ := attends.moves among moves
      cases move with
      | expires => exact goOn_ended slot (later.weaken (Nat.le_add_right turns 4)) slots (fuel + 2)
    · split
      · exact attends.sets among working (.limit stage (limited (by omega))) _
      · exact attends.sets among working creation millis

theorem goOn_started (attends : Attends plan attempt slot.number rest turns schedule)
    (among : schedule.state.slots.Perm (slot :: rest)) (stage : slot.stage = .queued) (fuel : Nat) :
    Orderly plan attempt (turns + 5)
      (goOn provider plan slot.number (fuel + 4) (schedule.apply provider plan (.start slot.number))) := by
  have member : slot ∈ schedule.state.slots := among.mem_iff.mpr List.mem_cons_self
  have found := State.slot?_of_mem attends.attending.sound.distinct member
  have room : schedule.state.atWork < plan.permits := by
    have fits := attends.queues.fits
    rw [State.atWork, among.countP_eq Slot.isAtWork,
      List.countP_cons_of_neg (by simp [Slot.isAtWork, stage])]
    omega
  obtain ⟨answered, next, move, moves⟩ := apply_moves provider plan _ attends.attending member rfl
    (State.can_awaited provider found attends.goingOn (fun _ => room) (.permit stage))
  obtain ⟨later, slots⟩ := attends.moves among moves
  cases move with
  | begins => exact goOn_creating { slot with stage := .creating _ } later slots rfl fuel
  | crashesEarly => exact goOn_ended slot (later.weaken (Nat.le_add_right turns 4)) slots (fuel + 3)

end Turn

section Order

variable {attempt turns : Nat} {schedule : Schedule σ} {event : Event} {later : List Event}

-- Taking a slot out of its place leaves the rest in theirs.
theorem Queues.takes {slots rest : List Slot} {slot : Slot} (queues : Queues plan slots 0 schedule)
    (distinct : (slots.map Slot.number).Nodup) (among : slots.Perm (slot :: rest))
    (ready : schedule.ready = event :: later) (awaits : Awaits plan slot event) :
    ((later ++ schedule.waiting).map slotOf?).Perm (rest.map fun slot => some slot.number) ∧
      ∀ other ∈ later ++ schedule.waiting, ∃ holder ∈ rest, Awaits plan holder other := by
  have tasks : ((later ++ schedule.waiting).map slotOf?).Perm
      (rest.map fun slot => some slot.number) := by
    have all := queues.tasks.trans (among.map _)
    simp only [Schedule.tasks, ready, List.cons_append, List.map_cons, awaits.slotOf] at all
    exact all.cons_inv
  refine ⟨tasks, fun other member => ?_⟩
  obtain ⟨holder, inSlots, awaited⟩ := queues.awaited other
    (by simp only [Schedule.tasks, ready]; exact List.mem_cons_of_mem _ member)
  rcases List.mem_cons.mp (among.mem_iff.mp inSlots) with same | inRest
  · -- the slot was ready for `event` and would have a second place
    have again := tasks.mem_iff.mp (List.mem_map_of_mem (f := slotOf?) member)
    rw [awaited.slotOf, same] at again
    obtain ⟨twin, inRest, number⟩ := List.mem_map.mp again
    have apart := (among.map Slot.number).nodup_iff.mp distinct
    rw [List.map_cons, List.nodup_cons] at apart
    exact (apart.1 (Option.some.inj number ▸ List.mem_map_of_mem inRest)).elim
  · exact ⟨holder, inRest, awaited⟩

structure Taken (plan : Plan) (attempt turns : Nat) (slot : Slot) (rest : List Slot) (event : Event)
    (later : List Event) (schedule : Schedule σ) : Prop where
  orderly : Orderly plan attempt turns schedule
  ready : schedule.ready = event :: later
  awaits : Awaits plan slot event
  slots : schedule.state.slots.Perm (slot :: rest)
  apart : slot.number ∉ rest.map Slot.number
  tasks : ((later ++ schedule.waiting).map slotOf?).Perm (rest.map fun slot => some slot.number)
  awaited : ∀ other ∈ later ++ schedule.waiting, ∃ holder ∈ rest, Awaits plan holder other

theorem Orderly.takes (orderly : Orderly plan attempt turns schedule)
    (ready : schedule.ready = event :: later) :
    ∃ slot rest, Taken plan attempt turns slot rest event later schedule := by
  have distinct := orderly.attending.sound.distinct
  obtain ⟨slot, member, awaits⟩ := orderly.queues.awaited event (by simp [Schedule.tasks, ready])
  have among := State.slots_perm distinct member
  obtain ⟨tasks, awaited⟩ := orderly.queues.takes distinct among ready awaits
  have apart := List.nodup_cons.mp ((among.map Slot.number).nodup_iff.mp distinct)
  exact ⟨slot, _, orderly, ready, awaits, among, apart.1, tasks, awaited⟩

namespace Taken

variable {slot : Slot} {rest : List Slot}

theorem left (taken : Taken plan attempt turns slot rest event later schedule) :
    ({ schedule with ready := later } : Schedule σ).turns + event.turns ≤ turns := by
  have turns := taken.orderly.turns
  simp only [Schedule.turns, taken.ready, List.map_cons, List.sum_cons] at turns ⊢
  omega

theorem kept (taken : Taken plan attempt turns slot rest event later schedule) {number : Nat}
    (reserved : number ∈ schedule.reserved) (other : event ≠ .start number) : .start number ∈ later := by
  have among := taken.orderly.queues.kept number reserved
  rw [taken.ready] at among
  exact (List.mem_cons.mp among).resolve_left fun same => other same.symm

theorem goesOn (taken : Taken plan attempt turns slot rest event later schedule)
    (working : slot.isAtWork = true) (begun : ∀ number, event ≠ .start number) :
    Attends plan attempt slot.number rest (turns - event.turns) { schedule with ready := later } := by
  have queues := taken.orderly.queues.perm taken.slots
  have fits := queues.fits
  have busy := queues.busy
  have left := taken.left
  rw [List.countP_cons_of_pos working] at fits busy
  refine ⟨taken.orderly.attending, taken.orderly.goingOn, taken.apart, ⟨taken.tasks, taken.awaited,
    queues.waits, fun number reserved => taken.kept reserved (begun number), queues.once, ?_, ?_,
    queues.given⟩, by omega⟩
  · change _ + 1 + schedule.reserved.length ≤ _
    omega
  · intro waits
    have full := busy waits
    change _ ≤ _ + 1 + schedule.reserved.length
    omega

theorem moves (provider : Provider σ) (taken : Taken plan attempt turns slot rest event later schedule)
    (working : slot.isAtWork = true) (begun : ∀ number, event ≠ .start number) :
    ∃ answered next, Move provider plan schedule.state slot event answered next ∧
      Attends plan attempt slot.number rest (turns - event.turns)
        (Schedule.apply provider plan event { schedule with ready := later }) ∧
      (Schedule.apply provider plan event { schedule with ready := later }).state.slots.Perm
        (next.slots slot ++ rest) := by
  have orderly := taken.orderly
  have member : slot ∈ schedule.state.slots := taken.slots.mem_iff.mpr List.mem_cons_self
  have found := State.slot?_of_mem orderly.attending.sound.distinct member
  have busy : slot.stage ≠ .queued := by simpa [Slot.isAtWork] using working
  have attends := taken.goesOn working begun
  obtain ⟨answered, next, move, moves⟩ := apply_moves provider plan _ attends.attending member
    taken.awaits.slotOf
    (State.can_awaited provider found orderly.goingOn (fun queued => (busy queued).elim) taken.awaits)
  obtain ⟨later, slots⟩ := attends.moves taken.slots moves
  exact ⟨answered, next, move, later, slots⟩

-- A slot that a permit is kept for takes it.
theorem takesKept (taken : Taken plan attempt turns slot rest (.start slot.number) later schedule)
    (queued : slot.isAtWork = false) (reserved : slot.number ∈ schedule.reserved) :
    Attends plan attempt slot.number rest (turns - 7)
      { schedule with ready := later, reserved := schedule.reserved.erase slot.number } := by
  have queues := taken.orderly.queues.perm taken.slots
  have fits := queues.fits
  have busy := queues.busy
  have left := taken.left
  have fewer := List.length_erase_add_one reserved
  rw [List.countP_cons_of_neg (by simp [queued])] at fits busy
  refine ⟨taken.orderly.attending, taken.orderly.goingOn, taken.apart, ⟨taken.tasks, taken.awaited,
    queues.waits, ?_, queues.once.erase _, ?_, ?_, queues.given⟩, Nat.le_sub_of_add_le left⟩
  · intro number among
    have other := (queues.once.mem_erase_iff.mp among).1
    exact taken.kept (List.mem_of_mem_erase among) fun same => other (Event.start.inj same).symm
  · change _ + 1 + (schedule.reserved.erase slot.number).length ≤ _
    omega
  · intro waits
    have full := busy waits
    change _ ≤ _ + 1 + (schedule.reserved.erase slot.number).length
    omega

theorem takesFree (taken : Taken plan attempt turns slot rest (.start slot.number) later schedule)
    (queued : slot.isAtWork = false) (unkept : slot.number ∉ schedule.reserved)
    (free : schedule.hasPermit plan = true) :
    Attends plan attempt slot.number rest (turns - 7) { schedule with ready := later } := by
  have queues := taken.orderly.queues.perm taken.slots
  have busy := queues.busy
  have free : rest.countP Slot.isAtWork + schedule.reserved.length < plan.permits := by
    simpa [hasPermit, State.atWork, taken.slots.countP_eq, queued] using free
  rw [List.countP_cons_of_neg (by simp [queued])] at busy
  refine ⟨taken.orderly.attending, taken.orderly.goingOn, taken.apart, ⟨taken.tasks, taken.awaited,
    queues.waits, ?_, queues.once, ?_, ?_, queues.given⟩, Nat.le_sub_of_add_le taken.left⟩
  · intro number reserved
    refine taken.kept reserved fun same => unkept ?_
    exact Event.start.inj same ▸ reserved
  · change _ + 1 + schedule.reserved.length ≤ _
    omega
  · intro waits
    have full := busy waits
    omega

-- A slot gets in line when there is no permit for it.
theorem linesUp (taken : Taken plan attempt (turns + 1) slot rest (.start slot.number) later schedule)
    (stage : slot.stage = .queued) (unkept : slot.number ∉ schedule.reserved)
    (full : schedule.hasPermit plan = false) :
    Orderly plan attempt turns
      ({ schedule with ready := later, line := schedule.line ++ [slot.number] }.wait slot.number) := by
  have queues := taken.orderly.queues
  have left := taken.left
  have waiting : ((schedule.line ++ [slot.number]).map Event.start ++
      schedule.timers.map Timer.event).Perm (.start slot.number :: schedule.waiting) := by
    simp only [List.map_append, List.map_cons, List.map_nil, Schedule.waiting, List.append_assoc,
      List.singleton_append]
    exact List.perm_middle
  have tasks := (waiting.append_left later).trans List.perm_middle
  refine ⟨taken.orderly.attending, taken.orderly.goingOn, .perm ⟨(tasks.map slotOf?).trans ?_, ?_, ?_,
    ?_, queues.once, ?_, ?_, queues.given⟩ taken.slots.symm, ?_⟩
  · exact taken.tasks.cons _
  · intro other member
    rcases List.mem_cons.mp (tasks.mem_iff.mp member) with same | early
    · exact ⟨slot, List.mem_cons_self, same ▸ .permit stage⟩
    · obtain ⟨holder, inRest, awaits⟩ := taken.awaited other early
      exact ⟨holder, List.mem_cons_of_mem _ inRest, awaits⟩
  · calc (schedule.waits ++ [slot.number]).map some
      _ = schedule.waits.map some ++ [some slot.number] := by simp
      _ |>.Perm (some slot.number :: schedule.waiting.map slotOf?) :=
        (List.perm_append_singleton _ _).trans (queues.waits.cons _)
      _ |>.Perm _ := (waiting.map slotOf?).symm
  · intro number reserved
    refine taken.kept reserved fun same => unkept ?_
    exact Event.start.inj same ▸ reserved
  · exact taken.slots.countP_eq Slot.isAtWork ▸ queues.fits
  · intro _
    have full : ¬ schedule.state.atWork + schedule.reserved.length < plan.permits := by
      simpa [hasPermit] using full
    rw [← taken.slots.countP_eq Slot.isAtWork]
    change _ ≤ schedule.state.atWork + 0 + schedule.reserved.length
    omega
  · simp only [Schedule.turns, wait, List.length_append, List.length_singleton, Event.turns] at left ⊢
    omega

end Taken

/-- A turn of a slot keeps the order, and there are fewer turns left. -/
theorem perform_orderly (provider : Provider σ) (orderly : Orderly plan attempt (turns + 1) schedule)
    (ready : schedule.ready = event :: later) :
    Orderly plan attempt turns (perform provider plan event { schedule with ready := later }) := by
  obtain ⟨slot, rest, taken⟩ := orderly.takes ready
  have goingOn : schedule.state.cancelled ≠ true := by simp [orderly.goingOn]
  have left := taken.left
  -- each event is worth the turns of everything that the slot may still wait for after it
  cases awaits : taken.awaits with
  | permit stage =>
      simp only [Event.turns] at left
      have queued : slot.isAtWork = false := by simp [Slot.isAtWork, stage]
      simp only [perform, slotOf?, if_neg goingOn]
      split
      · rename_i reserved
        exact (goOn_started slot (taken.takesKept queued reserved) taken.slots stage 0).weaken (by omega)
      · rename_i unkept
        split
        · rename_i free
          exact (goOn_started slot (taken.takesFree queued unkept free) taken.slots stage 0).weaken
            (by omega)
        · rename_i full
          exact taken.linesUp stage unkept (Bool.eq_false_iff.mpr full)
  | creation stage =>
      have cost : (Event.created slot.number).turns = 4 := rfl
      obtain ⟨answered, next, move, later, slots⟩ :=
        taken.moves provider (by simp [Slot.isAtWork, stage]) (by simp)
      simp only [perform, slotOf?, if_neg goingOn]
      cases move with
      | creates =>
          exact (goOn_checking { slot with stage := .checking _ _ } later slots rfl 1).weaken
            (by omega)
      | isRefused | crashesLate =>
          exact (goOn_ended slot later slots 3).weaken (by omega)
  | limit stage limited =>
      have cost : (Event.expired slot.number).turns = 4 := rfl
      obtain ⟨answered, next, move, later, slots⟩ :=
        taken.moves provider (by simp [Slot.isAtWork, stage]) (by simp)
      simp only [perform, slotOf?, if_neg goingOn]
      cases move with
      | expires => exact (goOn_ended slot later slots 3).weaken (by omega)
  | check stage =>
      have cost : (Event.checked slot.number).turns = 2 := rfl
      obtain ⟨answered, next, move, later, slots⟩ :=
        taken.moves provider (by simp [Slot.isAtWork, stage]) (by simp)
      simp only [perform, slotOf?, if_neg goingOn]
      cases move with
      | isReady => exact (goOn_ended slot later slots 3).weaken (by omega)
      | isUnready =>
          exact (goOn_destroying { slot with stage := .destroying _ _ } later slots rfl 2).weaken
            (by omega)

end Order

end Schedule

end Muster.Launch
