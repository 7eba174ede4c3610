import Muster.Proofs.Launch.Run

/-!
A schedule takes steps of the launch and no others, so that what holds of every run holds
of the scheduled one. It does not cancel a launch before it is time to, and does not let
the deadline pass before it has come.
-/

namespace Muster.Launch

variable {σ : Type}

/-- Whether a moment may be in a run that has come to the time of a schedule. -/
def Timely (schedule : Schedule σ) (moment : Moment σ) : Prop :=
  (moment.event = .cancel → ∃ time, schedule.cancelAt = some time ∧ time ≤ schedule.now) ∧
  (moment.event = .deadline → ∃ time, schedule.deadlineAt = some time ∧ time ≤ schedule.now)

structure Follows (provider : Provider σ) (plan : Plan) (before after : Schedule σ) : Prop where
  run : ∃ trace, Run provider plan before.state trace after.state ∧
    ∀ moment ∈ trace, Timely after moment
  later : before.now ≤ after.now
  cancelAt : after.cancelAt = before.cancelAt
  deadlineAt : after.deadlineAt = before.deadlineAt

namespace Follows

variable {provider : Provider σ} {plan : Plan} {before middle after : Schedule σ}

-- Time may pass, and slots may be put in other lines, without a step.
theorem still (state : after.state = before.state) (later : before.now ≤ after.now)
    (cancelAt : after.cancelAt = before.cancelAt) (deadlineAt : after.deadlineAt = before.deadlineAt) :
    Follows provider plan before after :=
  ⟨⟨[], state ▸ .refl _, by simp⟩, later, cancelAt, deadlineAt⟩

theorem refl (schedule : Schedule σ) : Follows provider plan schedule schedule :=
  .still rfl (Nat.le_refl _) rfl rfl

theorem timely (follows : Follows provider plan middle after) {moment : Moment σ}
    (timely : Timely middle moment) : Timely after moment := by
  constructor
  · intro same
    obtain ⟨time, set, past⟩ := timely.1 same
    exact ⟨time, follows.cancelAt.trans set, Nat.le_trans past follows.later⟩
  · intro same
    obtain ⟨time, set, past⟩ := timely.2 same
    exact ⟨time, follows.deadlineAt.trans set, Nat.le_trans past follows.later⟩

theorem trans (early : Follows provider plan before middle) (late : Follows provider plan middle after) :
    Follows provider plan before after := by
  obtain ⟨first, toMiddle, firstTimely⟩ := early.run
  obtain ⟨second, toAfter, secondTimely⟩ := late.run
  refine ⟨⟨first ++ second, toMiddle.append toAfter, ?_⟩, Nat.le_trans early.later late.later,
    late.cancelAt.trans early.cancelAt, late.deadlineAt.trans early.deadlineAt⟩
  intro moment member
  rcases List.mem_append.mp member with among | among
  · exact late.timely (firstTimely moment among)
  · exact secondTimely moment among

end Follows

namespace Schedule

variable (provider : Provider σ) (plan : Plan)

theorem apply_follows (event : Event) (schedule : Schedule σ)
    (timely : Timely schedule ⟨schedule.state, event⟩) :
    Follows provider plan schedule (schedule.apply provider plan event) := by
  have stepped : ∃ trace, Run provider plan schedule.state trace
      ((schedule.state.step provider plan event).getD schedule.state) ∧
      ∀ moment ∈ trace, Timely schedule moment := by
    cases happens : schedule.state.step provider plan event with
    | none => exact ⟨[], .refl _, by simp⟩
    | some next => exact ⟨_, .single happens, by simpa using timely⟩
  obtain ⟨trace, run, allTimely⟩ := stepped
  refine ⟨?_, Nat.le_refl _, rfl, rfl⟩
  simp only [apply]
  generalize (schedule.state.step provider plan event).getD schedule.state = next at run
  split
  · exact ⟨trace, run, allTimely⟩
  · cases happens : next.step provider plan .received with
    | none => exact ⟨trace, run, allTimely⟩
    | some heard =>
        refine ⟨_, run.append (.single happens), ?_⟩
        intro moment member
        rcases List.mem_append.mp member with among | last
        · exact allTimely moment among
        · obtain rfl := List.mem_singleton.mp last
          constructor <;> (intro same; cases same)

-- The moves of slots, and what the launch does by itself, are never out of time.
theorem apply_follows_of_ne (event : Event) (schedule : Schedule σ) (notCancel : event ≠ .cancel)
    (notDeadline : event ≠ .deadline) :
    Follows provider plan schedule (schedule.apply provider plan event) :=
  apply_follows provider plan event schedule
    ⟨fun same => (notCancel same).elim, fun same => (notDeadline same).elim⟩

theorem move_follows (event : Event) {number : Nat} (slot : slotOf? event = some number)
    (schedule : Schedule σ) : Follows provider plan schedule (schedule.apply provider plan event) := by
  apply apply_follows_of_ne <;> (rintro rfl; cases slot)

theorem passPermit_follows (schedule : Schedule σ) :
    Follows provider plan schedule schedule.passPermit := by
  unfold passPermit
  split
  · exact .refl _
  · exact .still rfl (Nat.le_refl _) rfl rfl

theorem goOn_follows (number fuel : Nat) (schedule : Schedule σ) :
    Follows provider plan schedule (goOn provider plan number fuel schedule) := by
  induction fuel generalizing schedule with
  | zero => exact .refl _
  | succ fuel ih =>
      simp only [goOn]
      split
      · exact passPermit_follows provider plan schedule
      · split
        · exact .refl _
        · split
          · exact (move_follows provider plan (.created number) rfl schedule).trans (ih _)
          · split
            · exact (move_follows provider plan (.expired number) rfl schedule).trans (ih _)
            · split <;> exact .still rfl (Nat.le_refl _) rfl rfl
        · split
          · exact (move_follows provider plan (.checked number) rfl schedule).trans (ih _)
          · exact .still rfl (Nat.le_refl _) rfl rfl
        · exact (move_follows provider plan (.discarded number) rfl schedule).trans (ih _)

theorem perform_follows {event : Event} {number : Nat} (slot : slotOf? event = some number)
    (schedule : Schedule σ) :
    Follows provider plan schedule (perform provider plan event schedule) := by
  simp only [perform, slot]
  split
  · exact (move_follows provider plan _ rfl schedule).trans (move_follows provider plan _ rfl _)
  · split
    · split
      · rename_i asked kept
        have begun : Follows provider plan schedule
            { schedule with reserved := schedule.reserved.erase asked } :=
          .still rfl (Nat.le_refl _) rfl rfl
        exact (begun.trans (move_follows provider plan _ slot _)).trans (goOn_follows provider plan _ _ _)
      · split
        · exact (move_follows provider plan _ slot _).trans (goOn_follows provider plan _ _ _)
        · exact .still rfl (Nat.le_refl _) rfl rfl
    · exact (move_follows provider plan _ slot _).trans (goOn_follows provider plan _ _ _)

theorem cancel_follows {time : Nat} (schedule : Schedule σ) (set : schedule.cancelAt = some time)
    (past : time ≤ schedule.now) :
    Follows provider plan schedule (cancel provider plan schedule) := by
  have cancelled := apply_follows provider plan .cancel schedule
    ⟨fun _ => ⟨time, set, past⟩, nofun⟩
  refine (cancelled.trans (apply_follows_of_ne provider plan .noticed _ nofun nofun)).trans ?_
  exact .still rfl (Nat.le_refl _) rfl rfl

theorem expire_follows {time : Nat} (schedule : Schedule σ) (set : schedule.deadlineAt = some time)
    (past : time ≤ schedule.now) :
    Follows provider plan schedule (expire provider plan schedule) := by
  have expired := apply_follows provider plan .deadline schedule
    ⟨nofun, fun _ => ⟨time, set, past⟩⟩
  exact expired.trans (.still rfl (Nat.le_refl _) rfl rfl)

theorem ring_follows (schedule : Schedule σ) (moment : Nat) :
    Follows provider plan schedule (schedule.ring moment) :=
  .still rfl (Nat.le_max_left _ _) rfl rfl

theorem earlier_cases {left right : Option Nat} {moment : Nat}
    (first : earlier left right = some moment) : left = some moment ∨ right = some moment := by
  cases left with
  | none => exact .inr (by simpa [earlier] using first)
  | some a =>
      cases right with
      | none => exact .inl (by simpa [earlier] using first)
      | some b =>
          simp only [earlier, Option.some.injEq] at first ⊢
          omega

theorem timer_of_earliest {timers : List Timer} {start : Option Nat} {moment : Nat}
    (first : timers.foldl (fun first timer => earlier first (some timer.due)) start = some moment) :
    start = some moment ∨ ∃ timer ∈ timers, timer.due = moment := by
  induction timers generalizing start with
  | nil => exact .inl first
  | cons timer rest ih =>
      rcases ih first with early | ⟨other, among, due⟩
      · rcases earlier_cases early with before | now
        · exact .inl before
        · exact .inr ⟨timer, List.mem_cons_self, Option.some.inj now⟩
      · exact .inr ⟨other, List.mem_cons_of_mem _ among, due⟩

-- Time moves on to a cancellation, to the deadline, or to the end of a timer.
theorem advance_cases {schedule later : Schedule σ}
    (advances : schedule.advance provider plan = some later) :
    (∃ moment, schedule.state.cancelled = false ∧ schedule.cancelAt = some moment ∧
      later = cancel provider plan { schedule with now := max schedule.now moment }) ∨
    (∃ moment, schedule.state.cancelled = false ∧ schedule.state.stop = none ∧
      schedule.deadlineAt = some moment ∧
      later = expire provider plan { schedule with now := max schedule.now moment }) ∨
    (∃ moment, (∃ timer ∈ schedule.timers, timer.due = moment) ∧ later = schedule.ring moment) := by
  unfold advance at advances
  dsimp only at advances
  generalize cancelled : (if (!schedule.state.cancelled) = true then schedule.cancelAt else none) =
    cancelAt at advances
  generalize expired : (if (!schedule.state.cancelled && schedule.state.stop.isNone) = true then
    schedule.deadlineAt else none) = deadlineAt at advances
  split at advances
  · cases advances
  · rename_i moment first
    by_cases cancels : cancelAt = some moment
    · subst cancels
      simp only [↓reduceIte, Option.some.injEq] at advances
      split at cancelled
      · rename_i goesOn
        exact .inl ⟨moment, by simpa using goesOn, cancelled, advances.symm⟩
      · cases cancelled
    · -- a cancellation comes before a deadline of the same time, and both before the timers
      by_cases expires : deadlineAt = some moment
      · subst expires
        simp only [cancels, ↓reduceIte, Option.some.injEq] at advances
        split at expired
        · rename_i goesOn
          simp only [Bool.and_eq_true, Bool.not_eq_true', Option.isNone_iff_eq_none] at goesOn
          exact .inr (.inl ⟨moment, goesOn.1, goesOn.2, expired, advances.symm⟩)
        · cases expired
      · simp only [cancels, expires, ↓reduceIte, Option.some.injEq] at advances
        refine .inr (.inr ⟨moment, ?_, advances.symm⟩)
        rcases earlier_cases first with timer | other
        · rcases timer_of_earliest timer with impossible | found
          · cases impossible
          · exact found
        · rcases earlier_cases other with same | same
          · exact (cancels same).elim
          · exact (expires same).elim

theorem advance_follows {schedule later : Schedule σ}
    (advances : schedule.advance provider plan = some later) :
    Follows provider plan schedule later := by
  have waits (moment : Nat) : Follows provider plan schedule
      { schedule with now := max schedule.now moment } :=
    .still rfl (Nat.le_max_left _ _) rfl rfl
  rcases advance_cases provider plan advances with
    ⟨moment, _, set, rfl⟩ | ⟨moment, _, _, set, rfl⟩ | ⟨moment, _, rfl⟩
  · exact (waits moment).trans (cancel_follows provider plan _ set (Nat.le_max_right _ _))
  · exact (waits moment).trans (expire_follows provider plan _ set (Nat.le_max_right _ _))
  · exact ring_follows provider plan schedule moment

def lined (schedule : Schedule σ) : Schedule σ :=
  { schedule with
    ready := schedule.state.slots.map fun (slot : Slot) => Event.start slot.number
    line := [], reserved := [], timers := [], waits := [] }

theorem openAttempt_lined (schedule : Schedule σ) :
    openAttempt provider plan schedule =
      if schedule.lined.state.cancelled then schedule.lined.apply provider plan .noticed
      else if schedule.lined.deadlineAt.any (· ≤ schedule.lined.now) then
        expire provider plan schedule.lined
      else schedule.lined := rfl

theorem openAttempt_follows (schedule : Schedule σ) :
    Follows provider plan schedule (openAttempt provider plan schedule) := by
  have lined : Follows provider plan schedule schedule.lined := .still rfl (Nat.le_refl _) rfl rfl
  rw [openAttempt_lined]
  split
  · exact lined.trans (apply_follows_of_ne provider plan .noticed _ nofun nofun)
  · split
    · rename_i past
      obtain ⟨time, set, past⟩ : ∃ time, schedule.lined.deadlineAt = some time ∧
          time ≤ schedule.lined.now := by
        simpa [Option.any_eq_true] using past
      exact lined.trans (expire_follows provider plan _ set past)
    · exact lined

end Schedule

end Muster.Launch
