import Muster.Proofs.Launch.Counting
import Muster.Proofs.Launch.Fates
import Muster.Proofs.Launch.Retry

/-!
What a launch still does once it is told to end. It may be told before it begins, between any
two of its steps, or by its deadline. From then on no slot begins to create, and no attempt
begins but the first; machines whose checks are interrupted are destroyed or given up, or
abandoned if that request crashes; and the answer is that the launch was stopped, if it was told
before everything had been heard of.
-/

namespace Muster.Launch

variable {σ : Type} {provider : Provider σ} {plan : Plan}

/-- Whether a launch has been told to end: before it began, by somebody, or by its deadline. -/
def Told (atFirst : Bool) (trace : List (Moment σ)) : Prop :=
  atFirst = true ∨ ∃ moment ∈ trace, moment.event = .cancel ∨ moment.event = .deadline

/-- Whether the deadline stopped a launch, for it can do so only if nothing else has yet. -/
def OutOfTime (trace : List (Moment σ)) : Prop := ∃ moment ∈ trace, moment.event = .deadline

/-! ### What a step does to the signals -/

theorem Move.event_ne {state : State σ} {slot : Slot} {event : Event} {answered : σ} {next : Next}
    (move : Move provider plan state slot event answered next) : event ≠ .cancel ∧ event ≠ .deadline := by
  cases move <;> simp

namespace State

theorem cancelled_step {before after : State σ} {event : Event}
    (step : Step provider plan before event after) :
    after.cancelled = true ↔ before.cancelled = true ∨ event = .cancel ∨ event = .deadline := by
  cases step with
  | moves found move => simp [move.event_ne]
  | receives => simp
  | isCancelled | notices | runsOut | finishes => simp
  | begins => simp [beginAttempt]

-- The deadline is noted as the reason of the end when it passes, and at no other time.
theorem timeout_step {before after : State σ} {event : Event}
    (step : Step provider plan before event after) :
    after.stop = some .timeout ↔ before.stop = some .timeout ∨ event = .deadline := by
  cases step with
  | moves found move => simp [move.event_ne]
  | receives => simp
  | isCancelled | runsOut => simp
  | notices pending cancelled goingOn => simp [goingOn]
  | finishes =>
      by_cases told : (0 < before.attempt && before.stop.isNone && before.cancelled) = true
      · have closes : before.closing = some .cancelled := if_pos told
        simp only [Bool.and_eq_true, Option.isNone_iff_eq_none] at told
        simp [closes, told.1.2]
      · have closes : before.closing = before.stop := if_neg told
        simp [closes]
  | begins => simp [beginAttempt]

end State

section

variable {cancelled : Bool} {start : σ} {changes : List (Change σ)} {state : State σ}

-- A crash is no signal.
theorem Course.cancelled_iff (course : Course provider plan (.initial plan cancelled start) changes state) :
    state.cancelled = true ↔ Told cancelled (moments changes) := by
  refine course.keeps_moments (fun past state => state.cancelled = true ↔ Told cancelled past) ?_ ?_
    (State.sound_initial plan cancelled start) ?_
  · intro past before event after _ same step
    rw [State.cancelled_step step, same]
    simp [Told, or_and_right, exists_or, or_assoc]
  · intro past before slot left _ same _ _
    rw [State.moved_cancelled, same]
  · simp [Told, State.initial]

theorem Course.timeout_iff (course : Course provider plan (.initial plan cancelled start) changes state) :
    state.stop = some .timeout ↔ OutOfTime (moments changes) := by
  refine course.keeps_moments (fun past state => state.stop = some .timeout ↔ OutOfTime past) ?_ ?_
    (State.sound_initial plan cancelled start) ?_
  · intro past before event after _ same step
    rw [State.timeout_step step, same]
    simp [OutOfTime, or_and_right, exists_or]
  · intro past before slot left _ same _ _
    rw [State.moved_stop, same]
  · simp [OutOfTime, State.initial]

end

/-! ### After the signal -/

namespace State

structure Winds (early : State σ) (past : List (Moment σ)) (state : State σ) : Prop where
  cancelled : state.cancelled = true
  starts : ∀ moment ∈ past, ∀ number, moment.event ≠ .start number
  attempt : state.attempt ≤ max 1 early.attempt
  stopped : early.finished = false → state.finished = true → 0 < state.attempt → state.stop ≠ none

theorem Winds.step {early before after : State σ} {past : List (Moment σ)} {event : Event}
    (winds : early.Winds past before) (step : Step provider plan before event after) :
    early.Winds (past ++ [⟨before, event⟩]) after := by
  have cancelled := (cancelled_step step).mpr (.inl winds.cancelled)
  have starts (unbegun : ∀ number, event ≠ .start number) :
      ∀ moment ∈ past ++ [⟨before, event⟩], ∀ number, moment.event ≠ .start number := by
    intro moment member
    rcases List.mem_append.mp member with early | last
    · exact winds.starts moment early
    · rw [List.mem_singleton.mp last]
      exact unbegun
  cases step with
  | moves found move =>
      refine ⟨cancelled, starts ?_, by simpa using winds.attempt, by simpa using winds.stopped⟩
      -- a slot takes its permit only as long as nobody has cancelled
      cases move with
      | begins stage goingOn | crashesEarly stage goingOn => simp [winds.cancelled] at goingOn
      | _ => simp
  | receives =>
      exact ⟨cancelled, starts (by simp), by simpa using winds.attempt, by simpa using winds.stopped⟩
  | isCancelled => exact ⟨cancelled, starts (by simp), winds.attempt, winds.stopped⟩
  | notices => exact ⟨cancelled, starts (by simp), winds.attempt, by simp⟩
  | runsOut => exact ⟨cancelled, starts (by simp), winds.attempt, by simp⟩
  | finishes =>
      refine ⟨cancelled, starts (by simp), winds.attempt, fun _ _ begun => ?_⟩
      by_cases told : before.stop = none
      · simp [closing, told, winds.cancelled, show 0 < before.attempt from begun]
      · simp [closing, told]
  | begins settled unfinished goingOn =>
      have first : before.attempt = 0 := by
        have unstopped := stop_of_closing goingOn
        simpa [closing, unstopped, winds.cancelled] using goingOn
      refine ⟨cancelled, starts (by simp), ?_, fun _ finished => ?_⟩
      · simp [beginAttempt, first]
      · cases unfinished.symm.trans finished

-- A launch that has finished stays so, and an attempt that has begun has begun.
theorem later_step {before after : State σ} {event : Event} (step : Step provider plan before event after) :
    (before.finished = true → after.finished = true) ∧ before.attempt ≤ after.attempt := by
  cases step with
  | moves | receives => simp
  | isCancelled | notices | runsOut | finishes => simp
  | begins settled unfinished => simp [unfinished, beginAttempt]

-- There is nothing to hear of before the first attempt.
theorem begun_step {before after : State σ} {event : Event}
    (begun : before.isPending = true → 0 < before.attempt) (step : Step provider plan before event after) :
    after.isPending = true → 0 < after.attempt := by
  cases step with
  | moves found move =>
      rw [moved_attempt]
      exact fun _ => begun (pending_of_mem (mem_of_slot? found))
  | receives inbox =>
      rw [receive_attempt]
      exact fun _ => begun (pending_of_inbox inbox)
  | isCancelled | notices | runsOut => exact begun
  | finishes settled => exact fun pending => nomatch settled.symm.trans pending
  | begins => exact fun _ => Nat.succ_pos _

end State

theorem Course.winds {before after : State σ} {changes : List (Change σ)}
    (course : Course provider plan before changes after) (sound : before.Sound plan)
    (cancelled : before.cancelled = true) : before.Winds (moments changes) after := by
  refine course.keeps_moments (fun past state => before.Winds past state)
    (fun _ _ _ _ _ winds step => winds.step step) ?_ sound ⟨cancelled, nofun, Nat.le_max_right _ _, ?_⟩
  · exact fun _ _ _ _ _ winds _ _ => ⟨winds.cancelled, winds.starts, winds.attempt, winds.stopped⟩
  · intro unfinished finished
    exact nomatch unfinished.symm.trans finished

theorem State.later_happens {before after : State σ} {event : Option Event}
    (happens : Happens provider plan before event after) :
    (before.finished = true → after.finished = true) ∧ before.attempt ≤ after.attempt := by
  cases happens with
  | steps happens => exact later_step (step_sound provider plan _ _ _ happens)
  | crashes => exact ⟨id, Nat.le_refl _⟩

theorem Course.later {before after : State σ} {changes : List (Change σ)}
    (course : Course provider plan before changes after) :
    (before.finished = true → after.finished = true) ∧ before.attempt ≤ after.attempt := by
  refine course.keeps (fun state => (before.finished = true → state.finished = true) ∧
    before.attempt ≤ state.attempt) ?_ ⟨id, Nat.le_refl _⟩
  intro middle event next earlier happens
  have later := State.later_happens happens
  exact ⟨later.1 ∘ earlier.1, Nat.le_trans earlier.2 later.2⟩

theorem Course.begun {cancelled : Bool} {start : σ} {changes : List (Change σ)} {state : State σ}
    (course : Course provider plan (.initial plan cancelled start) changes state)
    (pending : state.isPending = true) : 0 < state.attempt := by
  refine course.keeps_moments (fun _ state => state.isPending = true → 0 < state.attempt)
    (fun _ _ _ _ _ begun step => State.begun_step begun step) ?_ (State.sound_initial plan cancelled start) nofun
    pending
  intro _ before slot left _ begun found _ _
  exact begun (State.pending_of_mem (State.mem_of_slot? found))

def SaysStopped (trace : List (Moment σ)) (answer : Answer) : Prop :=
  ∃ report, (OutOfTime trace → answer = .error (.timeout .bootstrap report)) ∧
    (¬ OutOfTime trace → answer = .error (.cancelled .bootstrap report))

theorem Course.saysStopped {cancelled : Bool} {start : σ} {changes : List (Change σ)} {final : State σ}
    (course : Course provider plan (.initial plan cancelled start) changes final)
    (stopped : final.stop ≠ none) : SaysStopped (moments changes) (final.verdict provider plan).1 := by
  have timeout := course.timeout_iff
  obtain ⟨report, _, ⟨succeeded, _⟩ | ⟨_, answer⟩⟩ := final.verdict_reports provider plan
  · exact (stopped succeeded.1).elim
  · rw [answer]
    refine ⟨report, fun late => ?_, fun early => ?_⟩
    · rw [timeout.mpr late]
      rfl
    · cases stop : final.stop with
      | none => exact (stopped stop).elim
      | some reason =>
          cases reason with
          | cancelled => rfl
          | timeout => exact (early (timeout.mp stop)).elim

structure Stops (provider : Provider σ) (plan : Plan) (early late : List (Change σ)) (middle final : State σ) :
    Prop where
  starts : ∀ change ∈ late, ∀ number, change.event ≠ some (.start number)
  attempts : final.attempt ≤ max 1 middle.attempt
  unheard : (∃ change ∈ late, change.before.isPending = true) →
    SaysStopped (moments (early ++ late)) (final.verdict provider plan).1
  unfinished : middle.finished = false → 0 < final.attempt →
    SaysStopped (moments (early ++ late)) (final.verdict provider plan).1

theorem Course.stops {cancelled : Bool} {start : σ} {early late : List (Change σ)} {middle final : State σ}
    (course : Course provider plan (.initial plan cancelled start) early middle)
    (later : Course provider plan middle late final) (finished : final.finished = true)
    (told : Told cancelled (moments early)) : Stops provider plan early late middle final := by
  have winds := later.winds course.sound (course.cancelled_iff.mpr told)
  have answers (unfinished : middle.finished = false) (begun : 0 < final.attempt) :
      SaysStopped (moments (early ++ late)) (final.verdict provider plan).1 :=
    (course.append later).saysStopped (winds.stopped unfinished finished begun)
  refine ⟨?_, winds.attempt, ?_, answers⟩
  · intro change member number starts
    exact winds.starts ⟨change.before, .start number⟩ (mem_moments.mpr ⟨change, member, starts, rfl⟩) number rfl
  · rintro ⟨change, member, pending⟩
    obtain ⟨_, _, _, first, happens, last⟩ := later.around member
    have there := course.append first
    have goesOn : middle.finished = false := by
      apply Bool.eq_false_iff.mpr
      intro ended
      exact nomatch (there.sound.unfinished pending).symm.trans (first.later.1 ended)
    have begun := Nat.le_trans (State.later_happens happens).2 last.later.2
    exact answers goesOn (Nat.lt_of_lt_of_le (there.begun pending) begun)

/-! ### Checks that are interrupted -/

structure State.Concluded (number : Nat) (state : State σ) : Prop where
  issued : number < state.issued
  stage : ∀ slot ∈ state.slots, slot.number = number → ∃ node cause, slot.stage = .destroying node cause

/-- Where a slot goes that has checked its machine, or was kept from it. -/
def Next.Concludes : Next → Prop
  | .goes (.destroying _ _) | .ends _ => True
  | .goes _ => False

namespace State

variable {number : Nat}

theorem concluded_moved {state : State σ} {slot : Slot} (sound : state.Sound plan)
    (member : slot ∈ state.slots) (answered : σ) {next : Next} (concludes : next.Concludes) :
    (state.moved slot answered next).Concluded slot.number := by
  have slots := moved_slots_perm sound member answered next
  constructor
  · rw [moved_issued]
    exact sound.numbered slot member
  · intro other among same
    rcases List.mem_append.mp (slots.mem_iff.mp among) with itself | elsewhere
    · cases next with
      | goes stage =>
          obtain rfl := List.mem_singleton.mp itself
          cases stage with
          | destroying node cause => exact ⟨node, cause, rfl⟩
          | queued | creating | checking => exact concludes.elim
      | ends result => cases itself
    · simp [others, same] at elsewhere

theorem Concluded.moved {state : State σ} {slot : Slot} (sound : state.Sound plan)
    (concluded : state.Concluded number) (member : slot ∈ state.slots) (answered : σ) {next : Next}
    (stays : slot.number = number → next.Concludes) : (state.moved slot answered next).Concluded number := by
  by_cases same : slot.number = number
  · subst same
    exact concluded_moved sound member answered (stays rfl)
  · constructor
    · rw [moved_issued]
      exact concluded.issued
    · intro other among itself
      rcases List.mem_append.mp ((moved_slots_perm sound member answered next).mem_iff.mp among) with
        moving | staying
      · cases next with
        | goes stage =>
            obtain rfl := List.mem_singleton.mp moving
            exact (same itself).elim
        | ends result => cases moving
      · exact concluded.stage other (mem_others staying) itself

-- A slot that is concluded can only destroy its machine.
theorem Concluded.moves {state : State σ} {slot : Slot} {event : Event} {answered : σ} {next : Next}
    (sound : state.Sound plan) (concluded : state.Concluded number)
    (found : state.slot? slot.number = some slot)
    (move : Move provider plan state slot event answered next) :
    (state.moved slot answered next).Concluded number := by
  have member := mem_of_slot? found
  refine concluded.moved sound member answered ?_
  rintro rfl
  obtain ⟨node, cause, destroying⟩ := concluded.stage slot member rfl
  cases move with
  | destroys | abandons => trivial
  | begins stage | crashesEarly stage | creates stage | isRefused stage | crashesLate stage
  | expires stage | isReady stage | isUnready stage | leavesLine stage | stopsCreating stage
  | stopsChecking stage => exact nomatch stage.symm.trans destroying

theorem Concluded.step {before after : State σ} {event : Event} (sound : before.Sound plan)
    (concluded : before.Concluded number) (step : Step provider plan before event after) :
    after.Concluded number := by
  cases step with
  | moves found move => exact concluded.moves sound found move
  | receives =>
      constructor
      · rw [receive_issued]
        exact concluded.issued
      · rw [receive_slots]
        exact concluded.stage
  | isCancelled | notices | runsOut | finishes => exact ⟨concluded.issued, concluded.stage⟩
  | begins =>
      constructor
      · exact Nat.lt_of_lt_of_le concluded.issued (Nat.le_add_right _ _)
      · intro slot member same
        have among : slot.number ∈ (before.dueSlots plan).map Slot.number := List.mem_map_of_mem member
        rw [dueSlots_numbers, List.mem_range'_1, same] at among
        exact (Nat.not_le_of_lt concluded.issued among.1).elim

theorem Concluded.happens {before after : State σ} {event : Option Event} (sound : before.Sound plan)
    (concluded : before.Concluded number) (happens : Happens provider plan before event after) :
    after.Concluded number := by
  cases happens with
  | steps happens => exact concluded.step sound (step_sound provider plan _ _ _ happens)
  | crashes found working left => exact concluded.moved sound (mem_of_slot? found) left fun _ => trivial

-- A slot checks its machine once; it is concluded then.
theorem slot_of_checked {before after : State σ}
    (step : Step provider plan before (.checked number) after) :
    ∃ slot ∈ before.slots, slot.number = number ∧ (∃ node millis, slot.stage = .checking node millis) ∧
      ∃ answered next, after = before.moved slot answered next ∧ next.Concludes := by
  cases step with
  | moves found move =>
      cases move with
      | isReady stage | isUnready stage =>
          exact ⟨_, mem_of_slot? found, rfl, ⟨_, _, stage⟩, _, _, rfl, trivial⟩

-- A slot that is kept from checking its machine is to destroy it.
theorem slot_of_aborted {before after : State σ} {slot : Slot} {node : Node} {millis : Nat}
    (step : Step provider plan before (.aborted number) after) (found : before.slot? number = some slot)
    (checking : slot.stage = .checking node millis) :
    ∃ answered cause, after = before.moved slot answered (.goes (.destroying node cause)) := by
  cases step with
  | moves there move =>
      rename_i same answered next
      have stays : number = same.number → same = slot := by
        rintro rfl
        exact Option.some.inj (there.symm.trans found)
      cases move with
      | leavesLine stage | stopsCreating stage =>
          rw [stays rfl] at stage
          exact nomatch stage.symm.trans checking
      | stopsChecking stage =>
          obtain rfl := stays rfl
          obtain ⟨rfl, _⟩ := Stage.checking.inj (stage.symm.trans checking)
          exact ⟨_, _, rfl⟩

end State

theorem Happens.step_of_event {before after : State σ} {event : Option Event} {done : Event}
    (happens : Happens provider plan before event after) (same : event = some done) :
    Step provider plan before done after := by
  cases happens with
  | steps happens =>
      cases same
      exact State.step_sound provider plan _ _ _ happens
  | crashes => cases same

theorem Course.concluded {before after : State σ} {changes : List (Change σ)} {number : Nat}
    (course : Course provider plan before changes after) (sound : before.Sound plan)
    (concluded : before.Concluded number) :
    after.Concluded number ∧ ∀ change ∈ changes, change.event ≠ some (.checked number) := by
  refine (course.keeps_with (fun past state => state.Sound plan ∧ state.Concluded number ∧
    ∀ change ∈ past, change.event ≠ some (.checked number)) ?_ [] ⟨sound, concluded, nofun⟩).2
  rintro past middle event next ⟨sound, concluded, unchecked⟩ happens
  refine ⟨sound.happens happens, concluded.happens sound happens, fun change member => ?_⟩
  rcases List.mem_append.mp member with early | last
  · exact unchecked change early
  · obtain rfl := List.mem_singleton.mp last
    intro checks
    obtain ⟨slot, among, same, ⟨node, millis, checking⟩, _⟩ :=
      State.slot_of_checked (happens.step_of_event checks)
    obtain ⟨_, _, destroying⟩ := concluded.stage slot among same
    exact nomatch checking.symm.trans destroying

theorem Course.concluded_of_checked {cancelled : Bool} {start : σ} {changes : List (Change σ)} {state : State σ}
    (course : Course provider plan (.initial plan cancelled start) changes state) {change : Change σ}
    {number : Nat} (member : change ∈ changes) (checks : change.event = some (.checked number)) :
    state.Concluded number := by
  obtain ⟨_, _, _, early, happens, late⟩ := course.around member
  have sound := early.sound.happens happens
  obtain ⟨slot, among, rfl, _, answered, goes, same, concludes⟩ :=
    State.slot_of_checked (happens.step_of_event checks)
  have concluded := State.concluded_moved early.sound among answered concludes
  exact (late.concluded sound (same ▸ concluded)).1

/-- A machine whose check is interrupted is destroyed or cannot be, or is abandoned in a crash, and its
slot never ends a check. -/
theorem Course.interrupted {cancelled : Bool} {start : σ} {changes : List (Change σ)} {final : State σ}
    (course : Course provider plan (.initial plan cancelled start) changes final)
    (finished : final.finished = true) {change : Change σ} {number : Nat} {slot : Slot} {node : Node}
    {millis : Nat} (member : change ∈ changes) (aborts : change.event = some (.aborted number))
    (found : change.before.slot? number = some slot) (checking : slot.stage = .checking node millis) :
    (node.id ∈ final.destroyed ++ final.orphaned ∨
      ∃ crash ∈ changes, ∃ slot, crash.Abandons slot node.id) ∧
    ∀ other ∈ changes, other.event ≠ some (.checked number) := by
  obtain ⟨past, rest, rfl, early, happens, late⟩ := course.around member
  have among := State.mem_of_slot? found
  have sound := early.sound.happens happens
  obtain ⟨answered, cause, after⟩ := State.slot_of_aborted (happens.step_of_event aborts) found checking
  have slots := State.moved_slots_perm early.sound among answered (.goes (.destroying node cause))
  constructor
  · have spoilt : change.after.Spoilt node.id := by
      rw [after]
      exact .leaving (slots.mem_iff.mpr (List.mem_append_left _ List.mem_cons_self)) rfl rfl
    rcases late.spoilt sound spoilt with still | ⟨crash, among, abandoned⟩
    · exact .inl (still.of_settled (course.sound.settled finished))
    · exact .inr ⟨crash, List.mem_append_right _ (List.mem_cons_of_mem _ among), abandoned⟩
  · obtain rfl := State.number_of_slot? found
    intro other member checks
    rcases List.mem_append.mp member with before | later
    · obtain ⟨_, _, destroying⟩ := (early.concluded_of_checked before checks).stage slot among rfl
      exact nomatch checking.symm.trans destroying
    · rcases List.mem_cons.mp later with rfl | later
      · exact nomatch aborts.symm.trans checks
      · have concluded : change.after.Concluded slot.number := by
          rw [after]
          exact State.concluded_moved early.sound among answered trivial
        exact (late.concluded sound concluded).2 other later checks

/-! ### Launches that are cancelled before they begin -/

structure GroupProgress.Refused (progress : GroupProgress) : Prop where
  healthy : progress.healthy = []
  succeeded : progress.outcome.succeeded = 0
  causes : progress.outcome.causes = List.replicate progress.outcome.failed "cancelled before launch"
  attempted : progress.outcome.attempted = progress.outcome.attempts * progress.outcome.target

theorem GroupProgress.Refused.launch {progress : GroupProgress} (refused : progress.Refused) :
    progress.launch.Refused := by
  by_cases due : progress.isDue = true
  · have short : progress.outcome.shortfall = progress.outcome.target := by
      simp [GroupOutcome.shortfall, refused.succeeded]
    simp only [GroupProgress.launch, if_pos due]
    refine ⟨refused.healthy, refused.succeeded, refused.causes, ?_⟩
    dsimp only
    rw [refused.attempted, short, Nat.succ_mul]
  · rw [GroupProgress.launch, if_neg due]
    exact refused

theorem GroupProgress.Refused.receive {progress : GroupProgress} (refused : progress.Refused) :
    (progress.receive (.failed "cancelled before launch" none none)).Refused where
  healthy := refused.healthy
  succeeded := refused.succeeded
  causes := by simp [GroupProgress.receive, refused.causes, List.replicate_succ']
  attempted := refused.attempted

namespace State

structure Untouched (start : σ) (state : State σ) : Prop where
  cancelled : state.cancelled = true
  provider : state.provider = start
  queued : ∀ slot ∈ state.slots, slot.stage = .queued
  arrivals : ∀ arrival ∈ state.inbox, arrival.result = .failed "cancelled before launch" none none
  groups : ∀ progress ∈ state.groups, progress.Refused
  known : state.destroyed = [] ∧ state.orphaned = []

theorem untouched_initial (plan : Plan) (start : σ) : Untouched start (.initial plan true start) where
  cancelled := rfl
  provider := rfl
  queued := nofun
  arrivals := nofun
  groups := by
    intro progress member
    obtain ⟨group, _, rfl⟩ := List.mem_map.mp member
    exact ⟨rfl, rfl, rfl, (Nat.zero_mul _).symm⟩
  known := ⟨rfl, rfl⟩

theorem Untouched.step {start : σ} {before after : State σ} {event : Event}
    (untouched : before.Untouched start) (step : Step provider plan before event after) :
    after.Untouched start := by
  have cancelled := (cancelled_step step).mpr (.inl untouched.cancelled)
  cases step with
  | moves found move =>
      have member := mem_of_slot? found
      have queued := untouched.queued _ member
      -- a slot in line can only leave it
      cases move with
      | leavesLine =>
          refine ⟨cancelled, untouched.provider, ?_, ?_, untouched.groups, untouched.known⟩
          · exact fun other among => untouched.queued other (mem_others among)
          · intro arrival among
            rcases List.mem_append.mp among with early | last
            · exact untouched.arrivals arrival early
            · rw [List.mem_singleton.mp last]
      | begins stage goingOn | crashesEarly stage goingOn => simp [untouched.cancelled] at goingOn
      | creates stage | isRefused stage | crashesLate stage | expires stage | isReady stage
      | isUnready stage | stopsCreating stage | stopsChecking stage | destroys stage | abandons stage =>
          exact nomatch queued.symm.trans stage
  | receives inbox =>
      have result := untouched.arrivals _ (inbox ▸ List.mem_cons_self)
      constructor
      case cancelled => exact cancelled
      case provider => simpa using untouched.provider
      case queued => simpa using untouched.queued
      case arrivals =>
        rw [receive_inbox]
        exact fun other among => untouched.arrivals other (inbox ▸ List.mem_cons_of_mem _ among)
      case groups =>
        rw [receive_groups, result]
        intro progress member
        rcases mem_modify member with old | ⟨old, among, rfl⟩
        · exact untouched.groups progress old
        · exact (untouched.groups old among).receive
      case known => simpa [receive_eq, result, SlotResult.destroyed, SlotResult.orphaned] using untouched.known
  | isCancelled | notices | runsOut | finishes =>
      exact ⟨cancelled, untouched.provider, untouched.queued, untouched.arrivals, untouched.groups,
        untouched.known⟩
  | begins =>
      refine ⟨cancelled, untouched.provider, ?_, untouched.arrivals, ?_, untouched.known⟩
      · intro slot member
        obtain ⟨_, _, _, _, stage⟩ := mem_dueSlots member
        exact stage
      · intro progress member
        obtain ⟨old, among, rfl⟩ := List.mem_map.mp member
        exact (untouched.groups old among).launch

end State

-- No slot is ever at work that could crash.
theorem Course.untouched {start : σ} {changes : List (Change σ)} {state : State σ}
    (course : Course provider plan (.initial plan true start) changes state) : state.Untouched start := by
  refine course.keeps_moments (fun _ state => state.Untouched start)
    (fun _ _ _ _ _ untouched step => untouched.step step) ?_ (State.sound_initial plan true start)
    (State.untouched_initial plan start)
  intro _ before slot left _ untouched found working
  simp [Slot.isAtWork, untouched.queued slot (State.mem_of_slot? found)] at working

structure AllRefused (outcome : GroupOutcome) : Prop where
  attempts : outcome.attempts ≤ 1
  attempted : outcome.attempted = outcome.attempts * outcome.target
  failed : outcome.failed = outcome.attempted
  succeeded : outcome.succeeded = 0
  causes : outcome.causes = List.replicate outcome.attempted "cancelled before launch"

structure LaunchesNothing (start after : σ) (answer : Answer) (report : LaunchReport) : Prop where
  provider : after = start
  reported : answer.report? = some report
  machines : report.accounted = []
  groups : ∀ outcome ∈ report.groups, AllRefused outcome

theorem Course.launchesNothing {start : σ} {changes : List (Change σ)} {final : State σ}
    (course : Course provider plan (.initial plan true start) changes final) (finished : final.finished = true) :
    ∃ report, LaunchesNothing start (final.verdict provider plan).2 (final.verdict provider plan).1 report := by
  have untouched := course.untouched
  have winds := course.winds (State.sound_initial plan true start) rfl
  have none : final.healthy = [] :=
    List.flatMap_eq_nil_iff.mpr fun progress member => (untouched.groups progress member).healthy
  have groups : ∀ outcome ∈ final.outcomes, AllRefused outcome := by
    intro outcome member
    obtain ⟨progress, among, rfl⟩ := List.mem_map.mp member
    obtain ⟨index, present⟩ := List.mem_iff_getElem?.mp among
    have refused := untouched.groups progress among
    have counts := course.counted.groups index progress present
    rw [State.unheard_of_settled (course.sound.settled finished)] at counts
    have failed : progress.outcome.failed = progress.outcome.attempted := by
      have attempted := counts.attempted
      rw [refused.succeeded] at attempted
      omega
    exact {
      attempts := Nat.le_trans counts.counted winds.attempt
      attempted := refused.attempted
      failed := failed
      succeeded := refused.succeeded
      causes := failed ▸ refused.causes }
  have ending := final.verdict_ending provider plan
  generalize (final.verdict provider plan).1 = answer at ending ⊢
  generalize (final.verdict provider plan).2 = after at ending ⊢
  cases ending with
  | clearsUp failed told some | cannotClearUp failed told some => exact (some none).elim
  | succeeds =>
      exact ⟨_, untouched.provider, rfl, by simp [LaunchReport.accounted, State.report, none, untouched.known,
        Cluster.ofInstances, Cluster.addAll, Cluster.new], groups⟩
  | leaves =>
      exact ⟨_, untouched.provider, State.failure_report? _ _,
        by simp [LaunchReport.accounted, State.report, none, untouched.known], groups⟩

theorem Course.begun_of_finished {cancelled : Bool} {start : σ} {changes : List (Change σ)} {final : State σ}
    (course : Course provider plan (.initial plan cancelled start) changes final)
    (finished : final.finished = true) (valid : plan.topology.validate = .ok ())
    (countable : plan.topology.maxStartupRetries.toNat + 1 < 2 ^ 32) :
    0 < final.attempt ∧ ∀ outcome ∈ final.outcomes, 0 < outcome.attempts := by
  have feasible := Topology.feasible_of_validate valid
  have launched := (course.judged feasible countable finished).launched
  refine ⟨?_, launched⟩
  -- some group has been launched in an attempt, and there are no more of these than attempts
  obtain ⟨group, declared⟩ := List.exists_mem_of_ne_nil _ feasible.some
  obtain ⟨index, inside⟩ := List.mem_iff_getElem?.mp declared
  have there := List.getElem?_eq_getElem
    (course.sound.size.symm ▸ (List.getElem?_eq_some_iff.mp inside).1 : index < final.groups.length)
  have counts := course.counted.groups index _ there
  exact Nat.lt_of_lt_of_le (launched _ (List.mem_map_of_mem (List.mem_of_getElem? there))) counts.counted

/-- What a report tells of a machine whose slot was to destroy it. The request was answered; or it
crashed, and then all that is told is that the group had a failure. -/
inductive Discarded (changes : List (Change σ)) (id : String) (report : LaunchReport) : Prop where
  | destroyed (listed : id ∈ report.destroyed)
  | orphaned (listed : id ∈ report.orphaned)
  | abandoned {change : Change σ} {slot : Slot} {outcome : GroupOutcome} (member : change ∈ changes)
      (abandons : change.Abandons slot id) (group : report.groups[slot.group]? = some outcome)
      (counted : State.crashed ∈ outcome.causes)

structure Interrupted (provider : Provider σ) (changes : List (Change σ)) (number : Nat) (id : String)
    (report : LaunchReport) : Prop where
  discarded : Discarded changes id report
  unchecked : ∀ change ∈ changes, change.event ≠ some (.checked number)
  healthy : ∀ machine ∈ report.instances, ∃ index, machine ∈ passed provider index (moments changes)
  apart : (handedOver provider changes).Nodup → id ∉ report.instances.map Instance.id
  unlisted : (handedOver provider changes).Nodup → ∀ change ∈ changes, ∀ slot, change.Abandons slot id →
    id ∉ report.accounted

theorem Course.reports_interrupted {cancelled : Bool} {start : σ} {changes : List (Change σ)}
    {final : State σ} (course : Course provider plan (.initial plan cancelled start) changes final)
    (finished : final.finished = true) {change : Change σ} {number : Nat} {slot : Slot} {node : Node}
    {millis : Nat} (member : change ∈ changes) (aborts : change.event = some (.aborted number))
    (found : change.before.slot? number = some slot) (checking : slot.stage = .checking node millis) :
    ∃ report, Answer.report? (final.verdict provider plan).1 = some report ∧
      Interrupted provider changes number node.id report := by
  obtain ⟨report, reported, tells⟩ := (final.verdict_ending provider plan).reports
  obtain ⟨discarded, unchecked⟩ := course.interrupted finished member aborts found checking
  refine ⟨report, reported, ?_, unchecked, ?_, ?_, ?_⟩
  · rcases discarded with listed | ⟨crash, among, slot, abandons⟩
    · rcases List.mem_append.mp listed with destroyed | orphaned
      · exact .destroyed (tells.destroyed _ destroyed)
      · exact .orphaned (tells.orphaned _ orphaned)
    · obtain ⟨outcome, group, counted⟩ := course.counts_abandoned finished among abandons
      exact .abandoned among abandons (tells.groups ▸ group) counted
  · intro machine healthy
    have among := tells.instances machine healthy
    rw [course.healthy finished] at among
    obtain ⟨index, _, passes⟩ := List.mem_flatMap.mp among
    exact ⟨index, passes⟩
  · intro distinct healthy
    obtain ⟨machine, among, same⟩ := List.mem_map.mp healthy
    have alive := List.mem_map_of_mem (f := Instance.id) (tells.instances machine among)
    obtain ⟨listed, kept⟩ := course.apart finished distinct (same ▸ alive)
    rcases discarded with discarded | ⟨crash, among, slot, abandons⟩
    · exact listed discarded
    · exact kept (abandons.mem_lost among)
  · intro distinct crash among slot abandons listed
    obtain ⟨same, told, accounted⟩ := course.accounted finished distinct
    cases reported.symm.trans told
    have places := accounted.nodup_iff.mpr distinct
    exact (List.nodup_append.mp places).2.2 _ listed _ (abandons.mem_lost among) rfl

/-- A launch stops when it is told to, whenever that is: before it begins, between any two of its
steps, or when its deadline passes. From then on no slot begins to create and no further
attempt begins. If a slot had not been heard of by then, or the launch had only not noticed
yet, its answer is that it was cancelled, or out of time if the deadline stopped it first,
whatever its groups had come to. A machine whose check is interrupted is destroyed or orphaned,
and not among the healthy ones, all of which have passed their checks; if the request to destroy
it crashes, its group has counted the failure and the machine is in no list. A launch that was
cancelled before it began asks nothing of its provider and counts every slot as failed. All this
is of a call that can begin, and such a call has an answer. -/
theorem stops_when_told (topology : Topology) (bootstrap : RoleSet → Script) (options : LaunchOptions)
    (now : Nat) (valid : topology.validate = .ok ())
    (countable : topology.maxStartupRetries.toNat + 1 < 2 ^ 32)
    (begins : canBegin topology options now = true) :
    let plan := Launch.plan topology bootstrap options
    (∀ (σ : Type) (provider : Provider σ) (cancelled : Bool) (start : σ) (early late : List (Change σ))
      (middle final : State σ), Course provider plan (.initial plan cancelled start) early middle →
      Course provider plan middle late final → final.finished = true → Told cancelled (moments early) →
      Stops provider plan early late middle final) ∧
    (∀ (σ : Type) (provider : Provider σ) (cancelled : Bool) (start : σ) (changes : List (Change σ))
      (final : State σ), Course provider plan (.initial plan cancelled start) changes final →
      final.finished = true →
      ∀ change ∈ changes, ∀ number slot node millis, change.event = some (.aborted number) →
        change.before.slot? number = some slot → slot.stage = .checking node millis →
        ∃ report, Answer.report? (final.verdict provider plan).1 = some report ∧
          Interrupted provider changes number node.id report) ∧
    (∀ (σ : Type) (provider : Provider σ) (start : σ) (changes : List (Change σ)) (final : State σ),
      Course provider plan (.initial plan true start) changes final → final.finished = true →
      (∀ change ∈ changes, ∀ number, change.event ≠ some (.start number)) ∧
      SaysStopped (moments changes) (final.verdict provider plan).1 ∧
      ∃ report, LaunchesNothing start (final.verdict provider plan).2 (final.verdict provider plan).1 report ∧
        ∀ outcome ∈ report.groups, outcome.attempts = 1) ∧
    (∀ (σ : Type) (provider : Provider σ) (start : σ), ∃ trace final ended,
      Completes provider plan (options.cancelAt.any (· ≤ now)) start trace final ∧
      call? provider topology bootstrap options now start =
        some ((final.verdict provider plan).1, ended, (final.verdict provider plan).2)) := by
  intro plan
  refine ⟨?_, ?_, ?_, ?_⟩
  · intro σ provider cancelled start early late middle final course later finished told
    exact course.stops later finished told
  · intro σ provider cancelled start changes final course finished change member number slot node millis aborts
      found checking
    exact course.reports_interrupted finished member aborts found checking
  · intro σ provider start changes final course finished
    obtain ⟨report, nothing⟩ := course.launchesNothing finished
    have stops := (Course.refl _).stops course finished (.inl rfl)
    obtain ⟨begun, launched⟩ := course.begun_of_finished finished valid countable
    refine ⟨stops.starts, stops.unfinished rfl begun, report, nothing, fun outcome member => ?_⟩
    obtain ⟨same, reported, tells⟩ := (final.verdict_ending provider plan).reports
    cases nothing.reported.symm.trans reported
    exact Nat.le_antisymm (nothing.groups outcome member).attempts
      (launched outcome (tells.groups ▸ member))
  · intro σ provider start
    obtain ⟨trace, final, ended, completes, answers, _⟩ :=
      run_completes provider topology bootstrap options now start
    exact ⟨trace, final, ended, completes, (if_pos begins).trans (congrArg some answers)⟩

/-- One of two workers is healthy, which is enough for the group, when somebody cancels; the other
machine is being checked. -/
theorem stops_when_told_of_two :
    let topology := plainTopology [⟨.ofList ["worker"], 2, 50, 1⟩] 1
    let plan := Launch.plan topology (fun _ => ⟨[], []⟩) .none
    let before := State.initial plan false Simulation.new
    let first := [.proceed, .start 0, .start 1, .created 0, .created 1, .checked 0, .received, .cancel]
    let second := [.aborted 1, .discarded 1, .received, .proceed]
    topology.validate = .ok () ∧ topology.maxStartupRetries.toNat + 1 < 2 ^ 32 ∧
    canBegin topology .none 0 = true ∧
    ∃ middle final report changes, before.replay Simulation.provider plan first = some middle ∧
      middle.replay Simulation.provider plan second = some final ∧
      (∀ outcome ∈ middle.outcomes, outcome.required ≤ outcome.succeeded) ∧
      (final.verdict Simulation.provider plan).1 = .error (.cancelled .bootstrap report) ∧
      Interrupted Simulation.provider changes 1 "stub-00002" report := by
  intro topology plan before first second
  have valid : topology.validate = .ok () := by decide +kernel
  have countable : topology.maxStartupRetries.toNat + 1 < 2 ^ 32 := by decide
  have begins : canBegin topology .none 0 = true := by decide +kernel
  have happens : ((before.replay Simulation.provider plan first).bind fun middle =>
      (middle.slot? 1).bind fun slot => (middle.replay Simulation.provider plan second).map fun final =>
        (middle.outcomes.all GroupOutcome.isSuccess && (middle.cancelled && !middle.finished && final.finished),
          slot.stage, final.attempt, final.stop)) =
      some (true, .checking (Simulation.nodeNumbered 2 "small") 0, 1, some .cancelled) := by decide +kernel
  obtain ⟨middle, starts, happens⟩ := Option.bind_eq_some_iff.mp happens
  obtain ⟨slot, found, happens⟩ := Option.bind_eq_some_iff.mp happens
  obtain ⟨final, ends, same⟩ := Option.map_eq_some_iff.mp happens
  simp only [Prod.mk.injEq, Bool.and_eq_true, Bool.not_eq_true'] at same
  obtain ⟨⟨enough, ⟨cancelled, unfinished⟩, finished⟩, checking, attempt, stop⟩ := same
  have early := (Run.of_replay starts).course
  have late := (Run.of_replay ends).course
  have whole := early.append late
  have law := stops_when_told topology (fun _ => ⟨[], []⟩) .none 0 valid countable begins
  have stops := law.1 _ Simulation.provider false Simulation.new _ _ middle final early late finished
    (early.cancelled_iff.mp cancelled)
  obtain ⟨report, _, answer⟩ := stops.unfinished unfinished (attempt ▸ Nat.one_pos)
  have answer := answer fun late => by
    rw [← whole.timeout_iff, stop] at late
    cases late
  obtain ⟨same, reported, interrupted⟩ := law.2.1 _ Simulation.provider false Simulation.new _ final whole
    finished (Moment.change Simulation.provider plan ⟨middle, .aborted 1⟩)
    (List.mem_append_right _ List.mem_cons_self) 1 slot _ _ rfl found checking
  rw [answer] at reported
  cases reported
  refine ⟨valid, countable, begins, middle, final, report, _, starts, ends, ?_, answer, interrupted⟩
  simpa [GroupOutcome.isSuccess] using enough

/-- A launch is cancelled while it checks its machine, and the request to destroy the machine crashes: it
is not healthy, and it is neither destroyed nor orphaned. With more permits than there can be a launch
that was cancelled before it began says nothing. -/
theorem abandons_when_told :
    let topology := plainTopology [⟨.ofList ["worker"], 1, 100, 1⟩] 0
    let plan := Launch.plan topology (fun _ => ⟨[], []⟩) .none
    let options := { LaunchOptions.none with maxConcurrent := some 2305843009213693952, cancelAt := some 0 }
    topology.validate = .ok () ∧
    (∃ (changes : List (Change Simulation)) (middle final : State Simulation) (slot : Slot) (node : Node)
      (report : LaunchReport),
      Course Simulation.provider plan (.initial plan false .new) changes final ∧ final.finished = true ∧
      (∃ change ∈ changes, change.event = some (.aborted 0) ∧ change.before = middle) ∧
      middle.slot? 0 = some slot ∧ slot.stage = .checking node 0 ∧ node.id ∈ middle.provider.createdIds ∧
      (final.verdict Simulation.provider plan).1 = .error (.cancelled .bootstrap report) ∧
      report.accounted = []) ∧
    call? Simulation.provider topology (fun _ => ⟨[], []⟩) options 0 .new = none := by
  intro topology plan options
  refine ⟨by decide +kernel, ?_, rfl⟩
  let before := State.initial plan false Simulation.new
  have happens : ((before.replay Simulation.provider plan [.proceed, .start 0, .created 0, .cancel]).bind
      fun middle => (middle.slot? 0).bind fun slot =>
        (middle.replay Simulation.provider plan [.aborted 0]).bind fun spoilt =>
          (spoilt.crash 0).bind fun crashed =>
            (crashed.replay Simulation.provider plan [.received, .proceed]).map fun final =>
              (slot.stage, middle.provider.createdIds, final.stop, final.finished &&
                (Answer.report? (final.verdict Simulation.provider plan).1).all (·.accounted.isEmpty))) =
      some (.checking (Simulation.nodeNumbered 1 "small") 0, ["stub-00001"], some .cancelled, true) := by
    decide +kernel
  obtain ⟨middle, starts, happens⟩ := Option.bind_eq_some_iff.mp happens
  obtain ⟨slot, found, happens⟩ := Option.bind_eq_some_iff.mp happens
  obtain ⟨spoilt, aborts, happens⟩ := Option.bind_eq_some_iff.mp happens
  obtain ⟨crashed, crashes, happens⟩ := Option.bind_eq_some_iff.mp happens
  obtain ⟨final, ends, same⟩ := Option.map_eq_some_iff.mp happens
  simp only [Prod.mk.injEq, Bool.and_eq_true] at same
  obtain ⟨checking, created, stop, finished, accounted⟩ := same
  have course := (((Run.of_replay starts).course.append (Run.of_replay aborts).course).append
    (.of_crash crashes)).append (Run.of_replay ends).course
  obtain ⟨report, _, ⟨succeeded, _⟩ | ⟨_, answer⟩⟩ := final.verdict_reports Simulation.provider plan
  · cases stop.symm.trans succeeded.1
  · rw [stop] at answer
    rw [answer] at accounted
    refine ⟨_, middle, final, slot, _, report, course, finished, ?_, found, checking, ?_, answer,
      List.isEmpty_iff.mp accounted⟩
    · refine ⟨Moment.change Simulation.provider plan ⟨middle, .aborted 0⟩, ?_, rfl, rfl⟩
      simp [State.moments]
    · rw [created]
      exact List.mem_cons_self

end Muster.Launch
