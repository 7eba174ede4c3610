import Muster.Proofs.Launch.Attempt

/-!
Launches whose provider may crash in any request. The steps of a launch let a creation crash.
Here a check or a destruction may crash as well, whatever is left of the provider then: the
slot ends where it is, with the arrival of a slot that ended without reporting. What such
courses of a launch keep is kept by its runs, which are courses without such a crash.
-/

namespace Muster.Launch

variable {σ : Type}

/-- What happens next: a step of the launch, or the end of a slot at work whose request crashed. -/
inductive Happens (provider : Provider σ) (plan : Plan) (before : State σ) :
    Option Event → State σ → Prop where
  | steps {event : Event} {after : State σ} (happens : before.step provider plan event = some after) :
      Happens provider plan before (some event) after
  | crashes {slot : Slot} (found : before.slot? slot.number = some slot)
      (working : slot.isAtWork = true) (left : σ) :
      Happens provider plan before none (before.moved slot left (.fails State.crashed))

theorem State.Sound.happens {provider : Provider σ} {plan : Plan} {before after : State σ}
    {event : Option Event} (sound : before.Sound plan)
    (happens : Happens provider plan before event after) : after.Sound plan := by
  cases happens with
  | steps happens => exact sound.step (State.step_sound provider plan _ _ _ happens)
  | crashes found working left => exact sound.moved (State.mem_of_slot? found) left _

/-- One thing that happened, with the states around it; it has no event if it was a crash. -/
structure Change (σ : Type) where
  before : State σ
  event : Option Event
  after : State σ

inductive Course (provider : Provider σ) (plan : Plan) : State σ → List (Change σ) → State σ → Prop where
  | refl (state : State σ) : Course provider plan state [] state
  | next {before middle after : State σ} {event : Option Event} {rest : List (Change σ)}
      (happens : Happens provider plan before event middle)
      (later : Course provider plan middle rest after) :
      Course provider plan before (⟨before, event, middle⟩ :: rest) after

namespace Course

variable {provider : Provider σ} {plan : Plan} {before middle after : State σ}
  {changes first second : List (Change σ)}

theorem append (early : Course provider plan before first middle)
    (late : Course provider plan middle second after) :
    Course provider plan before (first ++ second) after := by
  induction early with
  | refl => exact late
  | next happens _ ih => exact .next happens (ih late)

-- What came before a change, the change itself, and what came after it.
theorem split {past later : List (Change σ)} {change : Change σ}
    (course : Course provider plan before (past ++ change :: later) after) :
    Course provider plan before past change.before ∧
      Happens provider plan change.before change.event change.after ∧
      Course provider plan change.after later after := by
  induction past generalizing before with
  | nil =>
      cases course with
      | next happens rest => exact ⟨.refl _, happens, rest⟩
  | cons first past ih =>
      cases course with
      | next happens rest =>
          obtain ⟨early, change, late⟩ := ih rest
          exact ⟨.next happens early, change, late⟩

-- What everything that may happen keeps is kept by a course, as in `Run.keeps_with`.
theorem keeps_with (holds : List (Change σ) → State σ → Prop)
    (kept : ∀ past before event after, holds past before → Happens provider plan before event after →
      holds (past ++ [⟨before, event, after⟩]) after)
    (course : Course provider plan before changes after) (past : List (Change σ))
    (start : holds past before) : holds (past ++ changes) after := by
  induction course generalizing past with
  | refl => simpa using start
  | next happens _ ih => simpa [List.append_assoc] using ih _ (kept past _ _ _ start happens)

-- A course is what came before a change, the change, and what came after it.
theorem around {change : Change σ} (course : Course provider plan before changes after)
    (member : change ∈ changes) :
    ∃ past later, changes = past ++ change :: later ∧ Course provider plan before past change.before ∧
      Happens provider plan change.before change.event change.after ∧
      Course provider plan change.after later after := by
  obtain ⟨past, later, rfl⟩ := List.append_of_mem member
  exact ⟨past, later, rfl, course.split⟩

theorem keeps (holds : State σ → Prop)
    (kept : ∀ before event after, holds before → Happens provider plan before event after → holds after)
    (course : Course provider plan before changes after) (start : holds before) : holds after :=
  course.keeps_with (fun _ state => holds state) (fun _ => kept) [] start

theorem still_sound (course : Course provider plan before changes after) (sound : before.Sound plan) :
    after.Sound plan :=
  course.keeps (State.Sound plan) (fun _ _ _ sound happens => sound.happens happens) sound

theorem sound {cancelled : Bool} {start : σ} {state : State σ}
    (course : Course provider plan (.initial plan cancelled start) changes state) :
    state.Sound plan :=
  course.still_sound (State.sound_initial plan cancelled start)

-- What everything keeps that may happen to a sound state is kept from the beginning on.
theorem keeps_sound {cancelled : Bool} {start : σ} {state : State σ}
    (holds : List (Change σ) → State σ → Prop)
    (kept : ∀ past before event after, before.Sound plan → holds past before →
      Happens provider plan before event after → holds (past ++ [⟨before, event, after⟩]) after)
    (course : Course provider plan (.initial plan cancelled start) changes state)
    (first : holds [] (.initial plan cancelled start)) : holds changes state := by
  refine (course.keeps_with (fun past state => state.Sound plan ∧ holds past state) ?_ []
    ⟨State.sound_initial plan cancelled start, first⟩).2
  rintro past before event after ⟨sound, held⟩ happens
  exact ⟨sound.happens happens, kept past before event after sound held happens⟩

end Course

/-! ### What happened other than crashes -/

def Change.moment? (change : Change σ) : Option (Moment σ) :=
  change.event.map fun event => ⟨change.before, event⟩

def moments (changes : List (Change σ)) : List (Moment σ) := changes.filterMap Change.moment?

theorem mem_moments {changes : List (Change σ)} {moment : Moment σ} :
    moment ∈ moments changes ↔
      ∃ change ∈ changes, change.event = some moment.event ∧ change.before = moment.before := by
  simp only [moments, List.mem_filterMap, Change.moment?, Option.map_eq_some_iff]
  constructor
  · rintro ⟨change, member, event, same, rfl⟩
    exact ⟨change, member, same, rfl⟩
  · rintro ⟨change, member, same, before⟩
    exact ⟨change, member, moment.event, same, before ▸ rfl⟩

theorem moments_append (past : List (Change σ)) (change : Change σ) :
    moments (past ++ [change]) = moments past ++ change.moment?.toList := by
  rw [moments, List.filterMap_append, List.filterMap_cons]
  cases change.moment? <;> rfl

/-- What the steps of a launch keep, and crashes as well, is kept by a course. -/
theorem Course.keeps_moments {provider : Provider σ} {plan : Plan} {before after : State σ}
    {changes : List (Change σ)} (holds : List (Moment σ) → State σ → Prop)
    (stepped : ∀ past before event after, before.Sound plan → holds past before →
      Step provider plan before event after → holds (past ++ [⟨before, event⟩]) after)
    (crashed : ∀ past (before : State σ) slot left, before.Sound plan → holds past before →
      before.slot? slot.number = some slot → slot.isAtWork = true →
      holds past (before.moved slot left (.fails State.crashed)))
    (course : Course provider plan before changes after) (sound : before.Sound plan)
    (start : holds [] before) : holds (moments changes) after := by
  refine (course.keeps_with (fun past state => state.Sound plan ∧ holds (moments past) state) ?_ []
    ⟨sound, start⟩).2
  rintro past before event after ⟨sound, held⟩ happens
  refine ⟨sound.happens happens, ?_⟩
  rw [moments_append]
  cases happens with
  | steps happens => exact stepped _ _ _ _ sound held (State.step_sound provider plan _ _ _ happens)
  | crashes found working left =>
      rw [show (⟨before, none, _⟩ : Change σ).moment?.toList = [] from rfl, List.append_nil]
      exact crashed _ _ _ left sound held found working

def State.crash (number : Nat) (state : State σ) : Option (State σ) := do
  let slot ← state.slot? number
  if slot.isAtWork then some (state.moved slot state.provider (.fails crashed)) else none

theorem Course.of_crash {provider : Provider σ} {plan : Plan} {number : Nat} {state after : State σ}
    (crashes : state.crash number = some after) : Course provider plan state [⟨state, none, after⟩] after := by
  simp only [State.crash, Option.bind_eq_bind, Option.bind_eq_some_iff] at crashes
  obtain ⟨slot, found, crashes⟩ := crashes
  obtain rfl := State.number_of_slot? found
  split at crashes
  · rename_i working
    cases crashes
    exact .next (.crashes found working state.provider) (.refl _)
  · cases crashes

def Moment.change (provider : Provider σ) (plan : Plan) (moment : Moment σ) : Change σ :=
  ⟨moment.before, some moment.event,
    (moment.before.step provider plan moment.event).getD moment.before⟩

theorem Run.course {provider : Provider σ} {plan : Plan} {before after : State σ} {trace : List (Moment σ)}
    (run : Run provider plan before trace after) :
    Course provider plan before (trace.map (Moment.change provider plan)) after := by
  induction run with
  | refl state => exact .refl state
  | next happens later ih =>
      simp only [List.map_cons, Moment.change, happens, Option.getD_some]
      exact .next (.steps happens) ih

theorem moments_of_run (provider : Provider σ) (plan : Plan) (trace : List (Moment σ)) :
    moments (trace.map (Moment.change provider plan)) = trace := by
  simp only [moments, List.filterMap_map]
  exact List.filterMap_some

end Muster.Launch
