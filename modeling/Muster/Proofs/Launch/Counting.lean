import Muster.Proofs.Launch.Crashes
import Muster.Proofs.Launch.Completion
import Muster.Proofs.Launch.Verdict
import Muster.Provider.Simulated

/-!
Every slot is counted once. An attempt counts the slots that it gives to a group, and each of
them ends with one arrival, even if its request crashes; the launch reads every arrival and
counts it as a success or as a failure. Between attempts nothing is left to hear of, so that
the counts of a report add up, whatever moves came in between.
-/

namespace Muster.Launch

variable {σ : Type}

/-! ### What is left to hear of -/

namespace State

/-- How many slots of some groups have not been heard of: they have not ended, or their arrivals have
not been read. -/
def unheard (state : State σ) (which : Nat → Bool) : Nat :=
  state.slots.countP (fun slot => which slot.group) + state.inbox.countP fun arrival => which arrival.group

theorem unheard_of_settled {state : State σ} (settled : state.isPending = false) (which : Nat → Bool) :
    state.unheard which = 0 := by
  obtain ⟨slots, inbox⟩ := state.isPending_eq_false.mp settled
  simp [unheard, slots, inbox]

theorem unheard_all (state : State σ) :
    (state.unheard fun _ => true) = state.slots.length + state.inbox.length := by
  simp [unheard]

-- A slot that ends leaves its arrival.
theorem unheard_moved {plan : Plan} {state : State σ} (sound : state.Sound plan) {slot : Slot}
    (member : slot ∈ state.slots) (answered : σ) (next : Next) (which : Nat → Bool) :
    (state.moved slot answered next).unheard which = state.unheard which := by
  have counted := countP_moved sound member answered next fun slot => which slot.group
  cases next with
  | goes stage =>
      simp only [Next.slots, List.countP_singleton] at counted
      change _ + state.inbox.countP _ = _ + state.inbox.countP _
      omega
  | ends result =>
      simp only [Next.slots, List.countP_nil, Nat.add_zero] at counted
      change _ + (state.inbox ++ [(⟨slot.group, result⟩ : Arrival)]).countP _ = _ + state.inbox.countP _
      rw [List.countP_append, List.countP_singleton]
      dsimp only
      omega

theorem unheard_receive {state : State σ} {arrival : Arrival} {rest : List Arrival}
    (inbox : state.inbox = arrival :: rest) (which : Nat → Bool) :
    ({ state with inbox := rest }.receive arrival).unheard which +
      (if which arrival.group then 1 else 0) = state.unheard which := by
  simp only [unheard, receive_slots, receive_inbox, inbox, List.countP_cons]
  omega

-- An attempt begins with as many slots for a group as the group wants.
theorem unheard_begins (plan : Plan) {state : State σ} (settled : state.isPending = false) (index : Nat) :
    ((state.beginAttempt plan).unheard fun group => group = index) =
      ((state.groups[index]?).map GroupProgress.wanted).getD 0 := by
  obtain ⟨_, inbox⟩ := state.isPending_eq_false.mp settled
  change (state.dueSlots plan).countP _ + state.inbox.countP _ = _
  rw [inbox, List.countP_nil, Nat.add_zero]
  exact count_dueSlots plan state index

end State

/-! ### The receive loop -/

namespace Change

def launched (change : Change σ) : Nat :=
  if change.event = some .proceed then change.after.slots.length else 0

def heard (change : Change σ) : Nat := if change.event = some .received then 1 else 0

end Change

def outstanding (changes : List (Change σ)) : Nat :=
  changes.foldl (fun count change => count + change.launched - change.heard) 0

theorem outstanding_append (past : List (Change σ)) (change : Change σ) :
    outstanding (past ++ [change]) = outstanding past + change.launched - change.heard := by
  simp [outstanding]

theorem State.outstanding_happens {provider : Provider σ} {plan : Plan} {before after : State σ}
    {event : Option Event} (sound : before.Sound plan)
    (happens : Happens provider plan before event after) :
    (after.unheard fun _ => true) = (before.unheard fun _ => true) +
      (⟨before, event, after⟩ : Change σ).launched - (⟨before, event, after⟩ : Change σ).heard := by
  cases happens with
  | crashes found working left =>
      simp [unheard_moved sound (mem_of_slot? found), Change.launched, Change.heard]
  | steps happens =>
      cases State.step_sound provider plan _ _ _ happens with
      | moves found move =>
          rw [unheard_moved sound (mem_of_slot? found)]
          cases move <;> simp [Change.launched, Change.heard]
      | receives inbox =>
          have read := unheard_receive inbox fun _ => true
          simp only [Change.launched, Change.heard]
          simp at read ⊢
          omega
      | isCancelled | notices | runsOut => simp [Change.launched, Change.heard, unheard]
      | finishes settled =>
          obtain ⟨slots, inbox⟩ := before.isPending_eq_false.mp settled
          simp [Change.launched, Change.heard, unheard, slots, inbox]
      | begins settled =>
          obtain ⟨slots, inbox⟩ := before.isPending_eq_false.mp settled
          simp [Change.launched, Change.heard, unheard, slots, inbox, beginAttempt]

theorem State.settled_of_proceed {provider : Provider σ} {plan : Plan} {before after : State σ}
    (happens : before.step provider plan .proceed = some after) : before.isPending = false := by
  simp only [step] at happens
  split at happens
  · cases happens
  · rename_i settled
    simp only [Bool.or_eq_true, not_or, Bool.not_eq_true] at settled
    exact settled.1

theorem Course.outstanding_eq {provider : Provider σ} {plan : Plan} {cancelled : Bool} {start : σ}
    {changes : List (Change σ)} {state : State σ}
    (course : Course provider plan (.initial plan cancelled start) changes state) :
    outstanding changes = state.slots.length + state.inbox.length := by
  rw [← state.unheard_all]
  refine course.keeps_sound (fun past state => outstanding past = state.unheard fun _ => true) ?_ rfl
  intro past before event after sound same happens
  rw [outstanding_append, State.outstanding_happens sound happens, same]

/-! ### The counts of a group -/

def Change.shortfalls (index : Nat) (change : Change σ) : List Nat :=
  if change.before.attempt < change.after.attempt ∧ (change.after.slots.any fun slot => slot.group = index) then
    (change.before.groups[index]?).toList.map fun progress => progress.outcome.shortfall
  else []

def shortfalls (index : Nat) (changes : List (Change σ)) : List Nat :=
  changes.flatMap (Change.shortfalls index)

theorem Change.shortfalls_of_attempt {change : Change σ} (same : change.after.attempt = change.before.attempt)
    (index : Nat) : change.shortfalls index = [] := by
  simp [shortfalls, same]

namespace GroupProgress

/-- How the counts of a group go together while so many of its slots have not been heard of and it
has been short of so many machines in each of its attempts. -/
structure Counts (unheard : Nat) (shortfalls : List Nat) (attempt : Nat) (progress : GroupProgress) :
    Prop where
  attempted : progress.outcome.attempted = progress.outcome.succeeded + progress.outcome.failed + unheard
  causes : progress.outcome.failed = progress.outcome.causes.length
  healthy : progress.outcome.succeeded = progress.healthy.length
  room : progress.outcome.succeeded + unheard ≤ progress.outcome.target
  attempts : progress.outcome.attempts = shortfalls.length
  sum : progress.outcome.attempted = shortfalls.sum
  counted : progress.outcome.attempts ≤ attempt

theorem Counts.receives {unheard attempt : Nat} {shortfalls : List Nat} {progress : GroupProgress}
    (counts : progress.Counts (unheard + 1) shortfalls attempt) (result : SlotResult) :
    (progress.receive result).Counts unheard shortfalls attempt := by
  have attempted := counts.attempted
  have causes := counts.causes
  have healthy := counts.healthy
  have room := counts.room
  cases result with
  | healthy machine =>
      constructor
      case attempted => simp only [receive]; omega
      case causes => exact causes
      case healthy => simp only [receive, List.length_append, List.length_singleton]; omega
      case room => simp only [receive]; omega
      case attempts => exact counts.attempts
      case sum => exact counts.sum
      case counted => exact counts.counted
  | failed cause destroyed orphaned =>
      constructor
      case attempted => simp only [receive]; omega
      case causes => simp only [receive, List.length_append, List.length_singleton]; omega
      case healthy => exact healthy
      case room => simp only [receive]; omega
      case attempts => exact counts.attempts
      case sum => exact counts.sum
      case counted => exact counts.counted

-- A group that is due gets as many slots as it is short of; the others get none.
theorem Counts.launches {attempt : Nat} {shortfalls : List Nat} {progress : GroupProgress}
    (counts : progress.Counts 0 shortfalls attempt) :
    progress.launch.Counts progress.wanted
      (shortfalls ++ if 0 < progress.wanted then [progress.outcome.shortfall] else []) (attempt + 1) := by
  by_cases due : progress.isDue = true
  · have some : 0 < progress.outcome.shortfall := by
      simp only [isDue, Bool.and_eq_true, decide_eq_true_eq] at due
      exact due.1
    have room := counts.room
    have short : progress.outcome.shortfall = progress.outcome.target - progress.outcome.succeeded := rfl
    simp only [launch, wanted, if_pos due, if_pos some]
    constructor
    case attempted => exact congrArg (· + _) counts.attempted
    case causes => exact counts.causes
    case healthy => exact counts.healthy
    case room => dsimp only; omega
    case attempts => simp [counts.attempts]
    case sum => simp [counts.sum]
    case counted => exact Nat.succ_le_succ counts.counted
  · simp only [launch, wanted, if_neg due, Nat.lt_irrefl, if_false, List.append_nil]
    exact ⟨counts.attempted, counts.causes, counts.healthy, counts.room, counts.attempts, counts.sum,
      Nat.le_succ_of_le counts.counted⟩

end GroupProgress

namespace State

structure Counted (plan : Plan) (changes : List (Change σ)) (state : State σ) : Prop where
  within : state.attempt ≤ plan.maxAttempts
  groups : ∀ (index : Nat) progress, state.groups[index]? = some progress →
    progress.Counts (state.unheard fun group => group = index) (shortfalls index changes) state.attempt

-- Nothing that the counts speak of has changed.
theorem Counted.congr {plan : Plan} {past : List (Change σ)} {before after : State σ}
    (counted : before.Counted plan past) (event : Option Event) (attempt : after.attempt = before.attempt)
    (groups : after.groups = before.groups) (unheard : ∀ which, after.unheard which = before.unheard which) :
    after.Counted plan (past ++ [⟨before, event, after⟩]) := by
  constructor
  · exact attempt ▸ counted.within
  · intro index progress present
    have none : (⟨before, event, after⟩ : Change σ).shortfalls index = [] :=
      Change.shortfalls_of_attempt attempt index
    rw [unheard, attempt, shortfalls, List.flatMap_append, List.flatMap_singleton, none, List.append_nil]
    exact counted.groups index progress (groups ▸ present)

theorem Counted.receives {plan : Plan} {past : List (Change σ)} {state : State σ}
    (counted : state.Counted plan past) {arrival : Arrival} {rest : List Arrival}
    (inbox : state.inbox = arrival :: rest) :
    ({ state with inbox := rest }.receive arrival).Counted plan
      (past ++ [(⟨state, some .received, { state with inbox := rest }.receive arrival⟩ : Change σ)]) := by
  constructor
  · rw [receive_attempt]
    exact counted.within
  · intro index progress present
    have none : (⟨state, some .received, { state with inbox := rest }.receive arrival⟩ :
        Change σ).shortfalls index = [] :=
      Change.shortfalls_of_attempt (receive_attempt _ _) index
    have read := unheard_receive inbox fun group => group = index
    rw [receive_groups, List.getElem?_modify] at present
    obtain ⟨old, there, same⟩ := Option.map_eq_some_iff.mp present
    have counts := counted.groups index old there
    rw [receive_attempt, shortfalls, List.flatMap_append, List.flatMap_singleton, none, List.append_nil]
    by_cases here : arrival.group = index
    · simp only [here, if_true, decide_true] at same read
      rw [← read] at counts
      exact same ▸ counts.receives arrival.result
    · simp only [here, if_false, decide_false, Bool.false_eq_true, Nat.add_zero] at same read
      rw [read]
      exact same ▸ counts

theorem Counted.begins {plan : Plan} {past : List (Change σ)} {state : State σ}
    (counted : state.Counted plan past) (settled : state.isPending = false)
    (left : state.attempt < plan.maxAttempts) :
    (state.beginAttempt plan).Counted plan
      (past ++ [⟨state, some .proceed, state.beginAttempt plan⟩]) := by
  constructor
  · exact left
  · intro index progress present
    simp only [beginAttempt, List.getElem?_map] at present
    obtain ⟨old, there, rfl⟩ := Option.map_eq_some_iff.mp present
    have counts := counted.groups index old there
    rw [unheard_of_settled settled] at counts
    have given := unheard_begins plan settled index
    rw [there, Option.map_some, Option.getD_some] at given
    have short : (⟨state, some .proceed, state.beginAttempt plan⟩ : Change σ).shortfalls index =
        if 0 < old.wanted then [old.outcome.shortfall] else [] := by
      have slots := count_dueSlots plan state index
      rw [there, Option.map_some, Option.getD_some] at slots
      have among : (((state.dueSlots plan).any fun slot => slot.group = index) = true) ↔ 0 < old.wanted := by
        rw [← slots, List.countP_pos_iff, List.any_eq_true]
      have later : state.attempt < (state.beginAttempt plan).attempt := Nat.lt_succ_self _
      simp only [Change.shortfalls, later, true_and, there, Option.toList_some, List.map_singleton]
      exact if_congr among rfl rfl
    rw [given, shortfalls, List.flatMap_append, List.flatMap_singleton, short]
    exact counts.launches

theorem Counted.happens {provider : Provider σ} {plan : Plan} {past : List (Change σ)}
    {before after : State σ} {event : Option Event} (sound : before.Sound plan)
    (counted : before.Counted plan past) (happens : Happens provider plan before event after) :
    after.Counted plan (past ++ [⟨before, event, after⟩]) := by
  cases happens with
  | crashes found working left =>
      exact counted.congr none rfl rfl (unheard_moved sound (mem_of_slot? found) left _)
  | steps happens =>
      cases State.step_sound provider plan _ _ _ happens with
      | moves found move =>
          rename_i slot answered next
          exact counted.congr _ (moved_attempt _ _ _ _) (moved_groups _ _ _ _)
            (unheard_moved sound (mem_of_slot? found) answered next)
      | receives inbox => exact counted.receives inbox
      | isCancelled | notices | runsOut | finishes => exact counted.congr _ rfl rfl fun _ => rfl
      | begins settled unfinished goingOn left due => exact counted.begins settled left

theorem counted_initial (plan : Plan) (cancelled : Bool) (provider : σ) :
    Counted plan [] (.initial plan cancelled provider) where
  within := Nat.zero_le _
  groups := by
    intro index progress present
    simp only [initial, List.getElem?_map] at present
    obtain ⟨group, _, rfl⟩ := Option.map_eq_some_iff.mp present
    exact ⟨rfl, rfl, rfl, Nat.zero_le _, rfl, rfl, Nat.le_refl _⟩

end State

theorem Course.counted {provider : Provider σ} {plan : Plan} {cancelled : Bool} {start : σ}
    {changes : List (Change σ)} {state : State σ}
    (course : Course provider plan (.initial plan cancelled start) changes state) :
    state.Counted plan changes :=
  course.keeps_sound (fun past state => state.Counted plan past)
    (fun _ _ _ _ sound counted happens => counted.happens sound happens)
    (State.counted_initial plan cancelled start)

/-! ### What a report says -/

structure GroupProgress.AddsUp (retries : Nat) (shortfalls : List Nat) (progress : GroupProgress) : Prop where
  attempted : progress.outcome.attempted = progress.outcome.succeeded + progress.outcome.failed
  failed : progress.outcome.failed = progress.outcome.causes.length
  succeeded : progress.outcome.succeeded = progress.healthy.length
  within : progress.outcome.succeeded ≤ progress.outcome.target
  attempts : progress.outcome.attempts = shortfalls.length ∧ progress.outcome.attempts ≤ retries + 1
  short : progress.outcome.attempted = shortfalls.sum

def CountsAddUp (plan : Plan) (changes : List (Change σ)) (final : State σ) (answer : Answer) : Prop :=
  ∃ report, answer.report? = some report ∧ report.groups = final.groups.map GroupProgress.outcome ∧
    ∀ (index : Nat) progress, final.groups[index]? = some progress →
      progress.AddsUp plan.topology.maxStartupRetries.toNat (shortfalls index changes)

-- The number of attempts is counted in 32 bits, so that there may be fewer than one more.
theorem Plan.maxAttempts_le (plan : Plan) : plan.maxAttempts ≤ plan.topology.maxStartupRetries.toNat + 1 := by
  rw [plan.maxAttempts_eq]
  exact Nat.mod_le _ _

/-- When a launch is over, its report counts every slot once. -/
theorem Course.addsUp {provider : Provider σ} {plan : Plan} {cancelled : Bool} {start : σ}
    {changes : List (Change σ)} {final : State σ}
    (course : Course provider plan (.initial plan cancelled start) changes final)
    (finished : final.finished = true) :
    CountsAddUp plan changes final (final.verdict provider plan).1 := by
  obtain ⟨report, reported, tells⟩ := (final.verdict_ending provider plan).reports
  refine ⟨report, reported, tells.groups, fun index progress present => ?_⟩
  have counted := course.counted
  have counts := counted.groups index progress present
  rw [State.unheard_of_settled (course.sound.settled finished)] at counts
  exact {
    attempted := counts.attempted
    failed := counts.causes
    succeeded := counts.healthy
    within := counts.room
    attempts := ⟨counts.attempts,
      (counts.counted.trans counted.within).trans plan.maxAttempts_le⟩
    short := counts.sum }

/-- Every slot of a launch is counted once, whatever its provider answers, whichever of its
requests crashes and whenever it is told to end. At any time the slots that are outstanding
are those that have not ended and those whose arrivals have not been read; an attempt ends
only when there are none. In the report of a launch that is over the counts of every group
add up: what was attempted is what succeeded and what failed, and is what the group was short
of at the beginning of each of its attempts. -/
theorem slots_counted_once (topology : Topology) (bootstrap : RoleSet → Script) (options : LaunchOptions) :
    let plan := plan topology bootstrap options
    (∀ (σ : Type) (provider : Provider σ) (cancelled : Bool) (start : σ) (changes : List (Change σ))
      (state : State σ), Course provider plan (.initial plan cancelled start) changes state →
      outstanding changes = state.slots.length + state.inbox.length ∧
      (∀ past change later, changes = past ++ change :: later → change.event = some .proceed →
        outstanding past = 0) ∧
      (state.finished = true → CountsAddUp plan changes state (state.verdict provider plan).1)) ∧
    (∀ (σ : Type) (provider : Provider σ) (now : Nat) (start : σ), ∃ trace final ended,
      Completes provider plan (options.cancelAt.any (· ≤ now)) start trace final ∧
      run provider topology bootstrap options now start =
        ((final.verdict provider plan).1, ended, (final.verdict provider plan).2) ∧
      CountsAddUp plan (trace.map (Moment.change provider plan)) final
        (run provider topology bootstrap options now start).1) := by
  intro plan
  constructor
  · intro σ provider cancelled start changes state course
    refine ⟨course.outstanding_eq, ?_, course.addsUp⟩
    rintro past ⟨before, event, after⟩ later rfl same
    obtain ⟨early, happens, _⟩ := course.split
    cases same
    cases happens with
    | steps happens =>
        obtain ⟨slots, inbox⟩ := before.isPending_eq_false.mp (State.settled_of_proceed happens)
        simpa [slots, inbox] using early.outstanding_eq
  · intro σ provider now start
    obtain ⟨trace, final, ended, completes, answers, _⟩ :=
      run_completes provider topology bootstrap options now start
    refine ⟨trace, final, ended, completes, answers, ?_⟩
    rw [answers]
    exact completes.run.course.addsUp completes.finished

/-- In the first attempt one creation crashes and the readiness check of the other machine does
too; in the second the machines are healthy. -/
theorem slots_counted_once_of_two :
    let topology := plainTopology [⟨.ofList ["worker"], 2, 50, 1⟩] 1
    let plan := plan topology (fun _ => ⟨[], []⟩) .none
    let start := { Simulation.new with faults.crashes := 1 }
    ∃ (final : State Simulation) (changes : List (Change Simulation)) (progress : GroupProgress),
      Course Simulation.provider plan (.initial plan false start) changes final ∧
      final.finished = true ∧ final.groups = [progress] ∧
      progress.outcome.causes = [State.crashed, State.crashed] ∧ progress.outcome.succeeded = 2 ∧
      progress.outcome.attempted = 4 ∧ (shortfalls 0 changes).length = 2 ∧ (shortfalls 0 changes).sum = 4 := by
  intro topology plan start
  let before := State.initial plan false start
  have happens : ((before.replay Simulation.provider plan
      [.proceed, .start 0, .start 1, .created 1]).bind fun early =>
      (early.crash 1).bind fun late => (late.replay Simulation.provider plan
        [.received, .received, .proceed, .start 2, .start 3, .created 3, .created 2, .checked 2, .received,
          .checked 3, .received, .proceed]).map fun final =>
          (final.finished, final.groups.map fun progress =>
            (progress.outcome.causes, progress.outcome.succeeded, progress.outcome.attempts))) =
      some (true, [([State.crashed, State.crashed], 2, 2)]) := by decide +kernel
  obtain ⟨early, begins, happens⟩ := Option.bind_eq_some_iff.mp happens
  obtain ⟨late, crashes, happens⟩ := Option.bind_eq_some_iff.mp happens
  obtain ⟨final, ends, same⟩ := Option.map_eq_some_iff.mp happens
  obtain ⟨finished, groups⟩ := Prod.mk.inj same
  obtain ⟨progress, one, counts⟩ := List.map_eq_singleton_iff.mp groups
  simp only [Prod.mk.injEq] at counts
  obtain ⟨causes, succeeded, attempts⟩ := counts
  have course := ((Run.of_replay begins).course.append (.of_crash crashes)).append
    (Run.of_replay ends).course
  obtain ⟨_, _, reports⟩ := (slots_counted_once topology (fun _ => ⟨[], []⟩) .none).1 _
    Simulation.provider false start _ final course
  obtain ⟨_, _, _, adds⟩ := reports finished
  have adds := adds 0 progress (by rw [one]; rfl)
  have attempted : progress.outcome.attempted = 4 := by
    rw [adds.attempted, adds.failed, causes, succeeded]
    rfl
  exact ⟨final, _, progress, course, finished, one, causes, succeeded, attempted,
    adds.attempts.1.symm.trans attempts, adds.short.symm.trans attempted⟩

end Muster.Launch
