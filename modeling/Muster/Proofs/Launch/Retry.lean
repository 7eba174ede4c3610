import Muster.Proofs.Launch.Crashes
import Muster.Proofs.Launch.Verdict
import Muster.Proofs.Topology.Groups

/-!
Which groups an attempt launches, and what a launch answers when its attempts are over.
Every group is launched in the first attempt. Later attempts launch the groups that are
below their threshold, so that a group that is short in the end has been launched in every
attempt. A launch that is cancelled or out of time says so, and only then.
-/

namespace Muster.Launch

variable {σ : Type}

namespace GroupProgress

-- A group of a feasible topology is due as long as it is short.
theorem isDue_of_short {group : InstanceGroup} {progress : GroupProgress} (of : Of group progress)
    (feasible : group.Feasible) (short : progress.outcome.succeeded < progress.outcome.required) :
    progress.isDue = true := by
  have enough := feasible.enough
  rw [← of.target, ← of.required] at enough
  have left : 0 < progress.outcome.shortfall := by
    unfold GroupOutcome.shortfall
    omega
  simp [isDue, left, GroupOutcome.isSuccess, short]

theorem isDue_new {group : InstanceGroup} (feasible : group.Feasible) : (new group).isDue = true := by
  have left : 0 < (new group).outcome.shortfall := feasible.some
  have fresh : (new group).outcome.attempts = 0 := rfl
  simp [isDue, left, fresh]

theorem launch_of_due {progress : GroupProgress} (due : progress.isDue = true) :
    progress.launch.outcome.attempts = progress.outcome.attempts + 1 := by
  simp [launch, due]

theorem short_of_receive {progress : GroupProgress} {result : SlotResult}
    (short : (progress.receive result).outcome.succeeded < (progress.receive result).outcome.required) :
    progress.outcome.succeeded < progress.outcome.required := by
  cases result with
  | healthy machine => exact Nat.lt_of_succ_lt short
  | failed cause destroyed orphaned => exact short

theorem healthy_receive (progress : GroupProgress) (result : SlotResult) :
    progress.healthy <+: (progress.receive result).healthy := by
  cases result with
  | healthy machine => exact List.prefix_append _ _
  | failed cause destroyed orphaned => exact List.prefix_rfl

end GroupProgress

namespace State

structure Tallied (plan : Plan) (state : State σ) : Prop where
  fresh : state.attempt = 0 → state.isPending = false ∧ state.stop = none ∧
    state.groups = plan.topology.groups.map .new
  launched : 0 < state.attempt → ∀ progress ∈ state.groups, 0 < progress.outcome.attempts
  short : 0 < state.attempt → ∀ progress ∈ state.groups,
    progress.outcome.succeeded < progress.outcome.required → progress.outcome.attempts = state.attempt
  counted : state.attempt ≤ plan.maxAttempts
  exhausted : state.finished = true → state.stop = none →
    plan.maxAttempts ≤ state.attempt ∨ state.groups.any GroupProgress.isDue = false

theorem tallied_initial (plan : Plan) (cancelled : Bool) (provider : σ) :
    Tallied plan (.initial plan cancelled provider) where
  fresh := fun _ => ⟨rfl, rfl, rfl⟩
  launched := fun begun => (Nat.lt_irrefl 0 begun).elim
  short := fun begun => (Nat.lt_irrefl 0 begun).elim
  counted := Nat.zero_le _
  exhausted := fun finished => nomatch finished

theorem mem_modify {α : Type} {items : List α} {index : Nat} {change : α → α} {item : α}
    (member : item ∈ items.modify index change) : item ∈ items ∨ ∃ old ∈ items, item = change old := by
  obtain ⟨place, found⟩ := List.mem_iff_getElem?.mp member
  rw [List.getElem?_modify] at found
  obtain ⟨old, present, same⟩ := Option.map_eq_some_iff.mp found
  have inItems := List.mem_of_getElem? present
  split at same
  · exact .inr ⟨old, inItems, same.symm⟩
  · exact .inl (same ▸ inItems)

theorem Sound.group_of {plan : Plan} {state : State σ} (sound : state.Sound plan)
    {progress : GroupProgress} (member : progress ∈ state.groups) :
    ∃ group, GroupProgress.Of group progress ∧ group ∈ plan.topology.groups := by
  obtain ⟨index, present⟩ := List.mem_iff_getElem?.mp member
  have inside : index < plan.topology.groups.length :=
    sound.size ▸ (List.getElem?_eq_some_iff.mp present).1
  have declared := List.getElem?_eq_getElem inside
  exact ⟨_, sound.groups index _ progress declared present, List.mem_of_getElem? declared⟩

theorem Sound.progress_of {plan : Plan} {state : State σ} (sound : state.Sound plan)
    {group : InstanceGroup} (declared : group ∈ plan.topology.groups) :
    ∃ progress, GroupProgress.Of group progress ∧ progress ∈ state.groups := by
  obtain ⟨index, present⟩ := List.mem_iff_getElem?.mp declared
  have inside : index < state.groups.length :=
    sound.size ▸ (List.getElem?_eq_some_iff.mp present).1
  have there := List.getElem?_eq_getElem inside
  exact ⟨_, sound.groups index group _ present there, List.mem_of_getElem? there⟩

theorem Tallied.begun {plan : Plan} {state : State σ} (tallied : state.Tallied plan)
    (pending : state.isPending = true) : 0 < state.attempt := by
  apply Nat.pos_of_ne_zero
  intro zero
  have settled := (tallied.fresh zero).1
  rw [pending] at settled
  cases settled

-- A state that differs in nothing that the tally speaks of.
theorem Tallied.congr {plan : Plan} {before after : State σ} (tallied : before.Tallied plan)
    (attempt : after.attempt = before.attempt) (groups : after.groups = before.groups)
    (pending : before.isPending = true) (unfinished : after.finished = false) : after.Tallied plan where
  fresh := fun zero => absurd (tallied.begun pending) (by omega)
  launched := attempt ▸ groups ▸ tallied.launched
  short := attempt ▸ groups ▸ tallied.short
  counted := attempt ▸ tallied.counted
  exhausted := fun finished => nomatch unfinished.symm.trans finished

theorem Tallied.receives {plan : Plan} {state : State σ} (sound : state.Sound plan)
    (tallied : state.Tallied plan) {arrival : Arrival} {rest : List Arrival}
    (inbox : state.inbox = arrival :: rest) :
    ({ state with inbox := rest }.receive arrival).Tallied plan := by
  have pending := pending_of_inbox inbox
  have begun := tallied.begun pending
  refine ⟨fun zero => ?_, fun _ => ?_, fun _ => ?_, ?_, fun finished => ?_⟩
  · rw [receive_attempt] at zero
    exact absurd begun (Nat.not_lt_of_le (Nat.le_of_eq zero))
  · rw [receive_groups]
    intro progress member
    rcases mem_modify member with old | ⟨old, among, rfl⟩
    · exact tallied.launched begun progress old
    · rw [GroupProgress.receive_attempts]
      exact tallied.launched begun old among
  · rw [receive_groups, receive_attempt]
    intro progress member short
    rcases mem_modify member with old | ⟨old, among, rfl⟩
    · exact tallied.short begun progress old short
    · rw [GroupProgress.receive_attempts]
      exact tallied.short begun old among (GroupProgress.short_of_receive short)
  · rw [receive_attempt]
    exact tallied.counted
  · rw [receive_finished] at finished
    cases (sound.unfinished pending).symm.trans finished

-- The groups that are short go on, and no others.
theorem Tallied.begins {plan : Plan} {state : State σ} (feasible : plan.topology.Feasible)
    (sound : state.Sound plan) (tallied : state.Tallied plan) (unfinished : state.finished = false)
    (left : state.attempt < plan.maxAttempts) : (state.beginAttempt plan).Tallied plan := by
  -- the first attempt is apart: it is there for every group
  have first (zero : state.attempt = 0) (progress : GroupProgress) (member : progress ∈ state.groups) :
      progress.isDue = true ∧ progress.outcome.attempts = 0 := by
    rw [(tallied.fresh zero).2.2] at member
    obtain ⟨group, declared, rfl⟩ := List.mem_map.mp member
    exact ⟨GroupProgress.isDue_new (feasible.groups group declared), rfl⟩
  refine ⟨nofun, fun _ => ?_, fun _ => ?_, left, fun finished => nomatch unfinished.symm.trans finished⟩
  · intro progress member
    obtain ⟨old, among, rfl⟩ := List.mem_map.mp member
    rcases Nat.eq_zero_or_pos state.attempt with zero | begun
    · rw [GroupProgress.launch_of_due (first zero old among).1]
      exact Nat.succ_pos _
    · have before := tallied.launched begun old among
      unfold GroupProgress.launch
      split
      · exact Nat.succ_pos _
      · exact before
  · intro progress member short
    obtain ⟨old, among, rfl⟩ := List.mem_map.mp member
    rw [GroupProgress.launch_succeeded, GroupProgress.launch_required] at short
    change _ = state.attempt + 1
    rcases Nat.eq_zero_or_pos state.attempt with zero | begun
    · obtain ⟨due, none⟩ := first zero old among
      rw [GroupProgress.launch_of_due due, none, zero]
    · obtain ⟨group, of, declared⟩ := sound.group_of among
      rw [GroupProgress.launch_of_due (GroupProgress.isDue_of_short of (feasible.groups group declared)
        short), tallied.short begun old among short]

theorem Tallied.step {provider : Provider σ} {plan : Plan} {before after : State σ} {event : Event}
    (feasible : plan.topology.Feasible) (sound : before.Sound plan) (tallied : before.Tallied plan)
    (step : Step provider plan before event after) : after.Tallied plan := by
  cases step with
  | moves found move =>
      have pending := pending_of_mem (mem_of_slot? found)
      have unfinished := sound.unfinished pending
      rename_i slot answered next
      cases next <;> exact tallied.congr rfl rfl pending unfinished
  | receives inbox => exact tallied.receives sound inbox
  | isCancelled =>
      exact ⟨tallied.fresh, tallied.launched, tallied.short, tallied.counted, tallied.exhausted⟩
  | notices pending | runsOut pending => exact tallied.congr rfl rfl pending (sound.unfinished pending)
  | finishes settled unfinished reason =>
      refine ⟨fun zero => ?_, tallied.launched, tallied.short, tallied.counted, fun _ goingOn => ?_⟩
      · obtain ⟨settled, goingOn, groups⟩ := tallied.fresh zero
        exact ⟨settled, by simp [closing, show before.attempt = 0 from zero, goingOn], groups⟩
      · have goesOn : before.closing = none := goingOn
        simpa [goesOn] using reason
  | begins settled unfinished goingOn left due => exact tallied.begins feasible sound unfinished left

/-- An attempt launches every group if it is the first, and the groups that are short else. -/
theorem Tallied.isDue_iff {plan : Plan} {state : State σ} (feasible : plan.topology.Feasible)
    (sound : state.Sound plan) (tallied : state.Tallied plan) {progress : GroupProgress}
    (member : progress ∈ state.groups) : progress.isDue = true ↔
      state.attempt = 0 ∨ progress.outcome.succeeded < progress.outcome.required := by
  obtain ⟨group, of, declared⟩ := sound.group_of member
  constructor
  · intro due
    rcases Nat.eq_zero_or_pos state.attempt with zero | begun
    · exact .inl zero
    · have launched := tallied.launched begun progress member
      simp only [GroupProgress.isDue, Bool.and_eq_true, Bool.or_eq_true, decide_eq_true_eq,
        Bool.not_eq_true', GroupOutcome.isSuccess, decide_eq_false_iff_not, Nat.not_le] at due
      exact .inr (due.2.resolve_left (by omega))
  · rintro (zero | short)
    · rw [(tallied.fresh zero).2.2] at member
      obtain ⟨group, declared, rfl⟩ := List.mem_map.mp member
      exact GroupProgress.isDue_new (feasible.groups group declared)
    · exact GroupProgress.isDue_of_short of (feasible.groups group declared) short

-- A group that is short when nothing has stopped the launch was in every attempt.
theorem Tallied.attempts_of_short {plan : Plan} {state : State σ} (feasible : plan.topology.Feasible)
    (sound : state.Sound plan) (tallied : state.Tallied plan) (some : 0 < plan.maxAttempts)
    (finished : state.finished = true) (goingOn : state.stop = none) {progress : GroupProgress}
    (member : progress ∈ state.groups)
    (short : progress.outcome.succeeded < progress.outcome.required) :
    progress.outcome.attempts = plan.maxAttempts := by
  have due := (tallied.isDue_iff feasible sound member).mpr (.inr short)
  -- it did not end for want of groups to launch, since this one is due
  have all : plan.maxAttempts ≤ state.attempt := by
    apply (tallied.exhausted finished goingOn).resolve_right
    intro nothing
    rw [List.any_eq_true.mpr ⟨progress, member, due⟩] at nothing
    cases nothing
  rw [tallied.short (Nat.lt_of_lt_of_le some all) progress member short]
  exact Nat.le_antisymm tallied.counted all

theorem Tallied.begun_of_finished {plan : Plan} {state : State σ} (feasible : plan.topology.Feasible)
    (sound : state.Sound plan) (tallied : state.Tallied plan) (some : 0 < plan.maxAttempts)
    (finished : state.finished = true) : 0 < state.attempt := by
  apply Nat.pos_of_ne_zero
  intro zero
  obtain ⟨group, declared⟩ := List.exists_mem_of_ne_nil _ feasible.some
  have member : GroupProgress.new group ∈ state.groups := by
    rw [(tallied.fresh zero).2.2]
    exact List.mem_map_of_mem declared
  have due := (tallied.isDue_iff feasible sound member).mpr (.inl zero)
  rcases tallied.exhausted finished (tallied.fresh zero).2.1 with all | nothing
  · omega
  · rw [List.any_eq_true.mpr ⟨_, member, due⟩] at nothing
    cases nothing

def Keeps (before after : State σ) : Prop :=
  ∀ (index : Nat) progress, before.groups[index]? = some progress →
    ∃ later, after.groups[index]? = some later ∧ progress.healthy <+: later.healthy

theorem keeps_step {provider : Provider σ} {plan : Plan} {before after : State σ} {event : Event}
    (step : Step provider plan before event after) : before.Keeps after := by
  have same : before.Keeps before := fun _ progress present => ⟨progress, present, List.prefix_rfl⟩
  cases step with
  | moves found move =>
      rename_i slot answered next
      cases next <;> exact same
  | receives inbox =>
      intro index progress present
      rw [receive_groups, List.getElem?_modify, present]
      refine ⟨_, rfl, ?_⟩
      split
      · exact GroupProgress.healthy_receive progress _
      · exact List.prefix_rfl
  | isCancelled | notices | runsOut | finishes => exact same
  | begins =>
      intro index progress present
      refine ⟨progress.launch, by simp [beginAttempt, present], ?_⟩
      exact GroupProgress.launch_healthy progress ▸ List.prefix_rfl

/-! ### Who ended the launch -/

structure Blamed (plan : Plan) (atFirst : Bool) (trace : List (Moment σ)) (state : State σ) : Prop where
  told : state.cancelled = true → state.stop = none →
    atFirst = true ∨ ∃ moment ∈ trace, moment.event = .cancel
  cancelled : state.stop = some .cancelled →
    atFirst = true ∨ ∃ moment ∈ trace, moment.event = .cancel
  timeout : state.stop = some .timeout →
    plan.deadline.isSome = true ∧ ∃ moment ∈ trace, moment.event = .deadline

theorem blamed_initial (plan : Plan) (atFirst : Bool) (provider : σ) :
    Blamed plan atFirst [] (.initial plan atFirst provider) :=
  ⟨fun cancelled _ => .inl cancelled, nofun, nofun⟩

theorem Blamed.later {plan : Plan} {atFirst : Bool} {trace : List (Moment σ)} {before after : State σ}
    (blamed : Blamed plan atFirst trace before) (moment : Moment σ)
    (cancelled : after.cancelled = before.cancelled) (stop : after.stop = before.stop) :
    Blamed plan atFirst (trace ++ [moment]) after := by
  have more {event : Event} (among : ∃ moment ∈ trace, moment.event = event) :
      ∃ other ∈ trace ++ [moment], other.event = event :=
    let ⟨other, member, same⟩ := among
    ⟨other, List.mem_append_left _ member, same⟩
  refine ⟨fun told goingOn => ?_, fun stopped => ?_, fun stopped => ?_⟩
  · exact (blamed.told (cancelled ▸ told) (stop ▸ goingOn)).imp_right more
  · exact (blamed.cancelled (stop ▸ stopped)).imp_right more
  · exact (blamed.timeout (stop ▸ stopped)).imp_right more

theorem Blamed.step {provider : Provider σ} {plan : Plan} {atFirst : Bool} {trace : List (Moment σ)}
    {before after : State σ} {event : Event} (blamed : Blamed plan atFirst trace before)
    (step : Step provider plan before event after) :
    Blamed plan atFirst (trace ++ [⟨before, event⟩]) after := by
  have same := blamed.later ⟨before, event⟩ rfl rfl
  cases step with
  | moves found move =>
      rename_i slot answered next
      cases next <;> exact ⟨same.told, same.cancelled, same.timeout⟩
  | receives inbox => exact blamed.later _ (receive_cancelled _ _) (receive_stop _ _)
  | isCancelled =>
      exact ⟨fun _ _ => .inr ⟨_, List.mem_append_right _ List.mem_cons_self, rfl⟩, same.cancelled,
        same.timeout⟩
  | notices pending cancelled goingOn =>
      exact ⟨nofun, fun _ => same.told cancelled goingOn, nofun⟩
  | runsOut pending given goingOn =>
      exact ⟨nofun, nofun, fun _ => ⟨given, _, List.mem_append_right _ List.mem_cons_self, rfl⟩⟩
  | finishes settled unfinished reason =>
      -- only here is a cancellation noted without an event of its own
      by_cases told : (0 < before.attempt && before.stop.isNone && before.cancelled) = true
      · have closes : before.closing = some .cancelled := if_pos told
        simp only [Bool.and_eq_true, Option.isNone_iff_eq_none] at told
        refine ⟨fun _ goingOn => ?_, fun _ => same.told told.2 told.1.2, fun stopped => ?_⟩
        · exact nomatch closes.symm.trans goingOn
        · exact nomatch closes.symm.trans stopped
      · have closes : before.closing = before.stop := if_neg told
        exact blamed.later _ rfl closes
  | begins => exact ⟨same.told, same.cancelled, same.timeout⟩

end State

section

variable {provider : Provider σ} {plan : Plan} {cancelled : Bool} {start : σ} {changes : List (Change σ)}
  {state : State σ}

-- A slot that crashes leaves the groups to what its arrival will say.
theorem Course.tallied (feasible : plan.topology.Feasible)
    (course : Course provider plan (.initial plan cancelled start) changes state) : state.Tallied plan := by
  refine course.keeps_moments (fun _ state => state.Tallied plan) ?_ ?_
    (State.sound_initial plan cancelled start) (State.tallied_initial plan cancelled start)
  · exact fun _ _ _ _ sound tallied step => tallied.step feasible sound step
  · intro _ before slot left sound tallied found _
    have pending := State.pending_of_mem (State.mem_of_slot? found)
    exact tallied.congr rfl rfl pending (sound.unfinished pending)

theorem Course.blamed (course : Course provider plan (.initial plan cancelled start) changes state) :
    state.Blamed plan cancelled (moments changes) :=
  course.keeps_moments (fun past state => state.Blamed plan cancelled past)
    (fun _ _ _ _ _ blamed step => blamed.step step)
    (fun _ _ _ _ _ blamed _ _ => ⟨blamed.told, blamed.cancelled, blamed.timeout⟩)
    (State.sound_initial plan cancelled start) (State.blamed_initial plan cancelled start)

end

theorem Course.keeps_healthy {provider : Provider σ} {plan : Plan} {before after : State σ}
    {changes : List (Change σ)} (course : Course provider plan before changes after) :
    before.Keeps after := by
  refine course.keeps before.Keeps ?_ fun _ progress present => ⟨progress, present, List.prefix_rfl⟩
  intro middle event next kept happens index progress present
  obtain ⟨later, present, early⟩ := kept index progress present
  cases happens with
  | crashes => exact ⟨later, present, early⟩
  | steps happens =>
      obtain ⟨last, present, late⟩ :=
        State.keeps_step (State.step_sound provider plan _ _ _ happens) index later present
      exact ⟨last, present, early.trans late⟩

/-- What the beginning of an attempt makes of one group. It is given as many slots as it has
machines to come if the attempt is the first or the group is short, and left alone else. -/
structure Relaunches (before after : State σ) (index : Nat) (group : InstanceGroup)
    (progress : GroupProgress) : Prop where
  next : after.attempt = before.attempt + 1
  due : before.attempt = 0 ∨ progress.outcome.succeeded < group.required.toNat →
    progress.outcome.succeeded < group.target.toNat ∧
    (after.slots.countP fun slot => slot.group = index) =
      group.target.toNat - progress.outcome.succeeded ∧
    ∃ later, after.groups[index]? = some later ∧
      later.outcome.attempts = progress.outcome.attempts + 1 ∧
      later.outcome.succeeded = progress.outcome.succeeded ∧ later.healthy = progress.healthy
  done : before.attempt ≠ 0 → group.required.toNat ≤ progress.outcome.succeeded →
    (after.slots.countP fun slot => slot.group = index) = 0 ∧ after.groups[index]? = some progress

structure Judged (plan : Plan) (atFirst : Bool) (trace : List (Moment σ)) (final : State σ)
    (answer : Answer) : Prop where
  declared : (final.outcomes.map fun outcome => (outcome.roles, outcome.target, outcome.required)) =
    plan.topology.groups.map fun group => (group.roles, group.target.toNat, group.required.toNat)
  reported : ∃ report, answer.report? = some report ∧ report.groups = final.outcomes
  launched : ∀ outcome ∈ final.outcomes, 0 < outcome.attempts
  success : (∃ result, answer = .ok result) ↔
    final.stop = none ∧ ∀ outcome ∈ final.outcomes, outcome.required ≤ outcome.succeeded
  shortage : (∃ report, answer = .error (.partialFailure .bootstrap report)) ↔
    final.stop = none ∧ ∃ outcome ∈ final.outcomes, outcome.succeeded < outcome.required
  exhausted : (∃ report, answer = .error (.partialFailure .bootstrap report)) →
    ∀ outcome ∈ final.outcomes, outcome.succeeded < outcome.required →
      outcome.attempts = plan.topology.maxStartupRetries.toNat + 1
  cancelled : (∃ report, answer = .error (.cancelled .bootstrap report)) →
    atFirst = true ∨ ∃ moment ∈ trace, moment.event = .cancel
  timeout : (∃ report, answer = .error (.timeout .bootstrap report)) →
    plan.deadline.isSome = true ∧ ∃ moment ∈ trace, moment.event = .deadline

theorem State.relaunches {provider : Provider σ} {plan : Plan} {before after : State σ}
    (feasible : plan.topology.Feasible) (sound : before.Sound plan) (tallied : before.Tallied plan)
    (happens : before.step provider plan .proceed = some after) (goesOn : after.finished = false)
    {index : Nat} {group : InstanceGroup} {progress : GroupProgress}
    (declared : plan.topology.groups[index]? = some group)
    (present : before.groups[index]? = some progress) :
    Relaunches before after index group progress := by
  have of := sound.groups index group progress declared present
  have launches := tallied.isDue_iff feasible sound (List.mem_of_getElem? present)
  rw [of.required] at launches
  cases State.step_sound provider plan _ _ _ happens with
  | moves found move => cases move
  | finishes => cases goesOn
  | begins settled unfinished goingOn left due =>
      have slots := State.count_dueSlots plan before index
      rw [present, Option.map_some, Option.getD_some, GroupProgress.wanted] at slots
      have later : (before.beginAttempt plan).groups[index]? = some progress.launch := by
        simp [beginAttempt, present]
      refine ⟨rfl, fun chosen => ?_, fun later' enough => ?_⟩
      · have due := launches.mpr chosen
        have missing : 0 < group.target.toNat - progress.outcome.succeeded := by
          rw [← of.target]
          simp only [GroupProgress.isDue, Bool.and_eq_true, decide_eq_true_eq] at due
          exact due.1
        rw [if_pos due, GroupOutcome.shortfall, of.target] at slots
        exact ⟨by omega, slots, _, later, GroupProgress.launch_of_due due,
          GroupProgress.launch_succeeded progress, GroupProgress.launch_healthy progress⟩
      · have spared : ¬ progress.isDue = true := fun due => by
          have chosen := launches.mp due
          omega
        rw [if_neg spared] at slots
        rw [later, GroupProgress.launch, if_neg spared]
        exact ⟨slots, rfl⟩

-- What is the same for every group is the same for the lists of them.
theorem State.Sound.map_groups {β : Type} {plan : Plan} {state : State σ} (sound : state.Sound plan)
    {ofProgress : GroupProgress → β} {ofGroup : InstanceGroup → β}
    (same : ∀ (index : Nat) group progress, plan.topology.groups[index]? = some group →
      state.groups[index]? = some progress → ofProgress progress = ofGroup group) :
    state.groups.map ofProgress = plan.topology.groups.map ofGroup := by
  apply List.ext_getElem
  · rw [List.length_map, List.length_map, sound.size]
  · intro index inState inPlan
    rw [List.getElem_map, List.getElem_map]
    exact same index _ _ (List.getElem?_eq_getElem (by simpa using inPlan))
      (List.getElem?_eq_getElem (by simpa using inState))

-- The groups of a launch are the groups of its topology, in order.
theorem State.Sound.declared {plan : Plan} {state : State σ} (sound : state.Sound plan) :
    (state.outcomes.map fun outcome => (outcome.roles, outcome.target, outcome.required)) =
      plan.topology.groups.map fun group => (group.roles, group.target.toNat, group.required.toNat) := by
  rw [outcomes, List.map_map]
  apply sound.map_groups
  intro index group progress declared present
  have of := sound.groups index group progress declared present
  simp only [Function.comp_apply, of.roles, of.target, of.required]

theorem Course.judged {provider : Provider σ} {plan : Plan} {cancelled : Bool} {start : σ}
    {changes : List (Change σ)} {final : State σ} (feasible : plan.topology.Feasible)
    (countable : plan.topology.maxStartupRetries.toNat + 1 < 2 ^ 32)
    (course : Course provider plan (.initial plan cancelled start) changes final)
    (finished : final.finished = true) :
    Judged plan cancelled (moments changes) final (final.verdict provider plan).1 := by
  have attempts : plan.maxAttempts = plan.topology.maxStartupRetries.toNat + 1 :=
    plan.maxAttempts_exact_iff.mpr countable
  have some : 0 < plan.maxAttempts := attempts ▸ Nat.succ_pos _
  have sound := course.sound
  have tallied := course.tallied feasible
  have blamed := course.blamed
  have begun := tallied.begun_of_finished feasible sound some finished
  obtain ⟨report, groups, cases⟩ := State.verdict_reports provider plan final
  have launched : ∀ outcome ∈ final.outcomes, 0 < outcome.attempts := by
    intro outcome member
    obtain ⟨progress, among, rfl⟩ := List.mem_map.mp member
    exact tallied.launched begun progress among
  have exhausted (goingOn : final.stop = none) : ∀ outcome ∈ final.outcomes,
      outcome.succeeded < outcome.required →
      outcome.attempts = plan.topology.maxStartupRetries.toNat + 1 := by
    intro outcome member short
    obtain ⟨progress, among, rfl⟩ := List.mem_map.mp member
    exact (tallied.attempts_of_short feasible sound some finished goingOn among short).trans attempts
  generalize (final.verdict provider plan).1 = answer at cases ⊢
  rcases cases with ⟨succeeded, cluster, rfl⟩ | ⟨failed, rfl⟩
  · have enough : ¬ ∃ outcome ∈ final.outcomes, outcome.succeeded < outcome.required := by
      rintro ⟨outcome, member, short⟩
      exact Nat.not_le_of_lt short (succeeded.2 outcome member)
    exact {
      declared := sound.declared
      reported := ⟨report, rfl, groups⟩
      launched
      success := ⟨fun _ => succeeded, fun _ => ⟨_, rfl⟩⟩
      shortage := ⟨nofun, fun short => (enough short.2).elim⟩
      exhausted := nofun
      cancelled := nofun
      timeout := nofun }
  · have short (goingOn : final.stop = none) :
        ∃ outcome ∈ final.outcomes, outcome.succeeded < outcome.required := by
      by_contra none
      simp only [not_exists, not_and, Nat.not_lt] at none
      exact failed ⟨goingOn, none⟩
    exact {
      declared := sound.declared
      reported := ⟨report, State.failure_report? _ _, groups⟩
      launched
      success := ⟨nofun, fun succeeded => (failed succeeded).elim⟩
      shortage := State.failure_partial.trans ⟨fun goingOn => ⟨goingOn, short goingOn⟩, And.left⟩
      exhausted := fun fails => exhausted (State.failure_partial.mp fails)
      cancelled := fun fails => blamed.cancelled (State.failure_cancelled.mp fails)
      timeout := fun fails => blamed.timeout (State.failure_timeout.mp fails) }

def Answer.isShortage : Answer → Bool
  | .error (.partialFailure .bootstrap _) => true
  | _ => false

theorem Answer.shortage_of_isShortage {answer : Answer} (short : answer.isShortage = true) :
    ∃ report, answer = .error (.partialFailure .bootstrap report) := by
  unfold isShortage at short
  split at short
  · exact ⟨_, rfl⟩
  · cases short

end Muster.Launch
