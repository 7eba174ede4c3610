import Muster.Proofs.Launch.Accounts
import Muster.Proofs.Launch.Counting
import Muster.Proofs.Launch.Retry

/-!
How far the counts of a launch go. Attempts, machines and slots are counted in 32 bits, and there is
a limit to the permits that can be handed out. Validation sets no upper bound to what a topology asks
for, so that whether its launches stay within those widths is a matter of its numbers: of the machines
of all groups, of those of one group in all of its attempts, of the retries and of the permits. Each
of these counts is reached, so that the widths are kept by every launch exactly if the numbers are
small enough. A call with such numbers has an answer.
-/

namespace Muster

def Topology.machines (topology : Topology) : Nat :=
  (topology.groups.map fun group => group.target.toNat).sum

-- The total is what is left of the machines in 32 bits.
theorem Topology.toNat_totalTarget (topology : Topology) :
    topology.totalTarget.toNat = topology.machines % 2 ^ 32 := by
  have summed (groups : List InstanceGroup) (total : UInt32) :
      (groups.foldl (fun total group => total + group.target) total).toNat =
        (total.toNat + (groups.map fun group => group.target.toNat).sum) % 2 ^ 32 := by
    induction groups generalizing total with
    | nil => exact (Nat.mod_eq_of_lt total.toNat_lt).symm
    | cons group rest ih =>
        rw [List.foldl_cons, ih, UInt32.toNat_add, List.map_cons, List.sum_cons, Nat.mod_add_mod,
          Nat.add_assoc]
  simpa [totalTarget, machines] using summed topology.groups 0

theorem Topology.totalTarget_exact_iff (topology : Topology) :
    topology.totalTarget.toNat = topology.machines ↔ topology.machines < 2 ^ 32 := by
  rw [topology.toNat_totalTarget]
  exact Nat.mod_eq_iff_lt (by decide)

namespace Launch

variable {σ : Type}

/-! ### What a group is given -/

namespace GroupProgress

/-- How much a group has been given: in no attempt more than all of its machines, and in none
less than it is short of now. A group that requires nothing is launched once. -/
structure Limited (progress : GroupProgress) : Prop where
  once : progress.outcome.required = 0 → progress.outcome.attempts ≤ 1
  most : progress.outcome.attempted ≤ progress.outcome.attempts * progress.outcome.target
  least : progress.outcome.attempts * progress.outcome.shortfall ≤ progress.outcome.attempted

theorem limited_new (group : InstanceGroup) : (new group).Limited :=
  ⟨fun _ => Nat.zero_le _, Nat.zero_le _, by simp [new, GroupOutcome.new]⟩

theorem wanted_le (progress : GroupProgress) : progress.wanted ≤ progress.outcome.target := by
  unfold wanted
  split
  · exact Nat.sub_le _ _
  · exact Nat.zero_le _

theorem wanted_new {group : InstanceGroup} (feasible : group.Feasible) :
    (new group).wanted = group.target.toNat :=
  if_pos (isDue_new feasible)

theorem Limited.launch {progress : GroupProgress} (limited : progress.Limited) : progress.launch.Limited := by
  by_cases due : progress.isDue = true
  · have short : progress.outcome.shortfall ≤ progress.outcome.target := Nat.sub_le _ _
    unfold GroupProgress.launch
    rw [if_pos due]
    constructor
    case once =>
      intro nothing
      -- nothing is required, so that only the first attempt makes the group due
      have fresh : progress.outcome.attempts = 0 := by
        simpa [isDue, GroupOutcome.isSuccess, show progress.outcome.required = 0 from nothing] using
          (Bool.and_eq_true_iff.mp due).2
      exact Nat.succ_le_succ (Nat.le_of_eq fresh)
    case most =>
      dsimp only
      rw [Nat.succ_mul]
      exact Nat.add_le_add limited.most short
    case least =>
      change (progress.outcome.attempts + 1) * progress.outcome.shortfall ≤ _
      rw [Nat.succ_mul]
      exact Nat.add_le_add_right limited.least _
  · rw [GroupProgress.launch, if_neg due]
    exact limited

theorem Limited.receive {progress : GroupProgress} (limited : progress.Limited) (result : SlotResult) :
    (progress.receive result).Limited := by
  cases result with
  | healthy machine =>
      refine ⟨limited.once, limited.most, (Nat.mul_le_mul_left _ ?_).trans limited.least⟩
      exact Nat.sub_le_sub_left (Nat.le_succ _) _
  | failed cause destroyed orphaned => exact ⟨limited.once, limited.most, limited.least⟩

end GroupProgress

theorem Course.limited {provider : Provider σ} {plan : Plan} {cancelled : Bool} {start : σ}
    {changes : List (Change σ)} {state : State σ}
    (course : Course provider plan (.initial plan cancelled start) changes state) :
    ∀ progress ∈ state.groups, progress.Limited := by
  refine course.keeps_sound (fun _ state => ∀ progress ∈ state.groups, progress.Limited) ?_ ?_
  · intro _ before event after _ limited happens
    cases happens with
    | crashes => exact limited
    | steps happens =>
        cases State.step_sound provider plan _ _ _ happens with
        | moves => rw [State.moved_groups]; exact limited
        | isCancelled | notices | runsOut | finishes => exact limited
        | receives inbox =>
            intro progress member
            rw [State.receive_groups] at member
            rcases State.mem_modify member with old | ⟨old, among, rfl⟩
            · exact limited progress old
            · exact (limited old among).receive _
        | begins =>
            intro progress member
            obtain ⟨old, among, rfl⟩ := List.mem_map.mp member
            exact (limited old among).launch
  · intro progress member
    obtain ⟨group, _, rfl⟩ := List.mem_map.mp member
    exact GroupProgress.limited_new group

/-! ### What is outstanding -/

-- The groups of a launch want no more machines than the topology asks for.
theorem State.Sound.sum_targets {plan : Plan} {state : State σ} (sound : state.Sound plan) :
    (state.groups.map fun progress => progress.outcome.target).sum = plan.topology.machines := by
  refine congrArg List.sum (sound.map_groups ?_)
  intro index group progress declared present
  exact (sound.groups index group progress declared present).target

theorem Course.outstanding_le {provider : Provider σ} {plan : Plan} {cancelled : Bool} {start : σ}
    {changes : List (Change σ)} {state : State σ}
    (course : Course provider plan (.initial plan cancelled start) changes state) :
    outstanding changes ≤ plan.topology.machines := by
  rw [course.outstanding_eq, ← state.unheard_all]
  refine course.keeps_sound
    (fun _ state => (state.unheard fun _ => true) ≤ plan.topology.machines) ?_ (Nat.zero_le _)
  intro _ before event after sound within happens
  cases happens with
  | crashes found => rwa [State.unheard_moved sound (State.mem_of_slot? found)]
  | steps happens =>
      cases State.step_sound provider plan _ _ _ happens with
      | moves found => rwa [State.unheard_moved sound (State.mem_of_slot? found)]
      | isCancelled | notices | runsOut | finishes => exact within
      | receives inbox =>
          have read := State.unheard_receive inbox fun _ => true
          exact (Nat.le_of_add_right_le (Nat.le_of_eq read)).trans within
      | begins settled =>
          obtain ⟨_, inbox⟩ := before.isPending_eq_false.mp settled
          have heard : (before.beginAttempt plan).inbox = [] := inbox
          rw [State.unheard_all, heard, List.length_nil, Nat.add_zero, ← sound.sum_targets]
          change (before.dueSlots plan).length ≤ _
          rw [before.length_dueSlots plan]
          exact List.sum_le_sum fun progress _ => progress.wanted_le

/-! ### A launch that gets nothing -/

def refusing : Provider Unit where
  beginCreate _ _ := (.working 0, ())
  finishCreate _ _ := (some (.error (.failed "refused")), ())
  dropCreate _ _ := ()
  readyMillis _ _ := 0
  checkReady _ _ := (.ok (), ())
  destroy _ _ := (.ok (), ())
  resolveHosts _ _ := (.ok .unknown, ())
  runScript _ _ _ := (.ok (), ())
  authorize _ _ := (.ok (), ())

theorem handed_refusing (trace : List (Moment Unit)) : handed refusing trace = [] := by
  refine List.flatMap_eq_nil_iff.mpr ?_
  rintro ⟨before, event⟩ _
  cases event with
  | created number =>
      simp only [handedAt]
      split <;> rfl
  | _ => rfl

theorem Run.succeeded_refusing {plan : Plan} {cancelled : Bool} {trace : List (Moment Unit)}
    {state : State Unit} (run : Run refusing plan (.initial plan cancelled ()) trace state) :
    ∀ progress ∈ state.groups, progress.outcome.succeeded = 0 := by
  have held := run.held_perm
  rw [handed_refusing] at held
  have none : state.healthy = [] := by
    have parts := held.eq_nil
    simp only [State.held, List.append_eq_nil_iff, List.map_eq_nil_iff] at parts
    exact parts.1.1.2
  intro progress member
  obtain ⟨index, present⟩ := List.mem_iff_getElem?.mp member
  rw [(run.course.counted.groups index progress present).healthy,
    List.flatMap_eq_nil_iff.mp none progress member, List.length_nil]

-- A launch without a deadline is one of those in which the deadline does not come.
theorem Run.of_no_deadline {provider : Provider σ} {plan : Plan} {before after : State σ}
    {trace : List (Moment σ)} (run : Run provider { plan with deadline := none } before trace after) :
    Run provider plan before trace after := by
  induction run with
  | refl state => exact .refl state
  | @next _ _ _ event _ happens _ ih =>
      refine .next ?_ ih
      cases event with
      | deadline => simp [State.step] at happens
      | _ => exact happens

/-- A launch that is refused every machine goes through all of its attempts, and asks in each of
them for all machines of every group that requires some. -/
theorem exists_refused (topology : Topology) (bootstrap : RoleSet → Script) (options : LaunchOptions)
    (feasible : topology.Feasible) (positive : 0 < (plan topology bootstrap options).maxAttempts) :
    ∃ (changes : List (Change Unit)) (final : State Unit),
      Course refusing (plan topology bootstrap options)
        (.initial (plan topology bootstrap options) false ()) changes final ∧
      ∀ group ∈ topology.groups, 0 < group.required.toNat → ∃ progress ∈ final.groups,
        progress.outcome.attempted =
          (plan topology bootstrap options).maxAttempts * group.target.toNat := by
  let patient : LaunchOptions := { options with cancelAt := none, deadline := none }
  obtain ⟨trace, final, _, completes, _, _, timely⟩ :=
    run_completes refusing topology bootstrap patient 0 ()
  have run : Run refusing (plan topology bootstrap patient)
    (.initial (plan topology bootstrap patient) false ()) trace final := completes.run
  have blamed := run.course.blamed
  rw [moments_of_run] at blamed
  -- nobody tells the launch to end
  have goingOn : final.stop = none := by
    cases stopped : final.stop with
    | none => rfl
    | some reason =>
        cases reason with
        | cancelled =>
            obtain told | ⟨moment, member, cancel⟩ := blamed.cancelled stopped
            · cases told
            · obtain ⟨_, given, _⟩ := (timely moment member).1 cancel
              cases given
        | timeout => cases (blamed.timeout stopped).1
  refine ⟨_, final, (Run.of_no_deadline run).course, fun group declared requires => ?_⟩
  obtain ⟨progress, of, member⟩ := run.sound.progress_of declared
  have nothing := run.succeeded_refusing progress member
  have short : progress.outcome.succeeded < progress.outcome.required := by
    rw [nothing, of.required]
    exact requires
  have tallied : final.Tallied (plan topology bootstrap patient) := run.course.tallied feasible
  have attempts := tallied.attempts_of_short feasible run.sound positive completes.finished goingOn member short
  have limited := run.course.limited progress member
  have least := limited.least
  rw [GroupOutcome.shortfall, nothing, Nat.sub_zero] at least
  refine ⟨progress, member, ?_⟩
  rw [Nat.le_antisymm limited.most least, attempts, of.target]
  rfl

/-- The first attempt asks for all machines of the topology. -/
theorem exists_outstanding (topology : Topology) (bootstrap : RoleSet → Script) (options : LaunchOptions)
    (feasible : topology.Feasible) (positive : 0 < (plan topology bootstrap options).maxAttempts) :
    ∃ (changes : List (Change Unit)) (state : State Unit),
      Course refusing (plan topology bootstrap options)
        (.initial (plan topology bootstrap options) false ()) changes state ∧
      outstanding changes = topology.machines := by
  let plan := plan topology bootstrap options
  let first : State Unit := .initial plan false ()
  have due : first.groups.any GroupProgress.isDue = true := by
    obtain ⟨group, declared⟩ := List.exists_mem_of_ne_nil _ feasible.some
    exact List.any_eq_true.mpr ⟨.new group, List.mem_map_of_mem declared,
      GroupProgress.isDue_new (feasible.groups group declared)⟩
  have happens : first.step refusing plan .proceed = some (first.beginAttempt plan) := by
    have more : plan.maxAttempts ≠ 0 := Nat.ne_of_gt positive
    have proceeds : first.proceed plan = first.beginAttempt plan := by
      simp only [State.proceed]
      exact if_neg (by simpa [more, first, State.initial] using due)
    rw [← proceeds]
    rfl
  refine ⟨_, _, .next (.steps happens) (.refl _), ?_⟩
  calc outstanding [⟨first, some .proceed, first.beginAttempt plan⟩]
      = (first.dueSlots plan).length := by
        simp [outstanding, Change.launched, Change.heard, State.beginAttempt]
    _ = (first.groups.map GroupProgress.wanted).sum := first.length_dueSlots plan
    _ = topology.machines := by
        refine congrArg List.sum ((List.map_map ..).trans (List.map_congr_left ?_))
        exact fun group declared => GroupProgress.wanted_new (feasible.groups group declared)

/-! ### The widths -/

structure KeepsWidths (topology : Topology) (bootstrap : RoleSet → Script) (options : LaunchOptions) :
    Prop where
  attempts : (plan topology bootstrap options).maxAttempts = topology.maxStartupRetries.toNat + 1
  attempted : ∀ (σ : Type) (provider : Provider σ) (cancelled : Bool) (start : σ)
    (changes : List (Change σ)) (state : State σ), Course provider (plan topology bootstrap options)
      (.initial (plan topology bootstrap options) cancelled start) changes state →
    ∀ progress ∈ state.groups, progress.outcome.attempted < 2 ^ 32
  outstanding : ∀ (σ : Type) (provider : Provider σ) (cancelled : Bool) (start : σ)
    (changes : List (Change σ)) (state : State σ), Course provider (plan topology bootstrap options)
      (.initial (plan topology bootstrap options) cancelled start) changes state →
    outstanding changes < 2 ^ 32
  total : topology.totalTarget.toNat = topology.machines
  permits : (plan topology bootstrap options).permits ≤ maxPermits

/-- The numbers of a topology are small enough. Only a group that requires some machine can be launched
in more than one attempt. -/
structure Modest (topology : Topology) (options : LaunchOptions) : Prop where
  retries : topology.maxStartupRetries.toNat + 1 < 2 ^ 32
  machines : topology.machines < 2 ^ 32
  groups : ∀ group ∈ topology.groups, 0 < group.required.toNat →
    (topology.maxStartupRetries.toNat + 1) * group.target.toNat < 2 ^ 32
  limit : options.maxConcurrent.getD topology.maxConcurrentLaunches.toNat ≤ maxPermits

instance (topology : Topology) (options : LaunchOptions) : Decidable (Modest topology options) :=
  decidable_of_iff
    (topology.maxStartupRetries.toNat + 1 < 2 ^ 32 ∧ topology.machines < 2 ^ 32 ∧
      (∀ group ∈ topology.groups, 0 < group.required.toNat →
        (topology.maxStartupRetries.toNat + 1) * group.target.toNat < 2 ^ 32) ∧
      options.maxConcurrent.getD topology.maxConcurrentLaunches.toNat ≤ maxPermits)
    ⟨fun ⟨retries, machines, groups, limit⟩ => ⟨retries, machines, groups, limit⟩,
      fun modest => ⟨modest.retries, modest.machines, modest.groups, modest.limit⟩⟩

theorem Course.attempted_lt {provider : Provider σ} {topology : Topology} {bootstrap : RoleSet → Script}
    {options : LaunchOptions} {cancelled : Bool} {start : σ} {changes : List (Change σ)} {state : State σ}
    (modest : Modest topology options)
    (course : Course provider (plan topology bootstrap options)
      (.initial (plan topology bootstrap options) cancelled start) changes state)
    {progress : GroupProgress} (member : progress ∈ state.groups) :
    progress.outcome.attempted < 2 ^ 32 := by
  obtain ⟨group, of, declared⟩ := course.sound.group_of member
  obtain ⟨index, present⟩ := List.mem_iff_getElem?.mp member
  have limited := course.limited progress member
  rcases Nat.eq_zero_or_pos progress.outcome.required with nothing | requires
  · calc progress.outcome.attempted
        ≤ progress.outcome.attempts * progress.outcome.target := limited.most
      _ ≤ 1 * progress.outcome.target := Nat.mul_le_mul_right _ (limited.once nothing)
      _ = group.target.toNat := by rw [Nat.one_mul, of.target]
      _ < 2 ^ 32 := group.target.toNat_lt
  · have counted := course.counted
    have within : progress.outcome.attempts ≤ topology.maxStartupRetries.toNat + 1 :=
      ((counted.groups index progress present).counted.trans counted.within).trans
        (plan topology bootstrap options).maxAttempts_le
    calc progress.outcome.attempted
        ≤ progress.outcome.attempts * progress.outcome.target := limited.most
      _ ≤ (topology.maxStartupRetries.toNat + 1) * progress.outcome.target :=
        Nat.mul_le_mul_right _ within
      _ = (topology.maxStartupRetries.toNat + 1) * group.target.toNat := by rw [of.target]
      _ < 2 ^ 32 := modest.groups group declared (of.required ▸ requires)

theorem Modest.keepsWidths {topology : Topology} {options : LaunchOptions} (modest : Modest topology options)
    (bootstrap : RoleSet → Script) : KeepsWidths topology bootstrap options where
  attempts := (plan topology bootstrap options).maxAttempts_exact_iff.mpr modest.retries
  attempted := fun _ _ _ _ _ _ course _ member => course.attempted_lt modest member
  outstanding := fun _ _ _ _ _ _ course => course.outstanding_le.trans_lt modest.machines
  total := topology.totalTarget_exact_iff.mpr modest.machines
  permits := Nat.max_le.mpr ⟨modest.limit, by decide⟩

theorem KeepsWidths.modest {topology : Topology} {bootstrap : RoleSet → Script} {options : LaunchOptions}
    (feasible : topology.Feasible) (keeps : KeepsWidths topology bootstrap options) :
    Modest topology options where
  retries := (plan topology bootstrap options).maxAttempts_exact_iff.mp keeps.attempts
  machines := topology.totalTarget_exact_iff.mp keeps.total
  groups := by
    intro group declared requires
    have positive : 0 < (plan topology bootstrap options).maxAttempts := keeps.attempts ▸ Nat.succ_pos _
    obtain ⟨changes, final, course, refused⟩ := exists_refused topology bootstrap options feasible positive
    obtain ⟨progress, member, attempted⟩ := refused group declared requires
    have bounded := keeps.attempted Unit refusing false () changes final course progress member
    rwa [attempted, keeps.attempts] at bounded
  limit := (Nat.le_max_left _ 1).trans keeps.permits

/-- The counts of a launch of a valid topology stay within their widths, whatever happens in it,
exactly if the numbers of the topology are small enough. Validation does not see to that. -/
theorem keepsWidths_iff_modest (topology : Topology) (bootstrap : RoleSet → Script) (options : LaunchOptions)
    (valid : topology.validate = .ok ()) :
    KeepsWidths topology bootstrap options ↔ Modest topology options :=
  ⟨fun keeps => keeps.modest (Topology.feasible_of_validate valid), fun modest => modest.keepsWidths bootstrap⟩

/-- Of these numbers none could be larger by one. -/
theorem keepsWidths_of_two :
    let worker : RoleSet := .ofList ["worker"]
    let spare : RoleSet := .ofList ["spare"]
    let topology := plainTopology [⟨worker, 3, 50, 1⟩, ⟨spare, 4294967292, 0, 0⟩] 1431655764
    let options : LaunchOptions := { LaunchOptions.none with maxConcurrent := some 2305843009213693951 }
    topology.validate = .ok () ∧ KeepsWidths topology (fun _ => ⟨[], []⟩) options := by
  intro worker spare topology options
  have valid : topology.validate = .ok () := by decide +kernel
  have modest : Modest topology options := by decide +kernel
  exact ⟨valid, (keepsWidths_iff_modest topology _ options valid).mpr modest⟩

/-- Validation accepts topologies that keep none of the widths. -/
theorem valid_beyond_widths :
    let groups : List InstanceGroup :=
      [.new (.ofList ["worker"]) 4294967295, .new (.ofList ["zookeeper"]) 1]
    let topology :=
      { plainTopology groups 1 with maxConcurrentLaunches := 18446744073709551615 }
    let endless := { topology with maxStartupRetries := 4294967295 }
    let bootstrap : RoleSet → Script := fun _ => ⟨[], []⟩
    let plan := plan topology bootstrap .none
    topology.validate = .ok () ∧ endless.validate = .ok () ∧
    (Launch.plan endless bootstrap .none).maxAttempts = 0 ∧
    (∃ changes state, Course refusing plan (.initial plan false ()) changes state ∧
      ∃ progress ∈ state.groups, progress.outcome.attempted = 2 * 4294967295) ∧
    (∃ changes state, Course refusing plan (.initial plan false ()) changes state ∧
      outstanding changes = 2 ^ 32) ∧
    topology.totalTarget = 0 ∧ maxPermits < plan.permits := by
  intro groups topology endless bootstrap plan
  have valid : topology.validate = .ok () := by decide +kernel
  have feasible := Topology.feasible_of_validate valid
  have positive : 0 < plan.maxAttempts := by decide +kernel
  refine ⟨valid, by decide +kernel, by decide +kernel, ?_, ?_, by decide +kernel, by decide +kernel⟩
  · obtain ⟨changes, final, course, refused⟩ := exists_refused topology bootstrap .none feasible positive
    obtain ⟨progress, member, attempted⟩ := refused _ List.mem_cons_self (by decide +kernel)
    exact ⟨changes, final, course, progress, member, attempted.trans (by decide +kernel)⟩
  · obtain ⟨changes, state, course, all⟩ := exists_outstanding topology bootstrap .none feasible positive
    exact ⟨changes, state, course, all.trans (by decide +kernel)⟩

/-! ### What a call answers -/

/-- A valid topology is launched as its groups require, whatever its provider answers and whichever of
its requests crashes. The first attempt gives every group its machines; later ones give the groups
that are below their threshold what they are short of, and leave the others and every healthy
machine alone. The launch succeeds just when nothing stopped it and no group is short; it fails
for want of machines just when nothing stopped it and some group is short, after every attempt
that the topology allows. That it was cancelled or out of time is answered only if it was. A call
that can begin has such an answer if its numbers are small enough, and its counts are exact then. -/
theorem retries_until_enough (provider : Provider σ) (topology : Topology) (bootstrap : RoleSet → Script)
    (options : LaunchOptions) (now : Nat) (start : σ) (valid : topology.validate = .ok ())
    (countable : topology.maxStartupRetries.toNat + 1 < 2 ^ 32) :
    let plan := Launch.plan topology bootstrap options
    (∀ (cancelled : Bool) changes before after,
      Course provider plan (.initial plan cancelled start) changes before →
      before.step provider plan .proceed = some after → after.finished = false →
      ∀ (index : Nat) group progress, topology.groups[index]? = some group →
        before.groups[index]? = some progress → Relaunches before after index group progress) ∧
    (∀ (cancelled : Bool) first before second after,
      Course provider plan (.initial plan cancelled start) first before →
      Course provider plan before second after → before.Keeps after) ∧
    (∀ (cancelled : Bool) changes final,
      Course provider plan (.initial plan cancelled start) changes final → final.finished = true →
      Judged plan cancelled (moments changes) final (final.verdict provider plan).1) ∧
    (Modest topology options → canBegin topology options now = true → ∃ answer ended after trace final,
      call? provider topology bootstrap options now start = some (answer, ended, after) ∧
      Completes provider plan (options.cancelAt.any (· ≤ now)) start trace final ∧
      Judged plan (options.cancelAt.any (· ≤ now)) trace final answer ∧
      (∀ outcome ∈ final.outcomes, outcome.attempted < 2 ^ 32) ∧
      ((∃ report, answer = .error (.cancelled .bootstrap report)) →
        ∃ time, options.cancelAt = some time ∧ time ≤ ended) ∧
      ((∃ report, answer = .error (.timeout .bootstrap report)) →
        ∃ millis, options.deadline = some millis ∧ now + millis ≤ ended)) := by
  intro plan
  have feasible : plan.topology.Feasible := Topology.feasible_of_validate valid
  refine ⟨?_, ?_, ?_, ?_⟩
  · intro cancelled changes before after course happens goesOn index group progress declared present
    exact State.relaunches feasible course.sound (course.tallied feasible) happens goesOn declared present
  · intro _ _ _ _ _ _ course
    exact course.keeps_healthy
  · intro _ _ _ course finished
    exact course.judged feasible countable finished
  · intro modest begins
    obtain ⟨trace, final, ended, completes, answers, later, timely⟩ :=
      run_completes provider topology bootstrap options now start
    have judged := completes.run.course.judged feasible countable completes.finished
    rw [moments_of_run] at judged
    refine ⟨_, ended, _, trace, final, (if_pos begins).trans (congrArg some answers), completes, judged,
      fun outcome member => ?_, fun stopped => ?_, fun stopped => ?_⟩
    · obtain ⟨progress, among, rfl⟩ := List.mem_map.mp member
      exact completes.run.course.attempted_lt modest among
    · rcases judged.cancelled stopped with atFirst | ⟨moment, member, event⟩
      · obtain ⟨time, set, past⟩ : ∃ time, options.cancelAt = some time ∧ time ≤ now := by
          simpa [Option.any_eq_true] using atFirst
        exact ⟨time, set, Nat.le_trans past later⟩
      · exact (timely moment member).1 event
    · obtain ⟨_, moment, member, event⟩ := judged.timeout stopped
      exact (timely moment member).2 event

/-- A group that never gets a machine is launched three times and given up. -/
theorem retries_until_enough_of_none :
    let topology := plainTopology [⟨.ofList ["worker"], 3, 50, 1⟩] 2
    let plan := plan topology (fun _ => ⟨[], []⟩) .none
    let start := Simulation.new.setDue (.ofList ["worker"]) ⟨0, true, 0⟩
    topology.validate = .ok () ∧ topology.maxStartupRetries.toNat + 1 < 2 ^ 32 ∧
    Modest topology .none ∧ canBegin topology .none 0 = true ∧
    ∃ (answer : Answer) (ended : Nat) (after : Simulation) (trace : List (Moment Simulation))
      (final : State Simulation),
      call? Simulation.provider topology (fun _ => ⟨[], []⟩) .none 0 start = some (answer, ended, after) ∧
      Judged plan false trace final answer ∧ (∃ report, answer = .error (.partialFailure .bootstrap report)) ∧
      ∃ outcome ∈ final.outcomes, outcome.succeeded < outcome.required ∧ outcome.attempts = 3 := by
  intro topology plan start
  have valid : topology.validate = .ok () := by decide +kernel
  have countable : topology.maxStartupRetries.toNat + 1 < 2 ^ 32 := by decide
  have modest : Modest topology .none := by decide +kernel
  have begins : canBegin topology .none 0 = true := by decide +kernel
  have short : (call? Simulation.provider topology (fun _ => ⟨[], []⟩) .none 0 start).map
      (fun called => Answer.isShortage called.1) = some true := by decide +kernel
  obtain ⟨answer, ended, after, trace, final, called, _, judged, _⟩ := (retries_until_enough
    Simulation.provider topology (fun _ => ⟨[], []⟩) .none 0 start valid countable).2.2.2 modest begins
  rw [called, Option.map_some, Option.some.injEq] at short
  have fails := Answer.shortage_of_isShortage short
  obtain ⟨_, outcome, member, below⟩ := judged.shortage.mp fails
  exact ⟨valid, countable, modest, begins, answer, ended, after, trace, final, called, judged, fails, outcome,
    member, below, judged.exhausted fails outcome member below⟩

/-- A topology that validation accepts is not launched at all with one permit more than there can be. -/
theorem launches_nothing_beyond_permits :
    let topology := plainTopology [⟨.ofList ["worker"], 1, 100, 1⟩] 0
    let options : LaunchOptions := { LaunchOptions.none with maxConcurrent := some 2305843009213693952 }
    topology.validate = .ok () ∧ topology.maxStartupRetries.toNat + 1 < 2 ^ 32 ∧
    concurrency topology options = maxPermits + 1 ∧
    call? Simulation.provider topology (fun _ => ⟨[], []⟩) options 0 .new = none := by
  intro topology options
  exact ⟨by decide +kernel, by decide, by decide, rfl⟩

end Launch

end Muster
