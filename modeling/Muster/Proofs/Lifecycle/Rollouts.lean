import Mathlib.Algebra.Order.BigOperators.Group.List
import Muster.Proofs.Firewall
import Muster.Proofs.Lifecycle.Deeds
import Muster.Proofs.StatementQueue

/-!
Rolling out statements in any order. However the steps of different machines are mixed and
whatever the provider answers, no more machines are worked on at a time than may be, there
is always a next step until nothing is left, and then the script of every machine that has
something to run has been run on it once. Working on one machine after the other is one of
these orders.
-/

namespace Muster

variable {σ : Type}

/-! ### What there is to run -/

namespace RolloutPlan

variable (plan : RolloutPlan)

/-- The machines that have something to run. -/
def due (machines : List Instance) : List Instance :=
  machines.filter fun machine => !(plan.queue.forRoles machine.roles).isEmpty

theorem due_cons (machine : Instance) (rest : List Instance) : plan.due (machine :: rest) =
    if (plan.queue.forRoles machine.roles).isEmpty then plan.due rest else machine :: plan.due rest := by
  rw [due, List.filter_cons]
  cases (plan.queue.forRoles machine.roles).isEmpty <;> rfl

def ScriptFor (provider : Provider σ) (machine : Instance) (script : Script) : Prop :=
  ∃ state, script =
    ⟨(provider.environment plan.topology machine plan.queue state).1, plan.queue.forRoles machine.roles⟩

end RolloutPlan

structure RolloutCall.Made (provider : Provider σ) (plan : RolloutPlan) (call : RolloutCall) : Prop where
  script : plan.ScriptFor provider call.machine call.script
  answer : ∃ state, (provider.runScript call.machine.node call.script state).1 =
    match call.failure with
    | none => .ok ()
    | some error => .error error

def RolloutTask.left (task : RolloutTask) : Nat := if task.script.isNone then 2 else 1

theorem RolloutTask.one_le_left (task : RolloutTask) : 1 ≤ task.left := by
  unfold left
  split <;> decide

namespace Rollout

section

variable (provider : Provider σ) (plan : RolloutPlan)

def follow : List RolloutEvent → Rollout σ → Option (Rollout σ)
  | [], rollout => some rollout
  | event :: rest, rollout => (rollout.step provider plan event).bind (follow rest)

structure Sound (cluster : Cluster) (rollout : Rollout σ) : Prop where
  shared : (plan.due rollout.waiting ++ (rollout.atWork.map RolloutTask.machine ++
    rollout.calls.map RolloutCall.machine)).Perm (plan.due cluster.instances)
  bounded : rollout.atWork.length ≤ plan.limit
  bodies : ∀ task ∈ rollout.atWork, task.body = plan.queue.forRoles task.machine.roles
  scripts : ∀ task ∈ rollout.atWork, ∀ script, task.script = some script →
    plan.ScriptFor provider task.machine script
  made : ∀ call ∈ rollout.calls, call.Made provider plan

end

def Ended (rollout : Rollout σ) : Prop := rollout.waiting = [] ∧ rollout.atWork = []

def left (rollout : Rollout σ) : Nat := 3 * rollout.waiting.length + (rollout.atWork.map RolloutTask.left).sum

variable {provider : Provider σ} {plan : RolloutPlan} {cluster : Cluster} {state : σ}
  {rollout next : Rollout σ}

theorem sound_initial : Sound provider plan cluster (initial cluster state) where
  shared := by simp [initial]
  bounded := Nat.zero_le _
  bodies := nofun
  scripts := nofun
  made := nofun

theorem task?_mem {id : String} {task : RolloutTask} (found : rollout.task? id = some task) :
    task ∈ rollout.atWork ∧ task.machine.id = id :=
  ⟨List.mem_of_find?_eq_some found, by simpa using List.find?_some found⟩

namespace Sound

variable (sound : Sound provider plan cluster rollout)

include sound

theorem distinct : (rollout.atWork.map fun task => task.machine.id).Nodup := by
  have all : ((plan.due cluster.instances).map Instance.id).Nodup :=
    cluster.distinct.sublist (List.filter_sublist.map _)
  rw [← (sound.shared.map Instance.id).nodup_iff, List.map_append, List.map_append, List.map_map] at all
  exact (List.nodup_append.mp (List.nodup_append.mp all).2.1).1

-- A machine is worked on once.
theorem unique {task other : RolloutTask} (member : task ∈ rollout.atWork) (among : other ∈ rollout.atWork)
    (same : other.machine.id = task.machine.id) : other = task :=
  List.inj_on_of_nodup_map sound.distinct among member same

theorem task_mem {task : RolloutTask} (member : task ∈ rollout.atWork) : task.machine ∈ cluster.instances := by
  have due : task.machine ∈ plan.due cluster.instances := by
    refine sound.shared.mem_iff.mp (List.mem_append_right _ (List.mem_append_left _ ?_))
    exact List.mem_map_of_mem member
  exact (List.mem_filter.mp due).1

theorem call_mem {call : RolloutCall} (member : call ∈ rollout.calls) : call.machine ∈ cluster.instances := by
  have due : call.machine ∈ plan.due cluster.instances := by
    refine sound.shared.mem_iff.mp (List.mem_append_right _ (List.mem_append_right _ ?_))
    exact List.mem_map_of_mem member
  exact (List.mem_filter.mp due).1

theorem others {task : RolloutTask} (member : task ∈ rollout.atWork) :
    rollout.atWork.Perm (task :: rollout.atWork.filter fun other => other.machine.id ≠ task.machine.id) := by
  have kept : (rollout.atWork.filter fun other => other.machine.id ≠ task.machine.id) = rollout.atWork.erase task := by
    rw [List.Nodup.erase_eq_filter (sound.distinct.of_map _)]
    apply List.filter_congr
    intro other among
    by_cases same : other = task
    · simp [same]
    · have different : other.machine.id ≠ task.machine.id := fun equal => same (sound.unique member among equal)
      simp [same, different]
  rw [kept]
  exact List.perm_cons_erase member

theorem passes {machine : Instance} {rest : List Instance} (waits : rollout.waiting = machine :: rest)
    (idle : (plan.queue.forRoles machine.roles).isEmpty = true) :
    Sound provider plan cluster { rollout with waiting := rest } where
  shared := by
    have shared := sound.shared
    rwa [waits, plan.due_cons, if_pos idle] at shared
  bounded := sound.bounded
  bodies := sound.bodies
  scripts := sound.scripts
  made := sound.made

theorem begins {machine : Instance} {rest : List Instance} (waits : rollout.waiting = machine :: rest)
    (room : rollout.atWork.length < plan.limit) (busy : (plan.queue.forRoles machine.roles).isEmpty = false) :
    Sound provider plan cluster { rollout with
      waiting := rest
      atWork := rollout.atWork ++ [⟨machine, plan.queue.forRoles machine.roles, none⟩] } where
  shared := by
    have shared := sound.shared
    rw [waits, plan.due_cons, if_neg (by simp [busy])] at shared
    refine List.Perm.trans ?_ shared
    simp only [List.map_append, List.map_cons, List.map_nil, List.append_assoc, List.cons_append, List.nil_append]
    rw [← List.append_assoc, ← List.append_assoc]
    exact List.perm_middle
  bounded := by
    rw [List.length_append, List.length_singleton]
    exact room
  bodies := by
    intro task member
    rcases List.mem_append.mp member with old | new
    · exact sound.bodies task old
    · rw [List.mem_singleton.mp new]
  scripts := by
    intro task member script settled
    rcases List.mem_append.mp member with old | new
    · exact sound.scripts task old script settled
    · rw [List.mem_singleton.mp new] at settled
      cases settled
  made := sound.made

theorem settles {task : RolloutTask} (member : task ∈ rollout.atWork) :
    Sound provider plan cluster (rollout.settle provider plan task) where
  shared := by
    have machines : (rollout.settle provider plan task).atWork.map RolloutTask.machine =
        rollout.atWork.map RolloutTask.machine := by
      simp only [settle, List.map_map]
      apply List.map_congr_left
      intro other _
      simp only [Function.comp_apply]
      split <;> rfl
    rw [machines]
    exact sound.shared
  bounded := by
    simp only [settle, List.length_map]
    exact sound.bounded
  bodies := by
    intro after changed
    simp only [settle, List.mem_map] at changed
    obtain ⟨other, among, rfl⟩ := changed
    split <;> exact sound.bodies other among
  scripts := by
    intro after changed script settled
    simp only [settle, List.mem_map] at changed
    obtain ⟨other, among, rfl⟩ := changed
    split at settled
    · rename_i same
      obtain rfl := sound.unique member among same
      cases settled
      rw [if_pos rfl]
      exact ⟨rollout.provider, by rw [sound.bodies other among]⟩
    · rename_i different
      rw [if_neg different]
      exact sound.scripts other among script settled
  made := sound.made

theorem finishes {task : RolloutTask} {script : Script} (member : task ∈ rollout.atWork)
    (settled : task.script = some script) : Sound provider plan cluster (rollout.finish provider task script) where
  shared := by
    refine List.Perm.trans (List.Perm.append_left _ ?_) sound.shared
    simp only [finish, List.map_append, List.map_cons, List.map_nil]
    refine List.Perm.trans ?_ (((sound.others member).map RolloutTask.machine).append_right _).symm
    rw [← List.append_assoc, List.map_cons, List.cons_append]
    exact List.perm_append_singleton _ _
  bounded := Nat.le_trans (List.length_filter_le _ _) sound.bounded
  bodies := fun other among => sound.bodies other (List.mem_filter.mp among).1
  scripts := fun other among => sound.scripts other (List.mem_filter.mp among).1
  made := by
    intro call among
    rcases List.mem_append.mp among with old | new
    · exact sound.made call old
    · rw [List.mem_singleton.mp new]
      refine ⟨sound.scripts task member script settled, rollout.provider, ?_⟩
      cases (provider.runScript task.machine.node script rollout.provider).1 <;> rfl

theorem step {event : RolloutEvent} (taken : Taken provider plan rollout event next) :
    Sound provider plan cluster next := by
  cases taken with
  | passes waits room idle => exact sound.passes waits idle
  | begins waits room busy => exact sound.begins waits room busy
  | settles found unsettled => exact sound.settles (task?_mem found).1
  | finishes found settled => exact sound.finishes (task?_mem found).1 settled

-- Every step takes something off what is left.
theorem step_left {event : RolloutEvent} (taken : Taken provider plan rollout event next) :
    next.left < rollout.left := by
  cases taken with
  | passes waits room idle => simp [left, waits]
  | begins waits room busy =>
      simp [left, waits, RolloutTask.left]
      omega
  | @settles id task found unsettled =>
      simp only [left, settle, List.map_map, Nat.add_lt_add_iff_left]
      apply List.sum_lt_sum
      · intro other among
        simp only [Function.comp_apply]
        split
        · exact other.one_le_left
        · exact Nat.le_refl _
      · refine ⟨task, (task?_mem found).1, ?_⟩
        simp [RolloutTask.left, unsettled]
  | @finishes id task script found settled =>
      have rest := ((sound.others (task?_mem found).1).map RolloutTask.left).sum_eq
      rw [List.map_cons, List.sum_cons] at rest
      have some := task.one_le_left
      simp only [left, finish]
      omega

end Sound

-- As long as something is left there is a step that can be taken.
theorem goesOn (positive : 0 < plan.limit) (rollout : Rollout σ) :
    rollout.Ended ∨ ∃ event next, rollout.step provider plan event = some next := by
  cases working : rollout.atWork with
  | cons task rest =>
      right
      have member : task ∈ rollout.atWork := working ▸ List.mem_cons_self
      cases found : rollout.task? task.machine.id with
      | none => exact (by simpa using List.find?_eq_none.mp found task member : False).elim
      | some other =>
          cases settled : other.script with
          | none => exact ⟨_, _, (Taken.settles found settled).step⟩
          | some script => exact ⟨_, _, (Taken.finishes found settled).step⟩
  | nil =>
      cases waits : rollout.waiting with
      | nil => exact .inl ⟨waits, working⟩
      | cons machine rest =>
          right
          have room : rollout.atWork.length < plan.limit := by simpa [working] using positive
          cases idle : (plan.queue.forRoles machine.roles).isEmpty with
          | true => exact ⟨_, _, (Taken.passes waits room idle).step⟩
          | false => exact ⟨_, _, (Taken.begins waits room idle).step⟩

/-! ### Any number of steps -/

theorem follow_sound {events : List RolloutEvent} (follows : follow provider plan events rollout = some next)
    (sound : Sound provider plan cluster rollout) :
    Sound provider plan cluster next ∧ events.length + next.left ≤ rollout.left := by
  induction events generalizing rollout with
  | nil =>
      cases follows
      exact ⟨sound, by simp⟩
  | cons event rest ih =>
      obtain ⟨after, happens, later⟩ := Option.bind_eq_some_iff.mp follows
      have taken := taken_of_step happens
      obtain ⟨kept, fewer⟩ := ih later (sound.step taken)
      have less := sound.step_left taken
      rw [List.length_cons]
      exact ⟨kept, by omega⟩

theorem Sound.ended (sound : Sound provider plan cluster rollout) (ended : rollout.Ended) :
    (rollout.calls.map RolloutCall.machine).Perm (plan.due cluster.instances) := by
  have shared := sound.shared
  rw [ended.1, ended.2] at shared
  exact shared

-- Steps that cannot be taken are left out; those that are left lead to the same end.
theorem stepOrStay_follows (events : List RolloutEvent) (rollout : Rollout σ) :
    ∃ taken, follow provider plan taken rollout = some (events.foldl (stepOrStay provider plan) rollout) := by
  induction events generalizing rollout with
  | nil => exact ⟨[], rfl⟩
  | cons event rest ih =>
      obtain ⟨taken, follows⟩ := ih (stepOrStay provider plan rollout event)
      rw [List.foldl_cons]
      cases happens : rollout.step provider plan event with
      | none =>
          refine ⟨taken, ?_⟩
          rwa [stepOrStay, happens, Option.getD_none] at follows ⊢
      | some next =>
          refine ⟨event :: taken, ?_⟩
          rw [stepOrStay, happens, Option.getD_some] at follows ⊢
          rw [follow, happens, Option.bind_some, follows]

-- A machine that is alone has its turn, and is done with.
theorem turn_ends (provider : Provider σ) (positive : 0 < plan.limit) {machine : Instance} {rest : List Instance}
    (waits : rollout.waiting = machine :: rest) (none : rollout.atWork = []) :
    let after := [RolloutEvent.start, .settle machine.id, .finish machine.id].foldl
      (stepOrStay provider plan) rollout
    after.waiting = rest ∧ after.atWork = [] := by
  have room : rollout.atWork.length < plan.limit := by simpa [none] using positive
  intro after
  simp only [after, List.foldl_cons, List.foldl_nil]
  cases idle : (plan.queue.forRoles machine.roles).isEmpty with
  | true =>
      rw [stepOrStay, stepOrStay, stepOrStay, (Taken.passes waits room idle).step]
      simp [step, task?, none]
  | false =>
      rw [stepOrStay, stepOrStay, stepOrStay, (Taken.begins waits room idle).step]
      simp [step, task?, none, settle, finish]

theorem run_ended (positive : 0 < plan.limit) (cluster : Cluster) (state : σ) :
    (run provider plan cluster state).Ended := by
  have ends (machines : List Instance) (rollout : Rollout σ) (waits : rollout.waiting = machines)
      (none : rollout.atWork = []) : ((oneByOne machines).foldl (stepOrStay provider plan) rollout).Ended := by
    induction machines generalizing rollout with
    | nil => exact ⟨waits, none⟩
    | cons machine rest ih =>
        obtain ⟨later, free⟩ := turn_ends provider positive waits none
        rw [oneByOne, List.flatMap_cons, List.foldl_append]
        exact ih _ later free
  exact ends cluster.instances (initial cluster state) rfl rfl

/-! ### The statements of a phase -/

inductive Asks (provider : Provider σ) (before after : Rollout σ) : Prop where
  | nothing (provider : after.provider = before.provider) (calls : after.calls = before.calls)
  | hosts (machine : Instance) (asked : after.provider = (provider.hosts machine before.provider).2)
      (calls : after.calls = before.calls)
  | script (call : RolloutCall)
      (asked : after.provider = (provider.runScript call.machine.node call.script before.provider).2)
      (calls : after.calls = before.calls ++ [call])

theorem step_asks {event : RolloutEvent} (happens : rollout.step provider plan event = some next) :
    Asks provider rollout next := by
  cases taken_of_step happens with
  | passes | begins => exact .nothing rfl rfl
  | @settles _ task => exact .hosts task.machine rfl rfl
  | @finishes _ task script => exact .script ⟨task.machine, script, _⟩ rfl rfl

structure Judges (phase : Phase) (calls : List RolloutCall) (result : Except Error Unit) : Prop where
  succeeds : result = .ok () ↔ ∀ call ∈ calls, call.failure = none
  fails : ∀ error, result = .error error → ∃ call ∈ calls, ∃ cause, call.failure = some cause ∧
    error = .launch (.provider phase call.machine.roles cause.message)

def verdict (phase : Phase) (rollout : Rollout σ) : Except Error Unit :=
  match rollout.failure? with
  | none => .ok ()
  | some (machine, error) => .error (.launch (.provider phase machine.roles error.message))

theorem verdict_judges (phase : Phase) (rollout : Rollout σ) :
    Judges phase rollout.calls (rollout.verdict phase) := by
  simp only [verdict]
  split
  · rename_i none
    have all := failure?_eq_none.mp none
    simp only [Option.isNone_iff_eq_none] at all
    exact ⟨⟨fun _ => all, fun _ => rfl⟩, nofun⟩
  · rename_i machine cause some
    obtain ⟨call, member, failed⟩ := List.exists_of_findSome?_eq_some some
    obtain ⟨error, failure, same⟩ := Option.map_eq_some_iff.mp failed
    cases same
    constructor
    · refine ⟨nofun, ?_⟩
      intro all
      cases (all call member).symm.trans failure
    · rintro _ ⟨⟩
      exact ⟨call, member, cause, failure, rfl⟩

end Rollout

def RolloutCall.deed (call : RolloutCall) : Deed := .run call.machine.id call.script call.failure.isNone

namespace Rollout

theorem run_follows (provider : Provider σ) (plan : RolloutPlan) (cluster : Cluster) (state : σ) :
    ∃ events, follow provider plan events (initial cluster state) = some (run provider plan cluster state) :=
  stepOrStay_follows (oneByOne cluster.instances) (initial cluster state)

theorem calls_of_isEmpty {provider : Provider σ} {plan : RolloutPlan} (positive : 0 < plan.limit)
    (empty : plan.queue.isEmpty = true) (cluster : Cluster) (state : σ) : (run provider plan cluster state).calls = [] := by
  obtain ⟨events, follows⟩ := run_follows provider plan cluster state
  have served := (follow_sound follows sound_initial).1.ended (run_ended positive cluster state)
  have none : plan.due cluster.instances = [] := by
    simp [RolloutPlan.due, StatementQueue.forRoles_of_isEmpty empty]
  rw [none] at served
  exact List.map_eq_nil_iff.mp served.eq_nil

end Rollout

theorem concurrency_positive (topology : Topology) (options : LaunchOptions) : 0 < concurrency topology options :=
  Nat.lt_of_lt_of_le Nat.zero_lt_one (Nat.le_max_right _ _)

-- A phase without statements does not roll out, which comes to the same.
theorem PhaseRun.rollOut_run (plan : PhasePlan σ) (run : PhaseRun σ) :
    let rollout := Rollout.run plan.provider ⟨plan.topology, run.event.queue, concurrency plan.topology plan.options⟩
      run.event.cluster run.event.provider
    (rollOut plan run).1 = rollout.verdict plan.phase ∧
      (rollOut plan run).2.deeds = run.deeds ++ rollout.calls.map RolloutCall.deed := by
  intro rollout
  simp only [rollOut]
  split
  · rename_i empty
    have none : rollout.calls = [] := Rollout.calls_of_isEmpty (concurrency_positive _ _) empty _ _
    simp [Rollout.verdict, Rollout.failure?, none]
  · split
    · rename_i none
      exact ⟨by rw [Rollout.verdict, none], rfl⟩
    · rename_i some
      exact ⟨by rw [Rollout.verdict, some], rfl⟩

namespace Rollout

/-- In the phases that run statements they are run once on every machine that has some, and on no
other, in whatever order the machines are worked on and whatever fails: every order of steps comes
to an end, keeps to the limit on the way, and a machine's script is its variables and the
statements of its roles. What the phase does is one of these orders; it succeeds when all calls
do, and else names the roles of a machine whose call failed. -/
theorem machines_served_once (plan : PhasePlan σ) (phaseRun : PhaseRun σ) :
    let cluster := phaseRun.event.cluster
    let limit := max (plan.options.maxConcurrent.getD plan.topology.maxConcurrentLaunches.toNat) 1
    let work : RolloutPlan := ⟨plan.topology, phaseRun.event.queue, limit⟩
    let begun := initial cluster phaseRun.event.provider
    let outcome := PhaseRun.perform plan (.effect .rollOut) phaseRun
    plan.phase.effects.count .rollOut = (if plan.phase = .bootstrap then 0 else 1) ∧
    (∀ events rollout, follow plan.provider work events begun = some rollout →
      rollout.atWork.length ≤ limit ∧
      events.length ≤ 3 * cluster.instances.length ∧
      (∀ event next, rollout.step plan.provider work event = some next → Asks plan.provider rollout next) ∧
      (∀ call ∈ rollout.calls, call.Made plan.provider work) ∧
      (rollout.Ended ∨ ∃ event next, rollout.step plan.provider work event = some next) ∧
      (rollout.Ended → (rollout.calls.map RolloutCall.machine).Perm (work.due cluster.instances) ∧
        Judges plan.phase rollout.calls (rollout.verdict plan.phase))) ∧
    ∃ events rollout, follow plan.provider work events begun = some rollout ∧ rollout.Ended ∧
      outcome.1 = rollout.verdict plan.phase ∧
      outcome.2.deeds = phaseRun.deeds ++ rollout.calls.map RolloutCall.deed := by
  intro cluster limit work begun outcome
  have positive : 0 < limit := concurrency_positive plan.topology plan.options
  refine ⟨?_, ?_, ?_⟩
  · cases plan.phase <;> rfl
  · intro events rollout follows
    obtain ⟨sound, steps⟩ := follow_sound follows sound_initial
    refine ⟨sound.bounded, ?_, ?_, sound.made, goesOn positive rollout, ?_⟩
    · have all : begun.left = 3 * cluster.instances.length := rfl
      omega
    · intro event next happens
      exact step_asks happens
    · intro ended
      exact ⟨sound.ended ended, verdict_judges plan.phase rollout⟩
  · obtain ⟨events, follows⟩ := run_follows plan.provider work cluster phaseRun.event.provider
    obtain ⟨result, deeds⟩ := PhaseRun.rollOut_run plan phaseRun
    exact ⟨events, _, follows, run_ended positive _ _, result, deeds⟩

-- A machine with two roles comes first and fails, a worker is served while it is at work, and a
-- master has nothing to run.
theorem machines_served_once_of_three :
    let topology := Launch.plainTopology [] 0
    let plan : PhasePlan Simulation :=
      ⟨Simulation.provider, { LaunchOptions.none with maxConcurrent := some 2 }, topology, .start⟩
    let machine (id : String) (roles : List String) : Instance :=
      .ofNode ⟨id, none, none, .empty⟩ (.ofList roles)
    let cluster : Cluster := .ofInstances "small"
      [machine "i-1" ["worker", "web"], machine "i-2" ["worker"], machine "i-3" ["master"]]
    let queue := StatementQueue.empty.add "worker" (.function "start_worker")
    let state := { Simulation.new with
      faults := { SimulatedFaults.none with statementRoles := ["web"] }
      rolesById := .ofList [("i-1", .ofList ["worker", "web"])] }
    let phaseRun : PhaseRun Simulation := ⟨⟨cluster, .new [], queue, state⟩, 0, []⟩
    let work : RolloutPlan := ⟨topology, queue, 2⟩
    let events : List RolloutEvent := [.start, .start, .settle "i-2", .settle "i-1", .finish "i-1", .start, .finish "i-2"]
    (PhaseRun.perform plan (.effect .rollOut) phaseRun).1 = .error (.launch (.provider .start (.ofList ["web", "worker"])
      (ProviderError.statements "i-1" "injected statement failure").message)) ∧
    ∃ rollout, follow Simulation.provider work events (initial cluster state) = some rollout ∧ rollout.Ended ∧
      (rollout.calls.map RolloutCall.machine).Perm (work.due cluster.instances) ∧
      rollout.calls.map (fun call => (call.machine.id, call.failure.isSome)) = [("i-1", true), ("i-2", false)] ∧
      Judges .start rollout.calls (rollout.verdict .start) := by
  intro topology plan machine cluster queue state phaseRun work events
  have reached : (follow Simulation.provider work events (initial cluster state)).map
      (fun rollout => (rollout.waiting, rollout.atWork,
        rollout.calls.map fun call => (call.machine.id, call.failure.isSome))) =
      some ([], [], [("i-1", true), ("i-2", false)]) := by decide +kernel
  obtain ⟨rollout, follows, same⟩ := Option.map_eq_some_iff.mp reached
  simp only [Prod.mk.injEq] at same
  obtain ⟨waiting, atWork, calls⟩ := same
  have ended : rollout.Ended := ⟨waiting, atWork⟩
  obtain ⟨_, _, _, _, _, served⟩ := (machines_served_once plan phaseRun).2.1 events rollout follows
  exact ⟨by decide +kernel, rollout, follows, ended, (served ended).1, calls, (served ended).2⟩

end Rollout

end Muster
