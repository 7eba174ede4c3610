import Muster.Proofs.Lifecycle.Rollouts

/-!
Rolling out statements with a provider whose answers do not change. In whatever order the machines
are worked on, each of those that have something to run is settled with the host names that it is
known by or else resolved to, and runs the script that is made of them; so all that comes of it
can be said without the order.
-/

namespace Muster

variable {σ : Type}

structure Answers where
  hosts : Node → Except ProviderError Hosts
  script : Node → Script → Except ProviderError Unit
  ingress : List IngressTarget → Except ProviderError Unit

structure Provider.Steady (provider : Provider σ) (answers : Answers) (holds : σ → Prop) : Prop where
  resolveHosts : ∀ node state, holds state →
    (provider.resolveHosts node state).1 = answers.hosts node ∧ holds (provider.resolveHosts node state).2
  runScript : ∀ node script state, holds state →
    (provider.runScript node script state).1 = answers.script node script ∧
      holds (provider.runScript node script state).2
  authorize : ∀ targets state, holds state →
    (provider.authorize targets state).1 = answers.ingress targets ∧ holds (provider.authorize targets state).2

def Answers.settle (answers : Answers) (machine : Instance) : Instance :=
  { machine with hosts := machine.hosts.or (answers.hosts machine.node).toOption }

namespace RolloutPlan

variable (plan : RolloutPlan)

def scriptOf (machine : Instance) : Script :=
  ⟨instanceExports plan.topology machine machine.hosts plan.queue, plan.queue.forRoles machine.roles⟩

def settle (answers : Answers) (machine : Instance) : Instance :=
  if (plan.queue.forRoles machine.roles).isEmpty then machine else answers.settle machine

def Succeeds (answers : Answers) (machine : Instance) : Prop :=
  (plan.queue.forRoles machine.roles).isEmpty = false →
    answers.script machine.node (plan.scriptOf (answers.settle machine)) = .ok ()

end RolloutPlan

section

variable {provider : Provider σ} {answers : Answers} {holds : σ → Prop}

theorem Provider.Steady.environment (steady : provider.Steady answers holds) (topology : Topology) (machine : Instance)
    (queue : StatementQueue) {state : σ} (here : holds state) :
    ∃ left, holds left ∧ provider.environment topology machine queue state =
      (instanceExports topology machine (answers.settle machine).hosts queue, (answers.settle machine).hosts, left) := by
  cases known : machine.hosts with
  | some hosts =>
      refine ⟨state, here, ?_⟩
      simp only [Provider.environment, Provider.hosts, Answers.settle, known]
      rfl
  | none =>
      obtain ⟨answer, still⟩ := steady.resolveHosts machine.node state here
      refine ⟨_, still, ?_⟩
      simp only [Provider.environment, Provider.hosts, Answers.settle, known, answer]
      rfl

-- To note host names changes nothing of a cluster but its machines.
theorem Cluster.noteHosts_frame (cluster : Cluster) (id : String) (hosts : Option Hosts) :
    (cluster.noteHosts id hosts).name = cluster.name ∧ (cluster.noteHosts id hosts).properties = cluster.properties := by
  cases hosts <;> exact ⟨rfl, rfl⟩

namespace Rollout

def settled (rollout : Rollout σ) : List Instance :=
  (rollout.atWork.filter fun task => task.script.isSome).map RolloutTask.machine ++ rollout.calls.map RolloutCall.machine

structure GoesBy (answers : Answers) (holds : σ → Prop) (plan : RolloutPlan) (cluster : Cluster) (rollout : Rollout σ) :
    Prop where
  holds : holds rollout.provider
  name : rollout.cluster.name = cluster.name
  properties : rollout.cluster.properties = cluster.properties
  machines : rollout.cluster.instances =
    cluster.instances.map fun machine => if machine ∈ rollout.settled then answers.settle machine else machine
  scripts : ∀ task ∈ rollout.atWork, ∀ script, task.script = some script →
    script = plan.scriptOf (answers.settle task.machine)
  calls : ∀ call ∈ rollout.calls, call.failure = none ↔
    answers.script call.machine.node (plan.scriptOf (answers.settle call.machine)) = .ok ()

variable {plan : RolloutPlan} {cluster : Cluster} {rollout next : Rollout σ} {state : σ}

theorem goesBy_initial (here : holds state) : GoesBy answers holds plan cluster (initial cluster state) where
  holds := here
  name := rfl
  properties := rfl
  machines := by simp [initial, settled]
  scripts := nofun
  calls := nofun

theorem mem_settled {machine : Instance} : machine ∈ rollout.settled ↔
    (∃ task ∈ rollout.atWork, task.script.isSome = true ∧ task.machine = machine) ∨
      ∃ call ∈ rollout.calls, call.machine = machine := by
  simp only [settled, List.mem_append, List.mem_map, List.mem_filter, and_assoc]

theorem mem_settled_settle (sound : Sound provider plan cluster rollout) {task : RolloutTask}
    (member : task ∈ rollout.atWork) {machine : Instance} :
    machine ∈ (rollout.settle provider plan task).settled ↔ machine = task.machine ∨ machine ∈ rollout.settled := by
  simp only [mem_settled, settle, List.mem_map]
  constructor
  · rintro (⟨_, ⟨other, among, rfl⟩, known, same⟩ | called)
    · by_cases here : other.machine.id = task.machine.id
      · obtain rfl := sound.unique member among here
        rw [if_pos rfl] at same
        exact .inl same.symm
      · rw [if_neg here] at known same
        exact .inr (.inl ⟨other, among, known, same⟩)
    · exact .inr (.inr called)
  · rintro (rfl | ⟨other, among, known, rfl⟩ | called)
    · exact .inl ⟨_, ⟨task, member, rfl⟩, by rw [if_pos rfl]; rfl, by rw [if_pos rfl]⟩
    · refine .inl ⟨_, ⟨other, among, rfl⟩, ?_, ?_⟩
      · split
        · rfl
        · exact known
      · split <;> rfl
    · exact .inr called

theorem mem_settled_finish (sound : Sound provider plan cluster rollout) {task : RolloutTask}
    (member : task ∈ rollout.atWork) {script : Script} (known : task.script = some script) {machine : Instance} :
    machine ∈ (rollout.finish provider task script).settled ↔ machine ∈ rollout.settled := by
  simp only [mem_settled, finish, List.mem_filter, List.mem_append, List.mem_singleton]
  constructor
  · rintro (⟨other, ⟨among, _⟩, settled, same⟩ | ⟨call, called | rfl, same⟩)
    · exact .inl ⟨other, among, settled, same⟩
    · exact .inr ⟨call, called, same⟩
    · exact .inl ⟨task, member, by rw [known]; rfl, same⟩
  · rintro (⟨other, among, settled, same⟩ | ⟨call, called, same⟩)
    · by_cases here : other.machine.id = task.machine.id
      · obtain rfl := sound.unique member among here
        exact .inr ⟨_, .inr rfl, same⟩
      · exact .inl ⟨other, ⟨among, decide_eq_true here⟩, settled, same⟩
    · exact .inr ⟨call, .inl called, same⟩

-- To note the host names that a machine has been settled with is to settle it.
theorem noteHosts_settle {now : Cluster} {done : List Instance} {machine : Instance} (member : machine ∈ cluster.instances)
    (machines : now.instances = cluster.instances.map fun other => if other ∈ done then answers.settle other else other) :
    (now.noteHosts machine.id (answers.settle machine).hosts).instances = cluster.instances.map fun other =>
      if other = machine ∨ other ∈ done then answers.settle other else other := by
  cases found : (answers.settle machine).hosts with
  | none =>
      have unknown : machine.hosts = none := (Option.or_eq_none_iff.mp found).1
      have same : answers.settle machine = machine := by
        simp only [Answers.settle] at found ⊢
        rw [found, ← unknown]
      refine machines.trans (List.map_congr_left fun other _ => ?_)
      by_cases here : other = machine
      · simp [here, same]
      · simp [here]
  | some hosts =>
      simp only [Cluster.noteHosts, Cluster.rememberHosts, machines, List.map_map]
      apply List.map_congr_left
      intro other among
      have id : (if other ∈ done then answers.settle other else other).id = other.id := by
        split <;> rfl
      simp only [Function.comp_apply, id]
      by_cases here : other.id = machine.id
      · obtain rfl := List.inj_on_of_nodup_map cluster.distinct among member here
        simp only [true_or, if_true, ← found]
        split <;> rfl
      · have different : other ≠ machine := fun same => here (same ▸ rfl)
        simp [here, different]

theorem GoesBy.step (steady : provider.Steady answers holds) (sound : Sound provider plan cluster rollout)
    (goes : GoesBy answers holds plan cluster rollout) {event : RolloutEvent}
    (taken : Taken provider plan rollout event next) : GoesBy answers holds plan cluster next := by
  cases taken with
  | passes waits room idle => exact ⟨goes.holds, goes.name, goes.properties, goes.machines, goes.scripts, goes.calls⟩
  | @begins machine rest waits room busy =>
      have same : Rollout.settled { rollout with
          waiting := rest
          atWork := rollout.atWork ++ [⟨machine, plan.queue.forRoles machine.roles, none⟩] } = rollout.settled := by
        simp [settled]
      refine ⟨goes.holds, goes.name, goes.properties, same ▸ goes.machines, ?_, goes.calls⟩
      intro task member script known
      rcases List.mem_append.mp member with old | new
      · exact goes.scripts task old script known
      · rw [List.mem_singleton.mp new] at known
        cases known
  | @settles id task found unsettled =>
      have member := (task?_mem found).1
      have settled {machine : Instance} : machine ∈ (rollout.settle provider plan task).settled ↔
          machine = task.machine ∨ machine ∈ rollout.settled := mem_settled_settle sound member
      obtain ⟨left, still, asked⟩ := steady.environment plan.topology task.machine plan.queue goes.holds
      have same := rollout.cluster.noteHosts_frame task.machine.id (answers.settle task.machine).hosts
      have noted := noteHosts_settle (sound.task_mem member) goes.machines
      simp only [settle, asked] at settled ⊢
      refine ⟨still, same.1.trans goes.name, same.2.trans goes.properties, ?_, ?_, goes.calls⟩
      · simpa only [settled] using noted
      · intro other changed script known
        obtain ⟨before, among, rfl⟩ := List.mem_map.mp changed
        by_cases here : before.machine.id = task.machine.id
        · obtain rfl := sound.unique member among here
          rw [if_pos rfl] at known ⊢
          cases known
          rw [sound.bodies before among]
          rfl
        · rw [if_neg here] at known ⊢
          exact goes.scripts before among script known
  | @finishes id task script found known =>
      have member := (task?_mem found).1
      have settled {machine : Instance} : machine ∈ (rollout.finish provider task script).settled ↔
          machine ∈ rollout.settled := mem_settled_finish sound member known
      obtain ⟨answer, still⟩ := steady.runScript task.machine.node script rollout.provider goes.holds
      refine ⟨still, goes.name, goes.properties, ?_, ?_, ?_⟩
      · simp only [settled]
        exact goes.machines
      · intro other among
        exact goes.scripts other (List.mem_filter.mp among).1
      · intro call among
        rcases List.mem_append.mp among with old | new
        · exact goes.calls call old
        · rw [List.mem_singleton.mp new, ← goes.scripts task member script known, ← answer]
          cases (provider.runScript task.machine.node script rollout.provider).1 <;> simp

theorem GoesBy.follow (steady : provider.Steady answers holds) {events : List RolloutEvent}
    (follows : follow provider plan events rollout = some next) (sound : Sound provider plan cluster rollout)
    (goes : GoesBy answers holds plan cluster rollout) : GoesBy answers holds plan cluster next := by
  induction events generalizing rollout with
  | nil =>
      cases follows
      exact goes
  | cons event rest ih =>
      obtain ⟨after, happens, later⟩ := Option.bind_eq_some_iff.mp follows
      have taken := taken_of_step happens
      exact ih later (sound.step taken) (goes.step steady sound taken)

/-- What a steady provider makes of a rollout that has ended, in whatever order it was done: every
machine is settled that has something to run, and all calls succeed if what they run does. -/
structure Comes (answers : Answers) (holds : σ → Prop) (plan : RolloutPlan) (cluster : Cluster) (ended : Rollout σ) :
    Prop where
  holds : holds ended.provider
  name : ended.cluster.name = cluster.name
  properties : ended.cluster.properties = cluster.properties
  machines : ended.cluster.instances = cluster.instances.map (plan.settle answers)
  calls : (∀ call ∈ ended.calls, call.failure = none) ↔ ∀ machine ∈ cluster.instances, plan.Succeeds answers machine

theorem GoesBy.ended (sound : Sound provider plan cluster rollout) (goes : GoesBy answers holds plan cluster rollout)
    (ended : rollout.Ended) : Comes answers holds plan cluster rollout := by
  have called := sound.ended ended
  have settled (machine : Instance) : machine ∈ rollout.settled ↔ machine ∈ plan.due cluster.instances := by
    rw [Rollout.settled, ended.2]
    exact called.mem_iff
  have due {machine : Instance} (member : machine ∈ cluster.instances) :
      machine ∈ plan.due cluster.instances ↔ (plan.queue.forRoles machine.roles).isEmpty = false := by
    simp [RolloutPlan.due, member]
  refine ⟨goes.holds, goes.name, goes.properties, goes.machines.trans (List.map_congr_left fun machine member => ?_), ?_⟩
  · simp only [settled, due member, RolloutPlan.settle]
    cases (plan.queue.forRoles machine.roles).isEmpty <;> rfl
  · constructor
    · intro all machine member busy
      have listed := called.mem_iff.mpr ((due member).mpr busy)
      obtain ⟨call, among, rfl⟩ := List.mem_map.mp listed
      exact (goes.calls call among).mp (all call among)
    · intro all call among
      have listed := called.mem_iff.mp (List.mem_map_of_mem among)
      have member := (List.mem_filter.mp listed).1
      exact (goes.calls call among).mpr (all call.machine member ((due member).mp listed))

theorem run_comes (steady : provider.Steady answers holds) (positive : 0 < plan.limit) (cluster : Cluster)
    (here : holds state) : Comes answers holds plan cluster (run provider plan cluster state) := by
  obtain ⟨events, follows⟩ := run_follows provider plan cluster state
  have sound := (follow_sound follows sound_initial).1
  exact ((goesBy_initial here).follow steady follows sound_initial).ended sound (run_ended positive cluster state)

end Rollout

end

/-! ### The simulated provider -/

namespace Simulation

def answers (simulation : Simulation) : Answers where
  hosts node := (simulation.resolveHosts node.id).1
  script node script := (simulation.runScript node.id script).1
  ingress targets := (simulation.authorize targets).1

structure AnswersAs (simulation later : Simulation) : Prop where
  faults : later.faults = simulation.faults
  rolesById : later.rolesById = simulation.rolesById

theorem steady (simulation : Simulation) : provider.Steady simulation.answers simulation.AnswersAs where
  resolveHosts node state same := by
    obtain ⟨faults, roles⟩ := same
    simp only [provider, resolveHosts, answers, faults]
    split <;> exact ⟨rfl, rfl, roles⟩
  runScript node script state same := by
    obtain ⟨faults, roles⟩ := same
    simp only [provider, runScript, answers, faults, roles]
    split
    · exact ⟨rfl, rfl, rfl⟩
    · split
      · exact ⟨rfl, faults, roles⟩
      · exact ⟨rfl, rfl, rfl⟩
  authorize targets state same := by
    obtain ⟨faults, roles⟩ := same
    simp only [provider, authorize, answers, faults]
    split
    · exact ⟨rfl, faults, roles⟩
    · exact ⟨rfl, rfl, roles⟩

end Simulation

end Muster
