import Muster.Proofs.Launch.Shape
import Muster.Proofs.Lifecycle.Checks
import Muster.Proofs.Store.Records
import Muster.Rehearsal

/-!
Why the checks before BOOTSTRAP are enough. They look at the groups of the topology; the
checks before every other phase look at the machines of the cluster. But every machine of a
launched cluster has the roles of a group, and keeps them for as long as it is there: through
the phases, whatever comes of them, and through what is written down of it and read again.
So what a later check could find, the first one has found.
-/

namespace Muster

variable {σ : Type}

/-! ### Machines keep their roles -/

namespace Cluster

def KeepsRoles (before after : Cluster) : Prop :=
  ∀ machine ∈ after.instances, ∃ other ∈ before.instances, other.roles = machine.roles

namespace KeepsRoles

variable {before middle after : Cluster}

theorem of_instances (same : after.instances = before.instances) : before.KeepsRoles after :=
  fun machine member => ⟨machine, same ▸ member, rfl⟩

theorem trans (first : before.KeepsRoles middle) (second : middle.KeepsRoles after) : before.KeepsRoles after := by
  intro machine member
  obtain ⟨other, among, roles⟩ := second machine member
  obtain ⟨origin, early, same⟩ := first other among
  exact ⟨origin, early, same.trans roles⟩

theorem remove (cluster : Cluster) (ids : List String) : cluster.KeepsRoles (cluster.remove ids).2 :=
  fun machine member => ⟨machine, (List.mem_filter.mp member).1, rfl⟩

theorem noteHosts (cluster : Cluster) (id : String) (hosts : Option Hosts) :
    cluster.KeepsRoles (cluster.noteHosts id hosts) := by
  cases hosts with
  | none => exact of_instances rfl
  | some hosts =>
      intro machine member
      obtain ⟨other, among, rfl⟩ := List.mem_map.mp member
      refine ⟨other, among, ?_⟩
      split <;> rfl

/-- A record of a machine has its roles. -/
theorem recorded (cluster : Cluster) (moment : Timestamp) :
    cluster.KeepsRoles (Manifest.ofCluster cluster moment).toCluster := by
  intro machine member
  rcases mem_addAll member with absent | among
  · cases absent
  · obtain ⟨record, recorded, rfl⟩ := List.mem_map.mp among
    obtain ⟨other, there, rfl⟩ := List.mem_map.mp recorded
    exact ⟨other, there, rfl⟩

end KeepsRoles

end Cluster

theorem Rollout.run_keepsRoles (provider : Provider σ) (plan : RolloutPlan) (cluster : Cluster) (state : σ) :
    cluster.KeepsRoles (run provider plan cluster state).cluster := by
  have keeps (rollout : Rollout σ) (event : RolloutEvent) (next : Rollout σ)
      (happens : rollout.step provider plan event = some next) (kept : cluster.KeepsRoles rollout.cluster) :
      cluster.KeepsRoles next.cluster := by
    refine kept.trans ?_
    rcases step_cases happens with ⟨same, _⟩ | ⟨machine, hosts, noted, _⟩ | ⟨node, script, same, _⟩
    · exact .of_instances (congrArg Cluster.instances same)
    · exact noted ▸ .noteHosts rollout.cluster machine.id hosts
    · exact .of_instances (congrArg Cluster.instances same)
  exact run_keeps keeps (.of_instances rfl)

/-! ### Machines of a topology -/

def Topology.Covers (topology : Topology) (cluster : Cluster) : Prop :=
  ∀ machine ∈ cluster.instances, ∃ group ∈ topology.groups, group.roles = machine.roles

theorem Topology.Covers.keeps {topology : Topology} {before after : Cluster} (covers : topology.Covers before)
    (kept : before.KeepsRoles after) : topology.Covers after := by
  intro machine member
  obtain ⟨other, among, same⟩ := kept machine member
  obtain ⟨group, declared, roles⟩ := covers other among
  exact ⟨group, declared, roles.trans same⟩

theorem Launch.run_covers {provider : Provider σ} {topology : Topology} {bootstrap : RoleSet → Script}
    {options : LaunchOptions} {now : Nat} {start : σ} {cluster : Cluster} {report : LaunchReport}
    (succeeds : (run provider topology bootstrap options now start).1 = .ok (cluster, report)) :
    topology.Covers cluster := by
  obtain ⟨trace, final, ended, completes, answers, _⟩ := run_completes provider topology bootstrap options now start
  have course := completes.run.course
  have ending := final.verdict_ending provider (plan topology bootstrap options)
  rw [answers] at succeeds
  rw [show (final.verdict provider (plan topology bootstrap options)).1 = .ok (cluster, report) from succeeds]
    at ending
  generalize (final.verdict provider (plan topology bootstrap options)).2 = after at ending
  cases ending with
  | succeeds succeeded =>
      intro machine member
      rcases Cluster.mem_addAll member with absent | healthy
      · cases absent
      · obtain ⟨progress, among, known⟩ := List.mem_flatMap.mp healthy
        obtain ⟨group, of, declared⟩ := course.sound.group_of among
        exact ⟨group, declared, of.roles.symm.trans (course.outfitted.healthy progress among machine known).symm⟩

-- Scripted handlers set a property of the cluster and nothing else.
theorem Registry.withScripted_keepsRoles {registry : Registry σ}
    (within : registry.Within fun before after => before.cluster.KeepsRoles after.cluster) (topology : Topology) :
    (registry.withScripted topology).Within fun before after => before.cluster.KeepsRoles after.cluster := by
  apply withScripted_within within
  intro role hook phase topology event
  apply Cluster.KeepsRoles.of_instances
  cases hook with
  | before =>
      cases phase with
      | configure =>
          change (Handler.Scripted.beforeConfigure role topology event).2.cluster.instances = _
          simp only [Handler.Scripted.beforeConfigure]
          split <;> rfl
      | bootstrap | start | stop | cleanup => rfl
  | after => cases phase <;> rfl

namespace PhaseRun

variable (plan : PhasePlan σ) {run : PhaseRun σ}

theorem destroy_keepsRoles (run : PhaseRun σ) :
    run.event.cluster.KeepsRoles (destroy plan run).2.event.cluster := by
  obtain ⟨next, ⟨_, rfl, done⟩ | ⟨_, _, same, done⟩ | ⟨_, removed, done⟩⟩ := destroy_cases plan run
  · rw [done]
    exact .of_instances rfl
  · rw [done]
    exact .of_instances (congrArg Cluster.instances same)
  · rw [done, removed]
    exact .remove _ _

theorem rollOut_keepsRoles (run : PhaseRun σ) :
    run.event.cluster.KeepsRoles (rollOut plan run).2.event.cluster := by
  have kept := Rollout.run_keepsRoles plan.provider ⟨plan.topology, run.event.queue, concurrency plan.topology
    plan.options⟩ run.event.cluster run.event.provider
  simp only [rollOut]
  split
  · exact .of_instances rfl
  · split <;> exact kept

/-- What a phase does to the provider leaves only machines of the topology, if there were no others. -/
theorem effect_covers (effect : Effect) (covers : plan.topology.Covers run.event.cluster) :
    plan.topology.Covers (perform plan (.effect effect) run).2.event.cluster := by
  cases effect with
  | launch =>
      obtain ⟨next, _, ⟨error, _, same, done⟩ | ⟨launched, report, answer, same, done⟩⟩ :=
        Dispatcher.launch_cases plan run
      · rw [done, same]
        exact covers
      · rw [done]
        have covered : plan.topology.Covers launched := Launch.run_covers answer
        refine covered.keeps (.of_instances ?_)
        rw [same]
        rfl
  | authorize => exact (authorize_cluster plan run).symm ▸ covers
  | rollOut => exact covers.keeps (rollOut_keepsRoles plan run)
  | destroy => exact covers.keeps (destroy_keepsRoles plan run)

end PhaseRun

namespace Dispatcher

/-- No hook that was called has brought in a machine with roles that none had before; it may
have set properties, queued statements and added rules. -/
def HooksKeepRoles (done : List (Performed (PhaseStep σ) (PhaseRun σ) Error)) : Prop :=
  ∀ entry ∈ done, ∀ hook handler, entry.step = .call hook handler →
    entry.found.event.cluster.KeepsRoles entry.left.event.cluster

variable {dispatcher : Dispatcher σ} {phase : Phase} {topology : Topology} {cluster : Cluster}

theorem run_covers {now : Nat} {state : σ} (covers : topology.Covers cluster)
    (hooks : HooksKeepRoles (dispatcher.history phase topology cluster now state)) :
    topology.Covers (dispatcher.run phase topology cluster now state).cluster := by
  cases found : dispatcher.handlersFor phase topology cluster with
  | error refused =>
      rw [run_of_refused now state found]
      exact covers
  | ok handlers =>
      rw [history_of_found now state found] at hooks
      rw [run_of_found now state found]
      refine inOrder_kept (fun run : PhaseRun σ => topology.Covers run.event.cluster) ?_ covers
      intro entry member known
      obtain ⟨_, performed⟩ := performed_of_mem member
      cases step : entry.step with
      | call hook handler => exact known.keeps (hooks entry member hook handler step)
      | effect effect =>
          rw [step] at performed
          have kept := PhaseRun.effect_covers (dispatcher.planOf phase topology) effect known
          rw [performed] at kept
          exact kept

-- Handlers that never bring in such machines have not done so in a phase.
theorem hooksKeepRoles_of_within
    (within : dispatcher.registry.Within fun before after => before.cluster.KeepsRoles after.cluster)
    (phase : Phase) (topology : Topology) (cluster : Cluster) (now : Nat) (state : σ) :
    HooksKeepRoles (dispatcher.history phase topology cluster now state) := by
  intro entry member hook handler step
  obtain ⟨⟨role, registered⟩, left⟩ := called_of_mem member step
  rw [left]
  exact within role handler registered hook phase topology entry.found.event

theorem rolesFor_later (later : phase ≠ .bootstrap) : rolesFor phase topology cluster = cluster.roleNames := by
  cases phase with
  | bootstrap => exact (later rfl).elim
  | configure | start | stop | cleanup => rfl

theorem share_later (later : phase ≠ .bootstrap) {role other : String} :
    Share phase topology cluster role other ↔
      ∃ machine ∈ cluster.instances, role ∈ machine.roles ∧ other ∈ machine.roles := by
  cases phase with
  | bootstrap => exact (later rfl).elim
  | configure | start | stop | cleanup => rfl

/-- A check of the machines finds nothing that the check of the groups has not found. -/
theorem passes_of_bootstrap {registry : Registry σ} {handlers : List (Handler σ)} {first : Cluster}
    (passed : Checked registry .bootstrap topology first (.ok handlers)) (covers : topology.Covers cluster)
    (later : phase ≠ .bootstrap) {answer : Except Error (List (Handler σ))}
    (checked : Checked registry phase topology cluster answer) : ∃ handlers, answer = .ok handlers := by
  cases passed with
  | passes known apart =>
      have declared {role : String} (member : role ∈ rolesFor phase topology cluster) :
          role ∈ rolesFor .bootstrap topology first := by
        rw [rolesFor_later later, Cluster.roleNames, mem_rolesOf] at member
        obtain ⟨roles, listed, carried⟩ := member
        obtain ⟨machine, among, rfl⟩ := List.mem_map.mp listed
        obtain ⟨group, there, same⟩ := covers machine among
        exact (mem_rolesOf _ _).mpr ⟨group.roles, List.mem_map_of_mem there, same ▸ carried⟩
      cases checked with
      | noHandler member absent => exact (known _ (declared member) absent).elim
      | conflict _ member excludes share =>
          obtain ⟨machine, among, both⟩ := (share_later later).mp share
          obtain ⟨group, there, same⟩ := covers machine among
          exact (apart _ (declared member) _ excludes ⟨group, there, same ▸ both⟩).elim
      | passes => exact ⟨_, rfl⟩

/-- What may become of a launched cluster: phases are run on it, by this dispatcher or by another
one with the same handlers, at any time and with any provider, and end as they end; and it is saved
and loaded again. -/
inductive Journey (registry : Registry σ) (topology : Topology) (launched : Cluster) : Cluster → Prop where
  | launched : Journey registry topology launched launched
  | phase {cluster : Cluster} (journey : Journey registry topology launched cluster) (dispatcher : Dispatcher σ)
      (same : dispatcher.registry = registry) (phase : Phase) (now : Nat) (state : σ)
      (hooks : HooksKeepRoles (dispatcher.history phase topology cluster now state)) :
      Journey registry topology launched (dispatcher.run phase topology cluster now state).cluster
  | reloaded {cluster loaded : Cluster} (journey : Journey registry topology launched cluster) {backend : Backend}
      {moment : Timestamp} {storage saved later after : Storage}
      (saves : backend.saveCluster cluster moment storage = (.ok (), saved))
      (kept : backend.kept? cluster.name later = backend.kept? cluster.name saved)
      (loads : backend.loadCluster cluster.name later = (.ok loaded, after)) :
      Journey registry topology launched loaded

theorem Journey.covers {registry : Registry σ} {launched : Cluster} (start : topology.Covers launched)
    (journey : Journey registry topology launched cluster) : topology.Covers cluster := by
  induction journey with
  | launched => exact start
  | phase _ dispatcher _ phase now state hooks covers => exact run_covers covers hooks
  | reloaded _ saves kept loads covers =>
      obtain ⟨savedAt, rfl⟩ := Backend.loaded_of_saved saves kept loads
      exact covers.keeps (.recorded _ savedAt)

/-- When BOOTSTRAP has succeeded, no later phase is refused for want of a handler or for roles that
share a machine, whichever machines came up and whatever has become of the cluster since, as long as
its hooks have brought in no machines of their own. -/
theorem bootstrap_covers_later (dispatcher : Dispatcher σ) (keyed : dispatcher.registry.Keyed)
    (topology : Topology) (now : Nat) (state : σ)
    (succeeds : (dispatcher.bootstrap topology now state).result = .ok ())
    (hooks : HooksKeepRoles (dispatcher.history .bootstrap topology (.new topology.clusterName) now state))
    {cluster : Cluster}
    (journey : Journey dispatcher.registry topology (dispatcher.bootstrap topology now state).cluster cluster)
    (later : Dispatcher σ) (same : later.registry = dispatcher.registry) (phase : Phase)
    (other : phase ≠ .bootstrap) (moment : Nat) (found : σ) :
    let result := (later.run phase topology cluster moment found).result
    (∀ error, result ≠ .error (.config error)) ∧ ∀ error, result ≠ .error (.placement error) := by
  have none : topology.Covers (.new topology.clusterName) := fun machine member => (List.not_mem_nil member).elim
  have covers : topology.Covers cluster := journey.covers (run_covers none hooks)
  have checked := handlersFor_checked later (same ▸ keyed) phase topology cluster
  have first := handlersFor_checked dispatcher keyed .bootstrap topology (.new topology.clusterName)
  cases passed : dispatcher.handlersFor .bootstrap topology (.new topology.clusterName) with
  | error refused =>
      rw [bootstrap, run_of_refused now state passed] at succeeds
      cases succeeds
  | ok handlers =>
      rw [passed] at first
      rw [same] at checked
      obtain ⟨handlers, answer⟩ := passes_of_bootstrap first covers other checked
      constructor
      · intro error fails
        cases answer.symm.trans (refused_of_isCheck fails trivial)
      · intro error fails
        cases answer.symm.trans (refused_of_isCheck fails trivial)

def bringingIn (roles : List String) : Handler Rehearsal where
  role := "a"
  disallowed := ["b"]
  hook := fun
    | .after, .bootstrap => fun _ event =>
        (.ok (), { event with cluster := (event.cluster.add ⟨⟨"x", none, none, .empty⟩, .ofList roles, none⟩).2 })
    | _, _ => .nothing

def checkingApart : Handler Rehearsal :=
  Rehearsal.handler "a" [] fun hook phase =>
    if hook = .before ∧ phase = .configure then [.checkDisjoint "a" "b"] else []

def configured (handler : Handler Rehearsal) (roles : List String) : PhaseOutcome Rehearsal × Except Error Unit :=
  let topology := Launch.plainTopology [⟨.ofList roles, 1, 50, 1⟩] 0
  let dispatcher := new Rehearsal.provider (.ofHandlers [handler, .idle "b"]) topology .none
  let launched := dispatcher.bootstrap topology 0 .new
  (launched, (dispatcher.run .configure topology launched.cluster launched.now launched.state).result)

-- A hook has brought in a machine whose role has no handler, or one whose roles exclude each other; or a
-- hook does a check of its own.
theorem hooks_escape_bootstrap :
    (∀ roles ∈ [["a"], ["a", "b"]], (Launch.plainTopology [⟨.ofList roles, 1, 50, 1⟩] 0).validate = .ok ()) ∧
    (configured (bringingIn ["c"]) ["a"]).1.result = .ok () ∧
    (configured (bringingIn ["c"]) ["a"]).2 = .error (.config (.noHandler "c")) ∧
    (configured (bringingIn ["a", "b"]) ["a"]).1.result = .ok () ∧
    (configured (bringingIn ["a", "b"]) ["a"]).2 =
      .error (.placement ⟨.conflict "a" "b" "instance 'x'", some .configure⟩) ∧
    (configured checkingApart ["a", "b"]).1.result = .ok () ∧
    (configured checkingApart ["a", "b"]).2 =
      .error (.handler "a" .configure .before (.placement (.plain (.conflict "a" "b" "instance 'stub-00001'")))) := by
  refine ⟨by decide +kernel, by decide +kernel, by decide +kernel, by decide +kernel, by decide +kernel,
    by decide +kernel, by decide +kernel⟩

-- One of two workers comes up; the cluster is configured, saved and loaded, and can be stopped.
theorem bootstrap_covers_later_of_one :
    let topology := Launch.plainTopology [⟨.ofList ["worker"], 2, 50, 1⟩] 0
    let launched := workers.bootstrap topology 0 (Simulation.new.setDue (.ofList ["worker"]) ⟨1, false, 0⟩)
    let configured := workers.run .configure topology launched.cluster launched.now launched.state
    let saved := (Backend.memory.saveCluster configured.cluster .epoch (.ofTree .empty)).2
    launched.result = .ok () ∧ launched.cluster.ids = ["stub-00001"] ∧
    ∃ loaded, (Backend.memory.loadCluster configured.cluster.name saved).1 = .ok loaded ∧
      let result := (workers.run .stop topology loaded configured.now configured.state).result
      (∀ error, result ≠ .error (.config error)) ∧ ∀ error, result ≠ .error (.placement error) := by
  intro topology launched configured saved
  have keyed : workers.registry.Keyed := Registry.withScripted_keyed Registry.empty_keyed topology
  have within : workers.registry.Within fun before after => before.cluster.KeepsRoles after.cluster :=
    Registry.withScripted_keepsRoles Registry.empty_within topology
  have succeeds : launched.result = .ok () := by decide +kernel
  have begun : Journey workers.registry topology launched.cluster configured.cluster :=
    Journey.launched.phase workers rfl .configure launched.now launched.state
      (hooksKeepRoles_of_within within _ _ _ _ _)
  have kept : saved.memory.get? configured.cluster.name = some (.ofCluster configured.cluster .epoch) := by
    simp only [saved, Backend.saveCluster, Backend.save, SortedMap.get?_insert, if_true]
  have loads : Backend.memory.loadCluster configured.cluster.name saved =
      (.ok (Manifest.ofCluster configured.cluster .epoch).toCluster, saved) := by
    simp only [Backend.loadCluster, Backend.load, kept, Except.map]
  refine ⟨succeeds, by decide +kernel, _, congrArg Prod.fst loads, ?_⟩
  exact bootstrap_covers_later workers keyed topology 0 _ succeeds (hooksKeepRoles_of_within within _ _ _ _ _)
    (begun.reloaded rfl rfl loads) workers rfl .stop (by decide) configured.now configured.state

end Dispatcher

end Muster
