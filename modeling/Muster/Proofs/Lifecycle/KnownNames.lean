import Muster.Proofs.Lifecycle.Ingress
import Muster.Proofs.Lifecycle.Rollouts
import Muster.Rehearsal

/-!
Host names that are known. A machine whose host names are known is not asked for them in any
phase that launches and destroys nothing, in whatever order its machines are worked on: they stay
as they are, and they are what its scripts are told.
-/

namespace Muster

variable {σ : Type}

structure Provider.Notes (provider : Provider σ) (asked : σ → List String) : Prop where
  resolveHosts : ∀ node state, asked (provider.resolveHosts node state).2 = asked state ++ [node.id]
  runScript : ∀ node script state, asked (provider.runScript node script state).2 = asked state
  authorize : ∀ targets state, asked (provider.authorize targets state).2 = asked state

def Provider.noting (provider : Provider σ) : Provider (σ × List String) :=
  { provider.within Prod.fst fun whole state => (state, whole.2) with
    resolveHosts node whole :=
      let (answer, state) := provider.resolveHosts node whole.1
      (answer, state, whole.2 ++ [node.id]) }

theorem Provider.noting_notes (provider : Provider σ) : provider.noting.Notes Prod.snd :=
  ⟨fun _ _ => rfl, fun _ _ _ => rfl, fun _ _ => rfl⟩

def Cluster.Knows (cluster : Cluster) (id : String) (hosts : Hosts) : Prop :=
  ∃ machine ∈ cluster.instances, machine.id = id ∧ machine.hosts = some hosts

structure NamesKnown (asked : σ → List String) (id : String) (hosts : Hosts) (times : Nat) (cluster : Cluster)
    (state : σ) : Prop where
  known : cluster.Knows id hosts
  times : (asked state).count id = times

structure PhaseEvent.KeepsNames (asked : σ → List String) (before after : PhaseEvent σ) : Prop where
  name : before.SameName after
  known : ∀ id hosts times, NamesKnown asked id hosts times before.cluster before.provider →
    NamesKnown asked id hosts times after.cluster after.provider

/-! ### Hooks -/

theorem Cluster.knows_of_instances {cluster other : Cluster} (same : other.instances = cluster.instances) {id : String}
    {hosts : Hosts} (knows : cluster.Knows id hosts) : other.Knows id hosts := by
  rw [Knows, same]
  exact knows

-- Scripted handlers have nothing to do with host names.
theorem Handler.scripted_keepsNames (asked : σ → List String) (role : String) (hook : Hook) (phase : Phase)
    (topology : Topology) (event : PhaseEvent σ) :
    event.KeepsNames asked ((Handler.scripted role : Handler σ).hook hook phase topology event).2 := by
  have ⟨machines, provider⟩ := Handler.scripted_event role hook phase topology event
  have instances : ((Handler.scripted role : Handler σ).hook hook phase topology event).2.cluster.instances =
      event.cluster.instances := by
    cases hook with
    | before =>
        cases phase with
        | configure =>
            change (Scripted.beforeConfigure role topology event).2.cluster.instances = _
            simp only [Scripted.beforeConfigure]
            split <;> rfl
        | bootstrap | start | stop | cleanup => rfl
    | after => cases phase <;> rfl
  refine ⟨machines.name, fun id hosts times names => ⟨?_, ?_⟩⟩
  · exact Cluster.knows_of_instances instances names.known
  · rw [provider]
    exact names.times

theorem Registry.withScripted_keepsNames {registry : Registry σ} {asked : σ → List String}
    (within : registry.Within (PhaseEvent.KeepsNames asked)) (topology : Topology) :
    (registry.withScripted topology).Within (PhaseEvent.KeepsNames asked) :=
  withScripted_within within topology (Handler.scripted_keepsNames asked)

/-! ### Rollouts -/

section

variable {cluster : Cluster} {id : String} {hosts : Hosts} {times : Nat} {asked : σ → List String}
  {provider : Provider σ}

namespace Cluster

theorem Knows.unique (knows : cluster.Knows id hosts) {machine : Instance} (member : machine ∈ cluster.instances)
    (same : machine.id = id) : machine.hosts = some hosts := by
  obtain ⟨known, among, rfl, found⟩ := knows
  rw [List.inj_on_of_nodup_map cluster.distinct member among same]
  exact found

theorem Knows.noteHosts (knows : cluster.Knows id hosts) {other : String} {found : Option Hosts}
    (agrees : other = id → found = some hosts) : (cluster.noteHosts other found).Knows id hosts := by
  cases found with
  | none => exact knows
  | some noted =>
      obtain ⟨machine, member, rfl, known⟩ := knows
      refine ⟨_, List.mem_map_of_mem member, ?_, ?_⟩
      · split <;> rfl
      · split
        · rename_i same
          exact agrees same.symm
        · exact known

end Cluster

theorem Provider.environment_of_known (provider : Provider σ) (topology : Topology) (queue : StatementQueue)
    {machine : Instance} (known : machine.hosts = some hosts) (state : σ) :
    provider.environment topology machine queue state =
      (instanceExports topology machine (some hosts) queue, some hosts, state) := by
  simp only [Provider.environment, Provider.hosts, known]
  rfl

-- To ask for the host names of a machine is to ask the provider only where they are not known.
theorem Provider.Notes.unasked (notes : provider.Notes asked) {machine : Instance}
    (agrees : machine.id = id → machine.hosts = some hosts) (state : σ) :
    (asked (provider.hosts machine state).2).count id = (asked state).count id := by
  rw [Provider.hosts]
  cases known : machine.hosts with
  | some found => rfl
  | none =>
      have other : machine.node.id ≠ id := by
        intro same
        cases known.symm.trans (agrees same)
      rw [notes.resolveHosts, List.count_append, List.count_singleton, if_neg (by simpa using other), Nat.add_zero]

namespace Rollout

variable {plan : RolloutPlan} {rollout next : Rollout σ}

theorem step_namesKnown (notes : provider.Notes asked) (sound : Sound provider plan cluster rollout)
    (first : cluster.Knows id hosts) {event : RolloutEvent} (taken : Taken provider plan rollout event next)
    (names : NamesKnown asked id hosts times rollout.cluster rollout.provider) :
    NamesKnown asked id hosts times next.cluster next.provider := by
  cases taken with
  | passes | begins => exact names
  | @settles called task found unsettled =>
      have agrees : task.machine.id = id → task.machine.hosts = some hosts :=
        first.unique (sound.task_mem (task?_mem found).1)
      constructor
      case known =>
        refine names.known.noteHosts fun same => ?_
        exact congrArg (fun told => told.2.1)
          (provider.environment_of_known plan.topology plan.queue (agrees same) rollout.provider)
      case times => exact (notes.unasked agrees rollout.provider).trans names.times
  | @finishes called task script found settled =>
      exact ⟨names.known, (congrArg (List.count id) (notes.runScript _ script rollout.provider)).trans names.times⟩

-- By induction over the steps, in whatever order they are taken.
theorem follow_namesKnown (notes : provider.Notes asked) (first : cluster.Knows id hosts) {events : List RolloutEvent}
    (follows : follow provider plan events rollout = some next) (sound : Sound provider plan cluster rollout)
    (names : NamesKnown asked id hosts times rollout.cluster rollout.provider) :
    NamesKnown asked id hosts times next.cluster next.provider := by
  induction events generalizing rollout with
  | nil =>
      cases follows
      exact names
  | cons event rest ih =>
      obtain ⟨after, happens, later⟩ := Option.bind_eq_some_iff.mp follows
      have taken := taken_of_step happens
      exact ih later (sound.step taken) (step_namesKnown notes sound first taken names)

theorem run_namesKnown (notes : provider.Notes asked) {state : σ} (plan : RolloutPlan)
    (names : NamesKnown asked id hosts times cluster state) :
    NamesKnown asked id hosts times (run provider plan cluster state).cluster
      (run provider plan cluster state).provider := by
  obtain ⟨events, follows⟩ := run_follows provider plan cluster state
  exact follow_namesKnown notes names.known follows sound_initial names

end Rollout

end

/-! ### Phases -/

def Script.TellsNames (script : Script) (topology : Topology) (event : PhaseEvent σ) (id : String) (hosts : Hosts) : Prop :=
  ∃ machine ∈ event.cluster.instances, machine.id = id ∧
    script.exports = instanceExports topology machine (some hosts) event.queue

namespace PhaseRun

variable {plan : PhasePlan σ} {asked : σ → List String} {id : String} {hosts : Hosts} {times : Nat} {run : PhaseRun σ}

def NamesKnown (asked : σ → List String) (id : String) (hosts : Hosts) (times : Nat) (run : PhaseRun σ) : Prop :=
  Muster.NamesKnown asked id hosts times run.event.cluster run.event.provider

theorem authorize_namesKnown (notes : plan.provider.Notes asked) (names : run.NamesKnown asked id hosts times) :
    (authorize plan run).2.NamesKnown asked id hosts times := by
  have answered := notes.authorize (run.event.firewall.pending run.event.cluster) run.event.provider
  simp only [authorize]
  split
  · exact names
  · split
    all_goals
      rename_i answer
      rw [answer] at answered
      exact ⟨names.known, (congrArg (List.count id) answered).trans names.times⟩

theorem rollOut_namesKnown (notes : plan.provider.Notes asked) (names : run.NamesKnown asked id hosts times) :
    (rollOut plan run).2.NamesKnown asked id hosts times := by
  have kept := Rollout.run_namesKnown notes ⟨plan.topology, run.event.queue, concurrency plan.topology plan.options⟩ names
  simp only [rollOut]
  split
  · exact names
  · split <;> exact kept

theorem perform_namesKnown (notes : plan.provider.Notes asked) {step : PhaseStep σ}
    (hooks : ∀ hook handler, step = .call hook handler →
      run.event.KeepsNames asked (handler.hook hook plan.phase plan.topology run.event).2)
    (gentle : ∀ effect, step = .effect effect → effect = .authorize ∨ effect = .rollOut)
    (names : run.NamesKnown asked id hosts times) : (perform plan step run).2.NamesKnown asked id hosts times := by
  cases step with
  | call hook handler =>
      change Muster.NamesKnown asked id hosts times (call plan hook handler run).2.event.cluster
        (call plan hook handler run).2.event.provider
      rw [call_event]
      exact (hooks hook handler rfl).known id hosts times names
  | effect effect =>
      rcases gentle effect rfl with rfl | rfl
      · exact authorize_namesKnown notes names
      · exact rollOut_namesKnown notes names

-- Every script that is run on the machine is made of what was known of it when the phase found it.
theorem told_names {step : PhaseStep σ} {result : Except Error Unit} {left : PhaseRun σ}
    (performed : perform plan step run = (result, left)) (known : run.event.cluster.Knows id hosts) {script : Script}
    {succeeded : Bool}
    (told : .run id script succeeded ∈ (⟨step, run, result, left⟩ : Performed (PhaseStep σ) (PhaseRun σ) Error).deeds) :
    script.TellsNames plan.topology run.event id hosts := by
  have noted := (perform_noted plan performed).1
  have rolls : step = .effect .rollOut := PhaseStep.act_eq_effect.mp (noted.kind _ told).symm
  subst rolls
  have deeds := (rollOut_run plan run).2
  rw [show rollOut plan run = (result, left) from performed] at deeds
  dsimp only [Performed.deeds] at deeds told
  rw [deeds, List.drop_left] at told
  obtain ⟨call, member, same⟩ := List.mem_map.mp told
  obtain ⟨events, follows⟩ := Rollout.run_follows plan.provider
    ⟨plan.topology, run.event.queue, concurrency plan.topology plan.options⟩ run.event.cluster run.event.provider
  have sound := (Rollout.follow_sound follows Rollout.sound_initial).1
  have among := sound.call_mem member
  obtain ⟨state, made⟩ := (sound.made call member).script
  cases same
  refine ⟨call.machine, among, rfl, ?_⟩
  rw [made, Provider.environment_of_known _ _ _ (known.unique among rfl)]

end PhaseRun

namespace Dispatcher

variable {dispatcher : Dispatcher σ} {phase : Phase} {topology : Topology} {cluster : Cluster} {now : Nat} {state : σ}
  {asked : σ → List String} {id : String} {hosts : Hosts} {times : Nat}

/-- A phase that launches and destroys nothing keeps the host names that are known, does not ask for
them, and tells them to the scripts of their machine. -/
theorem run_namesKnown (notes : dispatcher.provider.Notes asked)
    (hooks : dispatcher.registry.Within (PhaseEvent.KeepsNames asked))
    (gentle : ∀ effect ∈ phase.effects, effect = .authorize ∨ effect = .rollOut)
    (names : NamesKnown asked id hosts times cluster state) :
    let outcome := dispatcher.run phase topology cluster now state
    NamesKnown asked id hosts times outcome.cluster outcome.state ∧
    ∀ entry ∈ dispatcher.history phase topology cluster now state, ∀ script succeeded,
      .run id script succeeded ∈ entry.deeds → script.TellsNames topology entry.found.event id hosts := by
  cases found : dispatcher.handlersFor phase topology cluster with
  | error error =>
      rw [run_of_refused now state found, history, found]
      refine ⟨names, ?_⟩
      intro entry member
      cases member
  | ok handlers =>
      rw [run_of_found now state found, history_of_found now state found]
      have keeps (step : PhaseStep σ) (member : step ∈ phase.steps handlers) (run : PhaseRun σ)
          (known : run.NamesKnown asked id hosts times) :
          (PhaseRun.perform (dispatcher.planOf phase topology) step run).2.NamesKnown asked id hosts times := by
        refine PhaseRun.perform_namesKnown notes ?_ ?_ known
        · rintro hook handler rfl
          obtain ⟨role, present⟩ := registered_of_found found (Phase.mem_of_call member)
          exact hooks role handler present hook phase topology run.event
        · rintro effect rfl
          exact gentle effect (Phase.mem_of_effect member)
      constructor
      · exact inOrder_keeps (PhaseRun.NamesKnown asked id hosts times) keeps names
      · intro entry member script succeeded told
        have begun : (dispatcher.begun phase topology cluster now state).NamesKnown asked id hosts times := names
        have known := found_keeps (PhaseRun.NamesKnown asked id hosts times) keeps begun member
        exact PhaseRun.told_names (performed_of_mem member).2 known.known told

end Dispatcher

end Muster
