import Muster.Proofs.Lifecycle.Spared

/-!
What is known of the machines after BOOTSTRAP. Its hooks leave them alone, and its launch
answers for every machine that then runs: with the cluster, or with an error that carries
a report. Only two things can be lost: a report is put aside when the launch succeeds,
and with it the ids of machines that could not be destroyed; and the cluster is not
handed on when a hook fails after the launch.
-/

namespace Muster.Dispatcher

open Simulation

variable {σ : Type}

def begun (dispatcher : Dispatcher σ) (phase : Phase) (topology : Topology) (cluster : Cluster)
    (now : Nat) (state : σ) : PhaseRun σ :=
  ⟨⟨cluster, dispatcher.rulesFor phase topology, .empty, state⟩, now, []⟩

def planOf (dispatcher : Dispatcher σ) (phase : Phase) (topology : Topology) : PhasePlan σ :=
  ⟨dispatcher.provider, dispatcher.options, topology, phase⟩

def launchIn (plan : PhasePlan σ) (run : PhaseRun σ) : Launch.Answer × Nat × σ :=
  Launch.run plan.provider plan.topology (PhaseRun.bootScript plan.topology run.event.queue) plan.options
    run.now run.event.provider

theorem launch_cases (plan : PhasePlan σ) (run : PhaseRun σ) : ∃ next : PhaseRun σ,
    next.event.provider = (launchIn plan run).2.2 ∧
    ((∃ error, (launchIn plan run).1 = .error error ∧ next.event.cluster = run.event.cluster ∧
        PhaseRun.perform plan (.effect .launch) run = (.error (.launch error), next)) ∨
      ∃ launched report, (launchIn plan run).1 = .ok (launched, report) ∧
        next.event.cluster = launched.setProperties run.event.cluster.properties ∧
        PhaseRun.perform plan (.effect .launch) run = (.ok (), next)) := by
  unfold launchIn PhaseRun.perform PhaseRun.launch
  dsimp only
  rcases Launch.run plan.provider plan.topology (PhaseRun.bootScript plan.topology run.event.queue)
    plan.options run.now run.event.provider with ⟨error | ⟨launched, report⟩, later, answered⟩
  · refine ⟨_, ?_, .inl ⟨error, rfl, ?_, rfl⟩⟩ <;> rfl
  · refine ⟨_, ?_, .inr ⟨launched, report, rfl, ?_, rfl⟩⟩ <;> rfl

def callAll (plan : PhasePlan σ) (hook : Hook) (handlers : List (Handler σ)) (run : PhaseRun σ) :
    Except Error Unit × PhaseRun σ :=
  inOrder (PhaseRun.perform plan) (handlers.map (.call hook)) run

def launched? (dispatcher : Dispatcher σ) (topology : Topology) (cluster : Cluster) (now : Nat) (state : σ) :
    Option Launch.Answer :=
  let plan := dispatcher.planOf .bootstrap topology
  match dispatcher.handlersFor .bootstrap topology cluster with
  | .error _ => none
  | .ok handlers =>
      match callAll plan .before handlers (dispatcher.begun .bootstrap topology cluster now state) with
      | (.error _, _) => none
      | (.ok (), run) => some (launchIn plan run).1

section

variable (dispatcher : Dispatcher σ) (topology : Topology) (cluster : Cluster) (now : Nat) (state : σ)

-- What BOOTSTRAP can come to: it does not begin; a hook fails before the launch; the launch
-- fails; or the hooks after it decide.
inductive Bootstraps : Except Error Unit → Cluster → σ → Prop where
  | refused {error : Error} (found : dispatcher.handlersFor .bootstrap topology cluster = .error error) :
      Bootstraps (.error error) cluster state
  | stopped {handlers : List (Handler σ)} {error : Error} {run : PhaseRun σ}
      (found : dispatcher.handlersFor .bootstrap topology cluster = .ok handlers)
      (fails : callAll (dispatcher.planOf .bootstrap topology) .before handlers
        (dispatcher.begun .bootstrap topology cluster now state) = (.error error, run)) :
      Bootstraps (.error error) run.event.cluster run.event.provider
  | launchFails {handlers : List (Handler σ)} {error : LaunchError} {run : PhaseRun σ}
      (found : dispatcher.handlersFor .bootstrap topology cluster = .ok handlers)
      (passes : callAll (dispatcher.planOf .bootstrap topology) .before handlers
        (dispatcher.begun .bootstrap topology cluster now state) = (.ok (), run))
      (answer : (launchIn (dispatcher.planOf .bootstrap topology) run).1 = .error error) :
      Bootstraps (.error (.launch error)) run.event.cluster
        (launchIn (dispatcher.planOf .bootstrap topology) run).2.2
  | launches {handlers : List (Handler σ)} {launched : Cluster} {report : LaunchReport}
      {run next ended : PhaseRun σ} {result : Except Error Unit}
      (found : dispatcher.handlersFor .bootstrap topology cluster = .ok handlers)
      (passes : callAll (dispatcher.planOf .bootstrap topology) .before handlers
        (dispatcher.begun .bootstrap topology cluster now state) = (.ok (), run))
      (answer : (launchIn (dispatcher.planOf .bootstrap topology) run).1 = .ok (launched, report))
      (provider : next.event.provider = (launchIn (dispatcher.planOf .bootstrap topology) run).2.2)
      (same : next.event.cluster = launched.setProperties run.event.cluster.properties)
      (ends : callAll (dispatcher.planOf .bootstrap topology) .after handlers next = (result, ended)) :
      Bootstraps result ended.event.cluster ended.event.provider

theorem bootstraps : Bootstraps dispatcher topology cluster now state
    (dispatcher.run .bootstrap topology cluster now state).result
    (dispatcher.run .bootstrap topology cluster now state).cluster
    (dispatcher.run .bootstrap topology cluster now state).state := by
  have steps (handlers : List (Handler σ)) : Phase.bootstrap.steps handlers =
      handlers.map (.call .before) ++ .effect .launch :: handlers.map (.call .after) := by
    simp [Phase.steps, Phase.effects]
  unfold run
  split
  · rename_i error found
    exact .refused found
  · rename_i handlers found
    dsimp only
    rw [steps, inOrder_append]
    rcases first : callAll (dispatcher.planOf .bootstrap topology) .before handlers
      (dispatcher.begun .bootstrap topology cluster now state) with ⟨error | _, run⟩
    · have stops := first
      unfold callAll planOf begun at stops
      rw [stops]
      exact .stopped found first
    · have passes := first
      unfold callAll planOf begun at passes
      rw [passes]
      dsimp only
      obtain ⟨next, provider,
          ⟨error, answer, same, performed⟩ | ⟨launched, report, answer, same, performed⟩⟩ :=
        launch_cases (dispatcher.planOf .bootstrap topology) run
      · unfold inOrder
        unfold planOf at performed
        rw [performed]
        change Bootstraps _ _ _ _ _ (.error (.launch error)) next.event.cluster next.event.provider
        rw [provider, same]
        exact .launchFails found first answer
      · unfold inOrder
        unfold planOf at performed
        rw [performed]
        exact .launches found first answer provider same rfl

variable {dispatcher topology cluster now state}

theorem launched?_of_passes {handlers : List (Handler σ)} {run : PhaseRun σ}
    (found : dispatcher.handlersFor .bootstrap topology cluster = .ok handlers)
    (passes : callAll (dispatcher.planOf .bootstrap topology) .before handlers
      (dispatcher.begun .bootstrap topology cluster now state) = (.ok (), run)) :
    dispatcher.launched? topology cluster now state =
      some (launchIn (dispatcher.planOf .bootstrap topology) run).1 := by
  unfold launched?
  rw [found]
  dsimp only
  rw [passes]

end

-- A hook that fails tells of its handler and its phase.
theorem hook_fails (plan : PhasePlan σ) {hook : Hook} {handlers : List (Handler σ)} {run ended : PhaseRun σ}
    {error : Error} (fails : callAll plan hook handlers run = (.error error, ended)) :
    ∃ role cause, error = .handler role plan.phase hook cause := by
  unfold callAll at fails
  induction handlers generalizing run with
  | nil => cases fails
  | cons handler rest ih =>
      rw [List.map_cons, inOrder] at fails
      split at fails
      · exact ih fails
      · rename_i failed
        cases fails
        change PhaseRun.call plan hook handler run = _ at failed
        unfold PhaseRun.call at failed
        split at failed
        · cases failed
        · cases failed
          exact ⟨_, _, rfl⟩

theorem callAll_spares {part : σ → Simulation} (plan : PhasePlan σ)
    (shows : plan.provider.Shows Simulation.provider part) {handlers : List (Handler σ)}
    (spares : ∀ handler ∈ handlers, handler.Spares part) (hook : Hook) (run : PhaseRun σ) :
    PhaseRun.Spares part run (callAll plan hook handlers run).2 := by
  refine PhaseRun.inOrder_spares plan shows ?_ run
  intro step member
  obtain ⟨handler, among, rfl⟩ := List.mem_map.mp member
  exact spares handler among

/-! ### What is known afterwards -/

theorem launchIn_running {dispatcher : Dispatcher σ} {part : σ → Simulation}
    (shows : dispatcher.provider.Shows Simulation.provider part) {topology : Topology} (run : PhaseRun σ) :
    ∃ report, Launch.Answer.report? (launchIn (dispatcher.planOf .bootstrap topology) run).1 = some report ∧
      ∀ id ∈ (part (launchIn (dispatcher.planOf .bootstrap topology) run).2.2).runningIds,
        id ∈ (part run.event.provider).runningIds ∨
          id ∈ report.instances.map Instance.id ∨ id ∈ report.orphaned :=
  Launch.run_running shows topology (PhaseRun.bootScript topology run.event.queue) dispatcher.options run.now
    run.event.provider

-- How a machine may be known after BOOTSTRAP, or have been forgotten: in the answer of a phase
-- that succeeds, in the report of a launch that fails, in a report that is put aside, or in a
-- cluster that is not handed on.
inductive Remembers (launched? : Option Launch.Answer) (result : Except Error Unit) (cluster : Cluster)
    (id : String) : Prop where
  | listed (succeeds : result = .ok ()) (listed : id ∈ cluster.ids)
  | reported {error : LaunchError} {report : LaunchReport} (fails : result = .error (.launch error))
      (reported : error.report? = some report)
      (named : id ∈ report.instances.map Instance.id ∨ id ∈ report.orphaned)
  | putAside {launched : Cluster} {report : LaunchReport}
      (answer : launched? = some (.ok (launched, report))) (orphaned : id ∈ report.orphaned)
  | notHandedOn {role : String} {cause : Error}
      (fails : result = .error (.handler role .bootstrap .after cause))

section

variable (dispatcher : Dispatcher σ) {part : σ → Simulation}

/-- After BOOTSTRAP a machine runs that ran before, or is remembered, or forgotten in one
of the two ways there are. -/
theorem bootstrap_remembers (shows : dispatcher.provider.Shows Simulation.provider part)
    (spares : dispatcher.registry.Spares part) (topology : Topology) (cluster : Cluster) (now : Nat)
    (state : σ) :
    let outcome := dispatcher.run .bootstrap topology cluster now state
    (outcome.result = .ok () → outcome.cluster.name = topology.clusterName) ∧
    ∀ id ∈ (part outcome.state).runningIds, id ∈ (part state).runningIds ∨
      Remembers (dispatcher.launched? topology cluster now state) outcome.result outcome.cluster id := by
  have bootstraps := dispatcher.bootstraps topology cluster now state
  dsimp only
  generalize (dispatcher.run .bootstrap topology cluster now state).result = result at bootstraps ⊢
  generalize (dispatcher.run .bootstrap topology cluster now state).cluster = after at bootstraps ⊢
  generalize (dispatcher.run .bootstrap topology cluster now state).state = answered at bootstraps ⊢
  cases bootstraps with
  | refused found => exact ⟨nofun, fun id runs => .inl runs⟩
  | stopped found fails =>
      have spared := callAll_spares (dispatcher.planOf .bootstrap topology) shows
        (registered_of_handlersFor spares found) .before
        (dispatcher.begun .bootstrap topology cluster now state)
      rw [fails] at spared
      exact ⟨nofun, fun id runs => .inl (spared.running id runs)⟩
  | launchFails found passes answer =>
      rename_i handlers error run
      have spared := callAll_spares (dispatcher.planOf .bootstrap topology) shows
        (registered_of_handlersFor spares found) .before
        (dispatcher.begun .bootstrap topology cluster now state)
      rw [passes] at spared
      obtain ⟨report, reported, accounted⟩ := launchIn_running shows run
      rw [answer] at reported
      refine ⟨nofun, fun id runs => ?_⟩
      rcases accounted id runs with early | named
      · exact .inl (spared.running id early)
      · exact .inr (.reported rfl reported named)
  | launches found passes answer provider same ends =>
      rename_i handlers launched report run next ended
      have spared := callAll_spares (dispatcher.planOf .bootstrap topology) shows
        (registered_of_handlersFor spares found) .before
        (dispatcher.begun .bootstrap topology cluster now state)
      rw [passes] at spared
      have kept := callAll_spares (dispatcher.planOf .bootstrap topology) shows
        (registered_of_handlersFor spares found) .after next
      rw [ends] at kept
      obtain ⟨_, reported, accounted⟩ := launchIn_running shows run
      rw [answer] at reported
      cases reported
      obtain ⟨name, instances⟩ := Launch.run_ok answer
      constructor
      · intro _
        rw [kept.name, same]
        exact name
      · intro id runs
        have ran := kept.running id runs
        rw [provider] at ran
        rcases accounted id ran with early | healthy | orphaned
        · exact .inl (spared.running id early)
        · refine .inr ?_
          cases result with
          | error error =>
              obtain ⟨role, cause, rfl⟩ := hook_fails _ ends
              exact .notHandedOn rfl
          | ok =>
              refine .listed rfl (kept.listed id ?_ runs)
              rw [instances] at healthy
              rw [same]
              exact healthy
        · exact .inr (.putAside ((launched?_of_passes found passes).trans (congrArg some answer)) orphaned)

end

end Muster.Dispatcher
