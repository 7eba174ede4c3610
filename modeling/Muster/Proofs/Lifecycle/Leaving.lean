import Muster.Proofs.History
import Muster.Proofs.Lifecycle.Bootstrap

/-!
How machines leave a cluster. A machine that was there before a phase and is not there
afterwards was destroyed by CLEANUP, or a hook took it out, or BOOTSTRAP put the machines
that it launched in the place of those that were there.
-/

namespace Muster

variable {σ : Type}

/-- A launch gives the cluster the name that the topology has for it; nothing else changes
the name, if the hooks do not. -/
theorem PhaseRun.perform_name {plan : PhasePlan σ} {step : PhaseStep σ} {run : PhaseRun σ} {name : String}
    (hooks : ∀ hook handler, step = .call hook handler →
      run.event.SameName (handler.hook hook plan.phase plan.topology run.event).2)
    (launches : step = .effect .launch → name = plan.topology.clusterName)
    (same : run.event.cluster.name = name) : (PhaseRun.perform plan step run).2.event.cluster.name = name := by
  cases step with
  | call hook handler =>
      change (call plan hook handler run).2.event.cluster.name = _
      rw [call_event]
      exact (hooks hook handler rfl).trans same
  | effect effect =>
      cases effect with
      | launch =>
          obtain ⟨next, _, ⟨error, _, kept, done⟩ | ⟨launched, report, answer, kept, done⟩⟩ :=
            Dispatcher.launch_cases plan run
          · rw [done, kept]
            exact same
          · rw [done, kept]
            exact (Launch.run_ok answer).1.trans (launches rfl).symm
      | authorize =>
          change (authorize plan run).2.event.cluster.name = _
          rw [authorize_cluster]
          exact same
      | rollOut => exact (rollOut_machines plan run).name.trans same
      | destroy =>
          obtain ⟨next, ⟨_, rfl, done⟩ | ⟨_, _, kept, done⟩ | ⟨_, kept, done⟩⟩ := destroy_cases plan run
          · rw [show perform plan (.effect .destroy) next = _ from done]
            exact same
          · rw [show perform plan (.effect .destroy) run = _ from done, kept]
            exact same
          · rw [show perform plan (.effect .destroy) run = _ from done, kept]
            exact same

namespace Dispatcher

variable (dispatcher : Dispatcher σ) (phase : Phase) (topology : Topology) (cluster : Cluster) (now : Nat)
  (state : σ)

def history : List (Performed (PhaseStep σ) (PhaseRun σ) Error) :=
  match dispatcher.handlersFor phase topology cluster with
  | .error _ => []
  | .ok handlers =>
      Muster.history (PhaseRun.perform (dispatcher.planOf phase topology)) (phase.steps handlers)
        (dispatcher.begun phase topology cluster now state)

section

variable {dispatcher phase topology cluster}

theorem run_of_refused {error : Error}
    (refused : dispatcher.handlersFor phase topology cluster = .error error) :
    dispatcher.run phase topology cluster now state = ⟨.error error, dispatcher, cluster, state, now, []⟩ := by
  rw [run, refused]

-- What is done in a phase is one of its steps, done as its plan has it.
theorem performed_of_history {now : Nat} {state : σ} {entry : Performed (PhaseStep σ) (PhaseRun σ) Error}
    (member : entry ∈ dispatcher.history phase topology cluster now state) :
    ∃ handlers, dispatcher.handlersFor phase topology cluster = .ok handlers ∧ entry.step ∈ phase.steps handlers ∧
      PhaseRun.perform (dispatcher.planOf phase topology) entry.step entry.found = (entry.result, entry.left) := by
  cases found : dispatcher.handlersFor phase topology cluster with
  | error refused =>
      rw [history, found] at member
      cases member
  | ok handlers =>
      rw [history, found] at member
      exact ⟨handlers, rfl, performed_of_mem member⟩

-- A hook that was called belongs to a registered handler, and what it did is what is left.
theorem called_of_mem {now : Nat} {state : σ} {entry : Performed (PhaseStep σ) (PhaseRun σ) Error}
    (member : entry ∈ dispatcher.history phase topology cluster now state) {hook : Hook} {handler : Handler σ}
    (step : entry.step = .call hook handler) : (∃ role, dispatcher.registry.get? role = some handler) ∧
      entry.left.event = (handler.hook hook phase topology entry.found.event).2 := by
  obtain ⟨handlers, found, listed, performed⟩ := performed_of_history member
  rw [step] at listed performed
  refine ⟨registered_of_found found (Phase.mem_of_call listed), ?_⟩
  rw [← show (PhaseRun.call (dispatcher.planOf phase topology) hook handler entry.found).2 = entry.left from
    congrArg Prod.snd performed]
  exact PhaseRun.call_event _ entry.found hook handler

variable {handlers : List (Handler σ)} (found : dispatcher.handlersFor phase topology cluster = .ok handlers)

include found

theorem run_of_found :
    let ended := inOrder (PhaseRun.perform (dispatcher.planOf phase topology)) (phase.steps handlers)
      (dispatcher.begun phase topology cluster now state)
    dispatcher.run phase topology cluster now state =
      ⟨ended.1, { dispatcher with firewall := ended.2.event.firewall }, ended.2.event.cluster,
        ended.2.event.provider, ended.2.now, ended.2.deeds⟩ := by
  rw [run, found]
  rfl

theorem history_of_found : dispatcher.history phase topology cluster now state =
    Muster.history (PhaseRun.perform (dispatcher.planOf phase topology)) (phase.steps handlers)
      (dispatcher.begun phase topology cluster now state) := by
  rw [history, found]

end

structure Destroys (id : String) (entry : Performed (PhaseStep σ) (PhaseRun σ) Error) : Prop where
  step : entry.step = .effect .destroy
  listed : id ∈ entry.found.event.cluster.ids
  granted : dispatcher.provider.destroy entry.found.event.cluster.ids entry.found.event.provider =
    (.ok (), entry.left.event.provider)

inductive Leaves (id : String) (entry : Performed (PhaseStep σ) (PhaseRun σ) Error) : Prop where
  | destroyed (cleanup : phase = .cleanup) (destroys : dispatcher.Destroys id entry)
  | takenOut {hook : Hook} {handler : Handler σ} (step : entry.step = .call hook handler)
      (listed : id ∈ entry.found.event.cluster.ids)
      (does : entry.left.event = (handler.hook hook phase topology entry.found.event).2)
      (absent : id ∉ entry.left.event.cluster.ids)
  | replaced {launched : Cluster} {report : LaunchReport} (bootstrap : phase = .bootstrap)
      (step : entry.step = .effect .launch)
      (answer : (launchIn (dispatcher.planOf phase topology) entry.found).1 = .ok (launched, report))
      (absent : id ∉ launched.ids)

variable {dispatcher phase topology cluster now state}

theorem perform_leaves {id : String} {handlers : List (Handler σ)} {step : PhaseStep σ} {run after : PhaseRun σ}
    {result : Except Error Unit} (among : step ∈ phase.steps handlers)
    (performed : PhaseRun.perform (dispatcher.planOf phase topology) step run = (result, after))
    (listed : id ∈ run.event.cluster.ids) (absent : id ∉ after.event.cluster.ids) :
    dispatcher.Leaves phase topology id ⟨step, run, result, after⟩ := by
  cases step with
  | call hook handler =>
      refine .takenOut rfl listed ?_ absent
      rw [← show (PhaseRun.call (dispatcher.planOf phase topology) hook handler run).2 = after from
        congrArg Prod.snd performed]
      exact PhaseRun.call_event _ run hook handler
  | effect effect =>
      have belongs := Phase.mem_of_effect among
      cases effect with
      | launch =>
          have bootstrap : phase = .bootstrap := by
            cases phase <;> simp [Phase.effects] at belongs ⊢
          obtain ⟨next, _, ⟨error, _, same, done⟩ | ⟨launched, report, answer, same, done⟩⟩ :=
            launch_cases (dispatcher.planOf phase topology) run
          · cases performed.symm.trans done
            rw [same] at absent
            exact (absent listed).elim
          · cases performed.symm.trans done
            rw [same] at absent
            exact .replaced bootstrap rfl answer absent
      | authorize =>
          have same := PhaseRun.authorize_cluster (dispatcher.planOf phase topology) run
          rw [show PhaseRun.authorize (dispatcher.planOf phase topology) run = (result, after) from performed]
            at same
          rw [same] at absent
          exact (absent listed).elim
      | rollOut =>
          have same := (PhaseRun.rollOut_machines (dispatcher.planOf phase topology) run).ids
          rw [show PhaseRun.rollOut (dispatcher.planOf phase topology) run = (result, after) from performed]
            at same
          rw [same] at absent
          exact (absent listed).elim
      | destroy =>
          have cleanup : phase = .cleanup := by
            cases phase <;> simp [Phase.effects] at belongs ⊢
          obtain ⟨next, ⟨_, rfl, done⟩ | ⟨error, _, same, done⟩ | ⟨granted, _, done⟩⟩ :=
            PhaseRun.destroy_cases (dispatcher.planOf phase topology) run
          · cases performed.symm.trans done
            exact (absent listed).elim
          · cases performed.symm.trans done
            rw [same] at absent
            exact (absent listed).elim
          · cases performed.symm.trans done
            exact .destroyed cleanup ⟨rfl, listed, granted⟩

/-- A cluster keeps its name if the hooks keep it, and if it is called as the topology has it when
it is launched. -/
theorem run_name {name : String} (hooks : dispatcher.registry.Within PhaseEvent.SameName)
    (launches : phase = .bootstrap → name = topology.clusterName) (same : cluster.name = name) :
    (dispatcher.run phase topology cluster now state).cluster.name = name := by
  cases found : dispatcher.handlersFor phase topology cluster with
  | error error =>
      rw [run_of_refused now state found]
      exact same
  | ok handlers =>
      rw [run_of_found now state found]
      refine inOrder_keeps (fun run : PhaseRun σ => run.event.cluster.name = name) ?_ same
      intro step member run named
      refine PhaseRun.perform_name ?_ ?_ named
      · rintro hook handler rfl
        obtain ⟨role, present⟩ := registered_of_found found (Phase.mem_of_call member)
        exact hooks role handler present hook phase topology run.event
      · rintro rfl
        have belongs := Phase.mem_of_effect member
        refine launches ?_
        cases phase <;> simp [Phase.effects] at belongs ⊢

-- What is missing after some step of a phase left in that step or in an earlier one.
theorem history_leaves {id : String} (listed : id ∈ cluster.ids) {entry : Performed (PhaseStep σ) (PhaseRun σ) Error}
    (member : entry ∈ dispatcher.history phase topology cluster now state)
    (absent : id ∉ entry.left.event.cluster.ids) :
    ∃ loss ∈ dispatcher.history phase topology cluster now state, dispatcher.Leaves phase topology id loss := by
  cases found : dispatcher.handlersFor phase topology cluster with
  | error error =>
      rw [history, found] at member
      cases member
  | ok handlers =>
      rw [history_of_found now state found] at member ⊢
      obtain ⟨loss, losing, before, after⟩ :=
        history_loses (fun run : PhaseRun σ => id ∈ run.event.cluster.ids) member listed absent
      obtain ⟨among, performed⟩ := performed_of_mem losing
      exact ⟨loss, losing, perform_leaves among performed before after⟩

variable (dispatcher phase topology cluster now state)

/-- A machine that was in the cluster before a phase and is not afterwards was destroyed, or
taken out by a hook, or was not among the machines that BOOTSTRAP launched. -/
theorem machines_leave_in_a_step {id : String} (listed : id ∈ cluster.ids)
    (gone : id ∉ (dispatcher.run phase topology cluster now state).cluster.ids) :
    ∃ entry ∈ dispatcher.history phase topology cluster now state,
      dispatcher.Leaves phase topology id entry := by
  cases found : dispatcher.handlersFor phase topology cluster with
  | error error =>
      rw [run_of_refused now state found] at gone
      exact (gone listed).elim
  | ok handlers =>
      rw [run_of_found now state found] at gone
      rcases inOrder_left (PhaseRun.perform (dispatcher.planOf phase topology)) (phase.steps handlers)
        (dispatcher.begun phase topology cluster now state) with same | ⟨entry, member, last⟩
      · rw [same] at gone
        exact (gone listed).elim
      · rw [← last] at gone
        rw [← history_of_found now state found] at member
        exact history_leaves listed member gone

def workers : Dispatcher Simulation :=
  let topology := Launch.plainTopology [⟨.ofList ["worker"], 2, 50, 1⟩] 0
  .new Simulation.provider (Registry.withScripted SortedMap.empty topology) topology .none

-- CLEANUP of what was launched destroys the first worker.
theorem machines_leave_in_cleanup :
    let topology := Launch.plainTopology [⟨.ofList ["worker"], 2, 50, 1⟩] 0
    let launched := workers.run .bootstrap topology (.new "small") 0 .new
    let cleaned := workers.run .cleanup topology launched.cluster launched.now launched.state
    "stub-00001" ∈ launched.cluster.ids ∧ "stub-00001" ∉ cleaned.cluster.ids ∧
    ∃ entry ∈ workers.history .cleanup topology launched.cluster launched.now launched.state,
      workers.Leaves .cleanup topology "stub-00001" entry := by
  intro topology launched cleaned
  have listed : "stub-00001" ∈ launched.cluster.ids := by decide +kernel
  have gone : "stub-00001" ∉ cleaned.cluster.ids := by decide +kernel
  exact ⟨listed, gone, machines_leave_in_a_step workers .cleanup topology _ _ _ listed gone⟩

-- BOOTSTRAP of a cluster that has been launched already: its first worker still runs, has not
-- been destroyed, and is not in the cluster any more.
theorem bootstrap_drops_machines :
    let topology := Launch.plainTopology [⟨.ofList ["worker"], 2, 50, 1⟩] 0
    let launched := workers.run .bootstrap topology (.new "small") 0 .new
    let again := workers.run .bootstrap topology launched.cluster launched.now launched.state
    "stub-00001" ∈ launched.cluster.ids ∧ again.result = .ok () ∧ "stub-00001" ∉ again.cluster.ids ∧
    "stub-00001" ∈ again.state.runningIds ∧
    ∀ ids succeeded, Deed.destroy ids succeeded ∉ again.deeds := by
  intro topology launched again
  refine ⟨by decide +kernel, by decide +kernel, by decide +kernel, by decide +kernel, ?_⟩
  intro ids succeeded
  have deeds : again.deeds = [.hook .before "worker" true, .launch true, .hook .after "worker" true] := by
    decide +kernel
  simp [deeds]

end Dispatcher

end Muster
