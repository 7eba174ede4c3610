import Muster.Proofs.Lifecycle.Leaving

/-!
What CLEANUP comes to when it succeeds. Its destroy step then leaves the cluster empty, and
the provider has granted the request for every machine that the step found. Hooks that leave
the machines alone lead every machine of the cluster there, and none of them runs afterwards.
-/

namespace Muster

open Simulation

variable {σ : Type}

theorem Simulation.runs_after_destroy {simulation after : Simulation} {ids : List String}
    (granted : simulation.destroy ids = (.ok (), after)) {id : String} :
    id ∈ after.runningIds ↔ id ∈ simulation.runningIds ∧ id ∉ ids := by
  have created := (simulation.destroy_sameMachines ids).2
  rw [granted] at created
  rw [mem_runningIds, mem_runningIds, destroy_ok granted, mem_markDestroyed, createdIds, created, not_or,
    ← and_assoc]
  rfl

namespace PhaseRun

variable {part : σ → Simulation} (plan : PhasePlan σ) (shows : plan.provider.Shows Simulation.provider part)

include shows

theorem runs_after_granted {run next : PhaseRun σ}
    (granted : plan.provider.destroy run.event.cluster.ids run.event.provider = (.ok (), next.event.provider))
    {id : String} : id ∈ (part next.event.provider).runningIds ↔
      id ∈ (part run.event.provider).runningIds ∧ id ∉ run.event.cluster.ids := by
  have shown := shows.destroy run.event.cluster.ids run.event.provider
  rw [granted] at shown
  exact runs_after_destroy shown

theorem destroy_spares (run : PhaseRun σ) : PhaseRun.Spares part run (destroy plan run).2 := by
  obtain ⟨next, ⟨_, rfl, done⟩ | ⟨error, refused, same, done⟩ | ⟨granted, emptied, done⟩⟩ :=
    destroy_cases plan run
  · rw [done]
    exact .refl _ _
  · rw [done]
    have shown := shows.destroy run.event.cluster.ids run.event.provider
    rw [refused] at shown
    have unchanged : part next.event.provider = part run.event.provider := destroy_error shown
    exact .of_same (congrArg Cluster.name same) (congrArg Cluster.ids same) (congrArg runningIds unchanged)
  · rw [done]
    refine ⟨(congrArg Cluster.name emptied).trans rfl, ?_, ?_⟩
    · intro id runs
      exact ((runs_after_granted plan shows granted).mp runs).1
    · intro id listed runs
      exact (((runs_after_granted plan shows granted).mp runs).2 listed).elim

-- In CLEANUP every step leaves alone the machines that it does not destroy.
theorem cleanup_spares {handlers : List (Handler σ)} (spares : ∀ handler ∈ handlers, handler.Spares part)
    {step : PhaseStep σ} (member : step ∈ Phase.cleanup.steps handlers) (run : PhaseRun σ) :
    PhaseRun.Spares part run (perform plan step run).2 := by
  cases step with
  | call hook handler => exact call_spares plan (spares handler (Phase.mem_of_call member)) hook run
  | effect effect =>
      have belongs := Phase.mem_of_effect member
      simp only [Phase.effects, List.mem_cons, List.not_mem_nil, or_false] at belongs
      rcases belongs with rfl | rfl
      · exact rollOut_spares plan shows run
      · exact destroy_spares plan shows run

end PhaseRun

namespace Dispatcher

variable {dispatcher : Dispatcher σ} {topology : Topology} {cluster : Cluster} {now : Nat} {state : σ}
  {handlers : List (Handler σ)} (found : dispatcher.handlersFor .cleanup topology cluster = .ok handlers)
  (succeeds : (dispatcher.run .cleanup topology cluster now state).result = .ok ())

include found succeeds

theorem cleanup_complete :
    (dispatcher.history .cleanup topology cluster now state).map (fun entry => (entry.step, entry.result)) =
      (Phase.cleanup.steps handlers).map fun step => (step, .ok ()) := by
  rw [run_of_found now state found] at succeeds
  rw [history_of_found now state found]
  exact history_complete succeeds

-- The provider was asked for every machine that was in the cluster then, and none is left in it.
theorem cleanup_destroys : ∃ entry ∈ dispatcher.history .cleanup topology cluster now state,
    entry.left.event.cluster.ids = [] ∧ ∀ id ∈ entry.found.event.cluster.ids, dispatcher.Destroys id entry := by
  have among : (PhaseStep.effect .destroy, (.ok () : Except Error Unit)) ∈
      (Phase.cleanup.steps handlers).map fun step => (step, .ok ()) := by
    refine List.mem_map.mpr ⟨.effect .destroy, ?_, rfl⟩
    simp [Phase.steps, Phase.effects]
  rw [← cleanup_complete found succeeds] at among
  obtain ⟨⟨_, before, _, after⟩, member, same⟩ := List.mem_map.mp among
  obtain ⟨rfl, rfl⟩ := Prod.mk.inj same
  have performed := member
  rw [history_of_found now state found] at performed
  have done : PhaseRun.destroy (dispatcher.planOf .cleanup topology) before = (.ok (), after) :=
    (performed_of_mem performed).2
  refine ⟨_, member, ?_⟩
  obtain ⟨next, ⟨empty, rfl, told⟩ | ⟨_, _, _, told⟩ | ⟨granted, emptied, told⟩⟩ :=
    PhaseRun.destroy_cases (dispatcher.planOf .cleanup topology) before
  · cases told.symm.trans done
    refine ⟨empty, ?_⟩
    intro id listed
    rw [empty] at listed
    cases listed
  · cases told.symm.trans done
  · cases told.symm.trans done
    refine ⟨(congrArg Cluster.ids emptied).trans (Cluster.ids_remove_ids _), ?_⟩
    intro id listed
    exact ⟨rfl, listed, granted⟩

theorem cleanup_leaves {id : String} (listed : id ∈ cluster.ids) :
    ∃ entry ∈ dispatcher.history .cleanup topology cluster now state,
      dispatcher.Leaves .cleanup topology id entry := by
  obtain ⟨entry, member, empty, _⟩ := cleanup_destroys found succeeds
  refine history_leaves listed member ?_
  rw [empty]
  exact List.not_mem_nil

/-- Machines that hooks leave in the cluster are all destroyed. -/
theorem cleanup_destroys_all (hooks : dispatcher.registry.Within PhaseEvent.SameMachines) {id : String}
    (listed : id ∈ cluster.ids) :
    ∃ entry ∈ dispatcher.history .cleanup topology cluster now state, dispatcher.Destroys id entry := by
  obtain ⟨entry, member, leaves⟩ := cleanup_leaves found succeeds listed
  cases leaves with
  | destroyed _ destroys => exact ⟨entry, member, destroys⟩
  | @takenOut hook handler step listed does absent =>
      rw [history_of_found now state found] at member
      have among := (performed_of_mem member).1
      rw [step] at among
      obtain ⟨role, present⟩ := registered_of_found found (Phase.mem_of_call among)
      have same := hooks role handler present hook .cleanup topology entry.found.event
      rw [← does] at same
      rw [same.ids] at absent
      exact (absent listed).elim
  | replaced bootstrap => cases bootstrap

/-- No machine of the cluster runs after a CLEANUP that succeeds. -/
theorem cleanup_stops {part : σ → Simulation} (shows : dispatcher.provider.Shows Simulation.provider part)
    (spares : dispatcher.registry.Spares part) {id : String} (listed : id ∈ cluster.ids) :
    id ∉ (part (dispatcher.run .cleanup topology cluster now state).state).runningIds := by
  obtain ⟨entry, member, _, destroys⟩ := cleanup_destroys found succeeds
  rw [history_of_found now state found] at member
  rw [run_of_found now state found]
  have steps : ∀ step ∈ Phase.cleanup.steps handlers, ∀ run : PhaseRun σ, PhaseRun.Spares part run
      (PhaseRun.perform (dispatcher.planOf .cleanup topology) step run).2 := fun step among run =>
    PhaseRun.cleanup_spares (dispatcher.planOf .cleanup topology) shows
      (registered_of_handlersFor spares found) among run
  -- as long as the machine runs it is in the cluster, and so it is when the provider is asked
  have there : id ∈ (part entry.found.event.provider).runningIds → id ∈ entry.found.event.cluster.ids := by
    refine found_keeps (fun run : PhaseRun σ => id ∈ (part run.event.provider).runningIds →
      id ∈ run.event.cluster.ids) ?_ (fun _ => listed) member
    intro step among run kept runs
    have spared := steps step among run
    exact spared.listed id (kept (spared.running id runs)) runs
  refine inOrder_keeps_left (fun run : PhaseRun σ => id ∉ (part run.event.provider).runningIds) ?_ member ?_
  · intro step among run stopped runs
    exact stopped ((steps step among run).running id runs)
  · intro runs
    obtain ⟨among, performed⟩ := performed_of_mem member
    have spared := steps entry.step among entry.found
    rw [performed] at spared
    have listed := there (spared.running id runs)
    have granted := (destroys id listed).granted
    exact ((PhaseRun.runs_after_granted (dispatcher.planOf .cleanup topology) shows granted).mp
      runs).2 listed

end Dispatcher

end Muster
