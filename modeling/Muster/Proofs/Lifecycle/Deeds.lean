import Muster.Proofs.Lifecycle.Leaving

/-!
What the deeds of a phase tell. A phase that begins fails just when one of its deeds does:
there is no other way for a step to fail, and none to pass over a failure.
-/

namespace Muster

variable {σ : Type}

def Deed.succeeded : Deed → Bool
  | .hook _ _ succeeded | .launch succeeded | .authorize _ succeeded | .run _ _ succeeded
  | .destroy _ succeeded => succeeded

theorem Rollout.failure?_eq_none {rollout : Rollout σ} :
    rollout.failure? = none ↔ ∀ call ∈ rollout.calls, call.failure.isNone = true := by
  simp [failure?, List.findSome?_eq_none_iff]

namespace PhaseRun

-- Deeds are added, and the step succeeds just when they all do.
structure Tells (result : Except Error Unit) (before after : PhaseRun σ) (deeds : List Deed) : Prop where
  added : after.deeds = before.deeds ++ deeds
  result : result = .ok () ↔ ∀ deed ∈ deeds, deed.succeeded = true

variable (plan : PhasePlan σ) {before middle after : PhaseRun σ}

namespace Tells

theorem nothing (run : PhaseRun σ) : Tells (.ok ()) run run [] := ⟨by simp, by simp⟩

theorem one_ok {deed : Deed} (added : after.deeds = before.deeds ++ [deed]) (good : deed.succeeded = true) :
    Tells (.ok ()) before after [deed] := ⟨added, by simp [good]⟩

theorem one_error {deed : Deed} {error : Error} (added : after.deeds = before.deeds ++ [deed])
    (bad : deed.succeeded = false) : Tells (.error error) before after [deed] := ⟨added, by simp [bad]⟩

theorem trans {result : Except Error Unit} {first later : List Deed} (succeeds : Tells (.ok ()) before middle first)
    (next : Tells result middle after later) : Tells result before after (first ++ later) := by
  constructor
  · rw [next.added, succeeds.added, List.append_assoc]
  · have good := succeeds.result.mp rfl
    rw [next.result]
    constructor
    · intro all deed member
      rcases List.mem_append.mp member with early | late
      · exact good deed early
      · exact all deed late
    · intro all deed member
      exact all deed (List.mem_append_right _ member)

end Tells

theorem rollOut_tells (run : PhaseRun σ) :
    ∃ deeds, Tells (rollOut plan run).1 run (rollOut plan run).2 deeds := by
  simp only [rollOut]
  split
  · exact ⟨[], .nothing run⟩
  · split
    · rename_i none
      refine ⟨_, rfl, ?_⟩
      simp only [true_iff, List.mem_map, forall_exists_index, and_imp, forall_apply_eq_imp_iff₂]
      exact Rollout.failure?_eq_none.mp none
    · rename_i some
      refine ⟨_, rfl, ?_⟩
      simp only [reduceCtorEq, false_iff, List.mem_map, forall_exists_index, and_imp, forall_apply_eq_imp_iff₂]
      intro all
      cases (Rollout.failure?_eq_none.mpr all).symm.trans some

theorem perform_tells (step : PhaseStep σ) (run : PhaseRun σ) :
    ∃ deeds, Tells (perform plan step run).1 run (perform plan step run).2 deeds := by
  cases step with
  | call hook handler =>
      simp only [perform, call]
      split
      · exact ⟨_, .one_ok rfl rfl⟩
      · exact ⟨_, .one_error rfl rfl⟩
  | effect effect =>
      cases effect with
      | launch =>
          simp only [perform, launch]
          split
          · exact ⟨_, .one_error rfl rfl⟩
          · exact ⟨_, .one_ok rfl rfl⟩
      | authorize =>
          simp only [perform, authorize]
          split
          · exact ⟨_, .nothing run⟩
          · split
            · exact ⟨_, .one_error rfl rfl⟩
            · exact ⟨_, .one_ok rfl rfl⟩
      | rollOut => exact rollOut_tells plan run
      | destroy =>
          simp only [perform, destroy]
          split
          · exact ⟨_, .nothing run⟩
          · split
            · exact ⟨_, .one_error rfl rfl⟩
            · exact ⟨_, .one_ok rfl rfl⟩

theorem inOrder_tells (steps : List (PhaseStep σ)) (run : PhaseRun σ) :
    ∃ deeds, Tells (inOrder (perform plan) steps run).1 run (inOrder (perform plan) steps run).2 deeds := by
  induction steps generalizing run with
  | nil => exact ⟨[], .nothing run⟩
  | cons step rest ih =>
      obtain ⟨first, told⟩ := perform_tells plan step run
      rcases performed : perform plan step run with ⟨error | ⟨⟩, after⟩
      · rw [inOrder_of_error performed]
        rw [performed] at told
        exact ⟨first, told⟩
      · rw [inOrder_of_ok performed]
        rw [performed] at told
        obtain ⟨later, onward⟩ := ih after
        exact ⟨first ++ later, told.trans onward⟩

end PhaseRun

/-- A phase that begins succeeds just when everything that it does succeeds. -/
theorem Dispatcher.run_ok_iff {dispatcher : Dispatcher σ} {phase : Phase} {topology : Topology} {cluster : Cluster}
    (now : Nat) (state : σ) {handlers : List (Handler σ)}
    (found : dispatcher.handlersFor phase topology cluster = .ok handlers) :
    (dispatcher.run phase topology cluster now state).result = .ok () ↔
      ∀ deed ∈ (dispatcher.run phase topology cluster now state).deeds, deed.succeeded = true := by
  obtain ⟨deeds, told⟩ := PhaseRun.inOrder_tells (dispatcher.planOf phase topology)
    (phase.steps handlers) (dispatcher.begun phase topology cluster now state)
  rw [run_of_found now state found]
  simp only [told.added]
  exact told.result

end Muster
