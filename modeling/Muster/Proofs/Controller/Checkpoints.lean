import Muster.Proofs.Controller.Remembers
import Muster.Proofs.Lifecycle.Leaving
import Muster.Proofs.Store.Kept

/-!
The manifest that is stored is the last checkpoint. A phase changes the cluster long before
it is over, but only the save that follows a completed phase writes anything down. When a
phase or a save fails, the manifest is that of the last phase that was completed and saved,
and if there is none it is what it was before.
-/

namespace Muster

variable {σ : Type}

def blocks (phases : List Phase) : List ControlStep := phases.flatMap fun phase => [.run phase, .save]

def checkpoints : List (Performed ControlStep (Progress σ) Error) → List (Phase × Cluster)
  | ⟨.run phase, _, .ok (), ended⟩ :: ⟨.save, _, .ok (), _⟩ :: rest =>
      (phase, ended.cluster) :: checkpoints rest
  | _ :: rest => checkpoints rest
  | [] => []

theorem Manifest.toCluster_name (manifest : Manifest) : manifest.toCluster.name = manifest.clusterName :=
  Cluster.addAll_name _ _

/-- What was stored under a name still is. Where nothing was stored nothing is, unless the way
to it goes back through a directory that was missing. -/
structure Backend.Unchanged (backend : Backend) (name : String) (before after : Storage) : Prop where
  manifests : backend.SameManifests before after
  stored : ∀ kept, backend.kept? name before = some kept → backend.kept? name after = some kept
  direct : backend.IsDirect name before → backend.kept? name after = backend.kept? name before

theorem Backend.SameManifests.unchanged {backend : Backend} {before after : Storage}
    (same : backend.SameManifests before after) (name : String) : backend.Unchanged name before after :=
  ⟨same, fun _ found => same.kept?_some found, fun direct => same.kept?_eq direct⟩

namespace Controller

def history (controller : Controller σ) (operation : Operation) (site : Site σ) :
    List (Performed ControlStep (Progress σ) Error) :=
  Muster.history controller.perform operation.steps (controller.begin site)

variable {controller : Controller σ} {progress after : Progress σ}

/-! ### A phase and its save -/

section

variable (controller : Controller σ) (phase : Phase) (rest : List Phase) (progress : Progress σ)

-- How a phase with its save can go, with the history and the outcome of it and what follows.
inductive Goes : List (Performed ControlStep (Progress σ) Error) → Except Error Unit × Progress σ → Prop where
  | phaseFails {error : Error} {ended : Progress σ} (fails : controller.run phase progress = (.error error, ended)) :
      Goes [⟨.run phase, progress, .error error, ended⟩] (.error error, ended)
  | saveFails {error : Error} {ended left : Progress σ} (runs : controller.run phase progress = (.ok (), ended))
      (fails : controller.save ended = (.error error, left)) :
      Goes [⟨.run phase, progress, .ok (), ended⟩, ⟨.save, ended, .error error, left⟩] (.error error, left)
  | saved {ended left : Progress σ} (runs : controller.run phase progress = (.ok (), ended))
      (saves : controller.save ended = (.ok (), left)) :
      Goes
        (⟨.run phase, progress, .ok (), ended⟩ :: ⟨.save, ended, .ok (), left⟩ ::
          Muster.history controller.perform (blocks rest) left)
        (inOrder controller.perform (blocks rest) left)

theorem goes : Goes controller phase rest progress
    (Muster.history controller.perform (blocks (phase :: rest)) progress)
    (inOrder controller.perform (blocks (phase :: rest)) progress) := by
  have steps : blocks (phase :: rest) = .run phase :: .save :: blocks rest := rfl
  rw [steps]
  rcases ran : controller.perform (.run phase) progress with ⟨error | ⟨⟩, ended⟩
  · rw [history_of_error ran, inOrder_of_error ran]
    exact .phaseFails ran
  · rw [history_of_ok ran, inOrder_of_ok ran]
    rcases saved : controller.perform .save ended with ⟨error | ⟨⟩, left⟩
    · rw [history_of_error saved, inOrder_of_error saved]
      exact .saveFails ran saved
    · rw [history_of_ok saved, inOrder_of_ok saved]
      exact .saved ran saved

end

/-- However far phases and their saves get, the manifest of the last checkpoint is stored. -/
theorem last_checkpoint_stored (keeps : controller.backend ≠ .discard) (phases : List Phase)
    (progress : Progress σ) :
    let ended := (inOrder controller.perform (blocks phases) progress).2
    match (checkpoints (Muster.history controller.perform (blocks phases) progress)).getLast? with
    | none => controller.backend.SameManifests progress.site.storage ended.site.storage
    | some (_, cluster) => controller.Saved cluster progress.site.moment ended.site.storage := by
  induction phases generalizing progress with
  | nil => exact .of_contents (.refl _)
  | cons phase rest ih =>
      have goes := goes controller phase rest progress
      dsimp only
      generalize Muster.history controller.perform (blocks (phase :: rest)) progress = entries at goes ⊢
      generalize inOrder controller.perform (blocks (phase :: rest)) progress = outcome at goes ⊢
      have kept := controller.run_storage phase progress
      cases goes with
      | @phaseFails error ended fails =>
          rw [fails] at kept
          change controller.backend.SameManifests progress.site.storage ended.site.storage
          rw [kept.1]
          exact .of_contents (.refl _)
      | saveFails runs fails =>
          rw [runs] at kept
          exact kept.1 ▸ (save_error fails).2
      | @saved ended left runs saves =>
          rw [runs] at kept
          have later := ih left
          have stored := saved_of_save keeps saves
          have moment := (controller.save_frame ended).2.2
          rw [saves] at moment
          rw [kept.2] at moment stored
          rw [moment] at later
          simp only [checkpoints, List.getLast?_cons]
          cases last : (checkpoints (Muster.history controller.perform (blocks rest) left)).getLast? with
          | none =>
              rw [last] at later
              exact later.holds stored
          | some checkpoint =>
              rw [last] at later
              exact later

theorem launch_stored (keeps : controller.backend ≠ .discard) (site : Site σ) :
    match (checkpoints (controller.history .launch site)).getLast? with
    | none =>
        controller.backend.SameManifests site.storage (controller.execute .launch site).2.site.storage
    | some (_, cluster) =>
        controller.Saved cluster site.moment (controller.execute .launch site).2.site.storage :=
  last_checkpoint_stored keeps [.bootstrap, .configure, .start] (controller.begin site)

/-- What every phase keeps of the cluster holds at every checkpoint. -/
theorem checkpoints_keep (kept : Cluster → Prop) (phases : List Phase)
    (keeps : ∀ phase ∈ phases, ∀ progress : Progress σ, kept progress.cluster →
      kept (controller.run phase progress).2.cluster)
    (start : kept progress.cluster) :
    ∀ checkpoint ∈ checkpoints (Muster.history controller.perform (blocks phases) progress),
      kept checkpoint.2 := by
  induction phases generalizing progress with
  | nil =>
      intro checkpoint member
      cases member
  | cons phase rest ih =>
      have goes := goes controller phase rest progress
      have here := keeps phase List.mem_cons_self progress start
      generalize Muster.history controller.perform (blocks (phase :: rest)) progress = entries at goes ⊢
      generalize inOrder controller.perform (blocks (phase :: rest)) progress = outcome at goes
      cases goes with
      | phaseFails | saveFails =>
          intro checkpoint member
          cases member
      | @saved ended left runs saves =>
          rw [runs] at here
          have same := (controller.save_frame ended).1
          rw [saves] at same
          have onward : kept left.cluster := same.symm ▸ here
          intro checkpoint member
          simp only [checkpoints, List.mem_cons] at member
          rcases member with rfl | later
          · exact here
          · exact ih (fun other among => keeps other (List.mem_cons_of_mem phase among)) onward checkpoint later

theorem saved_name (hooks : controller.registry.Within PhaseEvent.SameName) {site : Site σ}
    {checkpoint : Phase × Cluster} (saved : checkpoint ∈ checkpoints (controller.history .launch site)) :
    checkpoint.2.name = controller.topology.clusterName := by
  have named : (controller.begin site).cluster.name = controller.topology.clusterName := rfl
  refine checkpoints_keep (fun cluster => cluster.name = controller.topology.clusterName)
    [.bootstrap, .configure, .start] ?_ named checkpoint saved
  intro phase _ progress same
  exact Dispatcher.run_name hooks (fun _ => rfl) same

variable (controller) (site : Site σ)

end Controller

end Muster
