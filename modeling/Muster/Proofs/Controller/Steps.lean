import Muster.Controller
import Muster.Proofs.Store.Kept

/-!
What single steps of an operation do to what is stored. A load and a phase change nothing
there. A save that succeeds stores the manifest of the cluster under its name; a save or a
deletion that fails leaves every manifest as it was.
-/

namespace Muster.Controller

variable {σ : Type}

def Saved (controller : Controller σ) (cluster : Cluster) (moment : Timestamp) (storage : Storage) : Prop :=
  controller.backend.Holds cluster.name (.ofCluster cluster moment) storage

variable {controller : Controller σ} {progress after : Progress σ}

theorem execute_eq {operation : Operation} {site : Site σ} {result : Except Error Unit} {ended : Progress σ}
    (done : inOrder controller.perform operation.steps (controller.begin site) = (result, ended)) :
    controller.execute operation site = (result.map fun () => ended.cluster, ended) := by
  rw [execute, done]

theorem save_cases (controller : Controller σ) (progress : Progress σ) : ∃ storage,
    let asked := controller.backend.save progress.cluster.name
      (.ofCluster progress.cluster progress.site.moment) progress.site.storage
    let left : Progress σ := { progress with site := { progress.site with storage } }
    (asked = (.ok (), storage) ∧ controller.save progress = (.ok (), left)) ∨
      ∃ cause, asked = (.error cause, storage) ∧ controller.save progress = (.error (.store cause), left) := by
  rcases asked : controller.backend.save progress.cluster.name
    (.ofCluster progress.cluster progress.site.moment) progress.site.storage with ⟨cause | ⟨⟩, storage⟩
  · refine ⟨storage, .inr ⟨cause, rfl, ?_⟩⟩
    simp only [save, Backend.saveCluster, asked]
    rfl
  · refine ⟨storage, .inl ⟨rfl, ?_⟩⟩
    simp only [save, Backend.saveCluster, asked]
    rfl

theorem saved_of_save (keeps : controller.backend ≠ .discard)
    (succeeds : controller.save progress = (.ok (), after)) :
    controller.Saved progress.cluster progress.site.moment after.site.storage := by
  obtain ⟨storage, ⟨asked, done⟩ | ⟨cause, _, done⟩⟩ := controller.save_cases progress
  · cases done.symm.trans succeeds
    exact Backend.holds_of_save keeps asked
  · cases done.symm.trans succeeds

theorem save_frame (controller : Controller σ) (progress : Progress σ) :
    (controller.save progress).2.cluster = progress.cluster ∧
      (controller.save progress).2.site.provider = progress.site.provider ∧
      (controller.save progress).2.site.moment = progress.site.moment := ⟨rfl, rfl, rfl⟩

theorem save_error {error : Error} (fails : controller.save progress = (.error error, after)) :
    (∃ cause, error = .store cause) ∧
      controller.backend.SameManifests progress.site.storage after.site.storage := by
  obtain ⟨storage, ⟨_, done⟩ | ⟨cause, asked, done⟩⟩ := controller.save_cases progress
  · cases done.symm.trans fails
  · cases done.symm.trans fails
    exact ⟨⟨cause, rfl⟩, Backend.save_error asked⟩

theorem run_storage (controller : Controller σ) (phase : Phase) (progress : Progress σ) :
    (controller.run phase progress).2.site.storage = progress.site.storage ∧
    (controller.run phase progress).2.site.moment = progress.site.moment := ⟨rfl, rfl⟩

theorem load_contents (controller : Controller σ) (progress : Progress σ) :
    progress.site.storage.SameContents (controller.load progress).2.site.storage := by
  have looked := controller.backend.load_contents controller.topology.clusterName progress.site.storage
  simp only [load, Backend.loadCluster]
  split <;> simp_all

theorem load_ok (succeeds : controller.load progress = (.ok (), after)) : ∃ manifest storage,
    controller.backend.Stores controller.topology.clusterName manifest progress.site.storage ∧
    after = { progress with site := { progress.site with storage }, cluster := manifest.toCluster } := by
  rcases loaded : controller.backend.load controller.topology.clusterName progress.site.storage
    with ⟨error | manifest, storage⟩
  · simp only [load, Backend.loadCluster, loaded] at succeeds
    cases succeeds
  · simp only [load, Backend.loadCluster, loaded] at succeeds
    cases succeeds
    exact ⟨manifest, storage, Backend.stores_of_load (congrArg Prod.fst loaded), rfl⟩

theorem load_calm (calm : progress.site.storage.Calm) :
    (controller.load progress).2.site.storage.Calm := by
  have kept : (controller.backend.load controller.topology.clusterName progress.site.storage).2.Calm :=
    Backend.load_calm calm
  simp only [load, Backend.loadCluster]
  split <;> simp_all

theorem load_drafts (controller : Controller σ) (progress : Progress σ) :
    (controller.load progress).2.site.storage.drafts = progress.site.storage.drafts := by
  have kept := controller.backend.load_drafts controller.topology.clusterName progress.site.storage
  simp only [load, Backend.loadCluster]
  split <;> simp_all

theorem load_succeeds {manifest : Manifest} (calm : progress.site.storage.Calm)
    (stores : controller.backend.Stores controller.topology.clusterName manifest progress.site.storage) :
    (controller.load progress).1 = .ok () := by
  simp only [load, Backend.loadCluster, Backend.load_of_calm calm stores]
  rfl

theorem delete_cases (controller : Controller σ) (progress : Progress σ) : ∃ storage,
    let asked := controller.backend.delete progress.cluster.name progress.site.storage
    let left : Progress σ := { progress with site := { progress.site with storage } }
    (asked = (.ok (), storage) ∧ controller.delete progress = (.ok (), left)) ∨
      ∃ cause, asked = (.error cause, storage) ∧ controller.delete progress = (.error (.store cause), left) := by
  rcases asked : controller.backend.delete progress.cluster.name progress.site.storage
    with ⟨cause | ⟨⟩, storage⟩
  · refine ⟨storage, .inr ⟨cause, rfl, ?_⟩⟩
    simp only [delete, asked]
    rfl
  · refine ⟨storage, .inl ⟨rfl, ?_⟩⟩
    simp only [delete, asked]
    rfl

theorem delete_error {error : Error} (fails : controller.delete progress = (.error error, after)) :
    progress.site.storage.SameContents after.site.storage := by
  obtain ⟨storage, ⟨_, done⟩ | ⟨cause, asked, done⟩⟩ := controller.delete_cases progress
  · cases done.symm.trans fails
  · cases done.symm.trans fails
    exact Backend.delete_error asked

-- When nothing in the store gets in the way, what is deleted cannot be loaded any more.
theorem delete_succeeds {manifest : Manifest} (calm : progress.site.storage.Calm)
    (stores : controller.backend.Stores progress.cluster.name manifest progress.site.storage) :
    ∃ storage, controller.delete progress =
        (.ok (), { progress with site := { progress.site with storage } }) ∧
      (controller.backend.load progress.cluster.name storage).1 = .error (.notFound progress.cluster.name) := by
  have granted := Backend.delete_of_calm calm stores
  have still : (controller.backend.delete progress.cluster.name progress.site.storage).2.Calm :=
    Backend.delete_calm calm
  obtain ⟨storage, ⟨asked, done⟩ | ⟨cause, asked, _⟩⟩ := controller.delete_cases progress
  · rw [asked] at still
    exact ⟨storage, done, Backend.load_of_delete asked still⟩
  · rw [asked] at granted
    cases granted

end Muster.Controller
