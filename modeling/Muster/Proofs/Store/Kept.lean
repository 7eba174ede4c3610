import Muster.Proofs.Store.Drafts

/-!
What a backend keeps under a name, seen from outside: nothing, or something that can be
read as a manifest or not. A load only looks at it, a request that fails leaves it alone,
and after a deletion there is nothing. Requests may fail for reasons of their own at any
time; a storage is calm while none does.
-/

namespace Muster

inductive Kept where
  | content (content : Content)
  | manifest (manifest : Manifest)
  deriving DecidableEq

def Kept.read (name : String) : Kept → Except StoreError Manifest
  | .content (.text text) => Manifest.decode name text
  | .content .binary => .error (.corrupt name "")
  | .manifest kept => .ok kept

namespace Storage

-- The same things are there, whatever was asked for and whichever requests are to fail.
structure SameContents (before after : Storage) : Prop where
  tree : after.disk.tree = before.disk.tree
  blobsAt : ∀ place, (after.blobsAt place).contents = (before.blobsAt place).contents
  memory : after.memory = before.memory

structure Calm (storage : Storage) : Prop where
  disk : ∀ request, storage.disk.outage request = false
  blobsAt : ∀ place request number, (storage.blobsAt place).outage request number = false

variable {before middle after storage : Storage}

namespace SameContents

theorem refl (storage : Storage) : SameContents storage storage := ⟨rfl, fun _ => rfl, rfl⟩

theorem trans (first : SameContents before middle) (second : SameContents middle after) :
    SameContents before after :=
  ⟨second.tree.trans first.tree, fun place => (second.blobsAt place).trans (first.blobsAt place),
    second.memory.trans first.memory⟩

theorem symm (same : SameContents before after) : SameContents after before :=
  ⟨same.tree.symm, fun place => (same.blobsAt place).symm, same.memory.symm⟩

theorem of_disk {disk : Disk} (same : disk.tree = storage.disk.tree) :
    SameContents storage { storage with disk } := by
  refine ⟨same, ?_, rfl⟩
  rintro (_ | _) <;> rfl

theorem of_blobs {place : BlobPlace} {blobs : Blobs}
    (same : blobs.contents = (storage.blobsAt place).contents) :
    SameContents storage (storage.setBlobs place blobs) := by
  refine ⟨?_, ?_, ?_⟩
  · cases place <;> rfl
  · intro other
    cases place <;> cases other <;> first | rfl | exact same
  · cases place <;> rfl

end SameContents

namespace Calm

theorem of_disk {disk : Disk} (calm : storage.Calm) (same : disk.outage = storage.disk.outage) :
    Storage.Calm { storage with disk } := by
  constructor
  · intro request
    exact same ▸ calm.disk request
  · rintro (_ | _)
    · exact calm.blobsAt .provider
    · exact calm.blobsAt .scratch

theorem of_blobs {place : BlobPlace} {blobs : Blobs} (calm : storage.Calm)
    (same : blobs.outage = (storage.blobsAt place).outage) : (storage.setBlobs place blobs).Calm := by
  constructor
  · cases place <;> exact calm.disk
  · intro other request number
    have quiet : blobs.outage request number = false := same ▸ calm.blobsAt place request number
    by_cases here : other = place
    · rw [here, blobsAt_setBlobs]
      exact quiet
    · have elsewhere : (storage.setBlobs place blobs).blobsAt other = storage.blobsAt other := by
        cases place <;> cases other <;> first | rfl | exact (here rfl).elim
      rw [elsewhere]
      exact calm.blobsAt other request number

end Calm

end Storage

/-! ### Blobs -/

namespace Blobs

variable {blobs after : Blobs} {key : BlobKey} {content : Content}

theorem put_error {error : ProviderError} (fails : blobs.put key content = (.error error, after)) :
    after.contents = blobs.contents := by
  simp only [put] at fails
  split at fails
  · cases fails
    rfl
  · cases fails

theorem get_frame (blobs : Blobs) (key : BlobKey) :
    (blobs.get key).2.contents = blobs.contents ∧ (blobs.get key).2.outage = blobs.outage := by
  simp only [get]
  split
  · exact ⟨rfl, rfl⟩
  · split <;> exact ⟨rfl, rfl⟩

theorem delete_error {error : ProviderError} (fails : blobs.delete key = (.error error, after)) :
    after.contents = blobs.contents := by
  simp only [delete] at fails
  split at fails
  · cases fails
    rfl
  · cases fails

theorem delete_ok (succeeds : blobs.delete key = (.ok (), after)) :
    after.contents = blobs.contents.erase key := by
  simp only [delete] at succeeds
  split at succeeds
  · cases succeeds
  · cases succeeds
    rfl

theorem delete_outage (blobs : Blobs) (key : BlobKey) : (blobs.delete key).2.outage = blobs.outage := by
  simp only [delete]
  split <;> rfl

theorem get_of_calm (key : BlobKey) (calm : ∀ request number, blobs.outage request number = false) :
    (blobs.get key).1 = match blobs.contents.get? key with
      | some content => .ok content
      | none => .error (.blobNotFound (key.container ++ "/" ++ key.name)) := by
  have quiet : blobs.failure? .get = none := by simp [failure?, calm]
  simp only [get, quiet]
  cases blobs.contents.get? key <;> rfl

end Blobs

namespace Store

theorem Files.load_frame (home name : String) (disk : Disk) :
    (Files.load home name disk).2.tree = disk.tree ∧ (Files.load home name disk).2.outage = disk.outage := by
  have looked : (disk.read (Path.names (manifestPath home name))).2.tree = disk.tree ∧
      (disk.read (Path.names (manifestPath home name))).2.outage = disk.outage := by
    simp only [Disk.read]
    split <;> exact ⟨rfl, rfl⟩
  simp only [load]
  split <;> simp_all

def Files.answer (name : String) : Except FileFault Content → Except StoreError Manifest
  | .ok (.text text) => Manifest.decode name text
  | .ok .binary => .error (.corrupt name "")
  | .error .missing => .error (.notFound name)
  | .error _ => .error (.corrupt name "")

theorem Files.load_answer (home name : String) (disk : Disk) :
    (Files.load home name disk).1 = answer name (disk.read (Path.names (manifestPath home name))).1 := by
  simp only [load, answer]
  split <;> simp_all

theorem Container.load_frame (container : String) (given : Option String) (name : String) (blobs : Blobs) :
    (Container.load container given name blobs).2.contents = blobs.contents ∧
      (Container.load container given name blobs).2.outage = blobs.outage := by
  have looked := blobs.get_frame (blobKey container given name)
  simp only [load]
  split <;> simp_all

theorem Files.delete_outage (home name : String) (disk : Disk) :
    (Files.delete home name disk).2.outage = disk.outage := by
  have removed := disk.take_outage (.removeFile (Path.names (manifestPath home name)))
  have discarded (left : Disk) : (discardDirectory home name left).outage = left.outage := left.take_outage _
  simp only [delete]
  split <;> simp_all

theorem Container.delete_outage (container : String) (given : Option String) (name : String) (blobs : Blobs) :
    (Container.delete container given name blobs).2.outage = blobs.outage := by
  have asked := blobs.delete_outage (blobKey container given name)
  simp only [delete]
  split <;> simp_all

namespace Container

def answer (name : String) : Option Content → Except StoreError Manifest
  | some (.text text) => Manifest.decode name text
  | some .binary => .error (.corrupt name "")
  | none => .error (.notFound name)

variable {container name text : String} {given : Option String} {blobs after : Blobs} {error : StoreError}

theorem load_of_calm (calm : ∀ request number, blobs.outage request number = false) (container : String)
    (given : Option String) (name : String) :
    (load container given name blobs).1 = answer name (blobs.contents.get? (blobKey container given name)) := by
  have asked := Blobs.get_of_calm (blobKey container given name) calm
  simp only [load]
  rcases got : blobs.get (blobKey container given name) with ⟨result, left⟩
  rw [got] at asked
  dsimp only at asked
  subst asked
  rcases blobs.contents.get? (blobKey container given name) with _ | (_ | _) <;> rfl

theorem save_error (fails : save container given name text blobs = (.error error, after)) :
    after.contents = blobs.contents := by
  simp only [save] at fails
  split at fails
  · cases fails
  · rename_i answer
    cases fails
    exact Blobs.put_error answer

theorem delete_error (fails : delete container given name blobs = (.error error, after)) :
    after.contents = blobs.contents := by
  simp only [delete] at fails
  split at fails
  · cases fails
  · rename_i answer
    cases fails
    exact Blobs.delete_error answer

theorem delete_ok (succeeds : delete container given name blobs = (.ok (), after)) :
    after.contents = blobs.contents.erase (blobKey container given name) := by
  simp only [delete] at succeeds
  split at succeeds
  · rename_i answer
    cases succeeds
    exact Blobs.delete_ok answer
  · cases succeeds

end Container

end Store

/-! ### Backends -/

namespace Backend

variable {backend : Backend} {name : String} {manifest : Manifest} {kept : Kept}
  {before storage after : Storage}

def kept? (backend : Backend) (name : String) (storage : Storage) : Option Kept :=
  match backend with
  | files home =>
      (storage.disk.tree.read (Path.names (Store.Files.manifestPath home name))).toOption.map .content
  | blob place container given =>
      ((storage.blobsAt place).contents.get? (Store.Container.blobKey container given name)).map .content
  | memory => (storage.memory.get? name).map .manifest
  | discard => none

section

variable (home container : String) (place : BlobPlace) (given : Option String)

theorem save_files : (files home).save name manifest storage =
    ((Store.Files.save home name storage.draft manifest.encode storage.disk).1,
      { storage with disk := (Store.Files.save home name storage.draft manifest.encode storage.disk).2 }) := rfl

theorem save_blob : (blob place container given).save name manifest storage =
    ((Store.Container.save container given name manifest.encode (storage.blobsAt place)).1,
      storage.setBlobs place
        (Store.Container.save container given name manifest.encode (storage.blobsAt place)).2) := rfl

theorem load_files : (files home).load name storage =
    ((Store.Files.load home name storage.disk).1,
      { storage with disk := (Store.Files.load home name storage.disk).2 }) := rfl

theorem load_blob : (blob place container given).load name storage =
    ((Store.Container.load container given name (storage.blobsAt place)).1,
      storage.setBlobs place (Store.Container.load container given name (storage.blobsAt place)).2) := rfl

theorem delete_files : (files home).delete name storage =
    ((Store.Files.delete home name storage.disk).1,
      { storage with disk := (Store.Files.delete home name storage.disk).2 }) := rfl

theorem delete_blob : (blob place container given).delete name storage =
    ((Store.Container.delete container given name (storage.blobsAt place)).1,
      storage.setBlobs place (Store.Container.delete container given name (storage.blobsAt place)).2) := rfl

end

def Stores (backend : Backend) (name : String) (manifest : Manifest) (storage : Storage) : Prop :=
  ∃ kept, backend.kept? name storage = some kept ∧ kept.read name = .ok manifest

def form (backend : Backend) (manifest : Manifest) : Kept :=
  match backend with
  | memory => .manifest manifest
  | files _ | blob .. | discard => .content (.text manifest.encode)

theorem kept?_files {home : String} : (files home).kept? name storage = some kept ↔
    ∃ content, storage.disk.tree.read (Path.names (Store.Files.manifestPath home name)) = .ok content ∧
      .content content = kept := by
  simp only [kept?]
  cases storage.disk.tree.read (Path.names (Store.Files.manifestPath home name)) <;> simp [Except.toOption]

theorem holds_iff : backend.Holds name manifest storage ↔
    backend.kept? name storage = some (backend.form manifest) := by
  cases backend with
  | files home =>
      simp only [Holds, kept?, form]
      cases storage.disk.tree.read (Path.names (Store.Files.manifestPath home name)) <;> simp [Except.toOption]
  | blob place container given => simp [Holds, kept?, form]
  | memory => simp [Holds, kept?, form]
  | discard => simp [Holds, kept?]

theorem kept?_of_contents (same : before.SameContents after) :
    backend.kept? name after = backend.kept? name before := by
  cases backend with
  | files home => simp only [kept?, same.tree]
  | blob place container given => simp only [kept?, same.blobsAt place]
  | memory => simp only [kept?, same.memory]
  | discard => rfl

theorem Stores.of_contents (stores : backend.Stores name manifest before) (same : before.SameContents after) :
    backend.Stores name manifest after := by
  obtain ⟨kept, found, reads⟩ := stores
  exact ⟨kept, (kept?_of_contents same).trans found, reads⟩

/-! #### Loading -/

theorem load_contents (backend : Backend) (name : String) (storage : Storage) :
    storage.SameContents (backend.load name storage).2 := by
  cases backend with
  | files home =>
      rw [load_files]
      exact .of_disk (Store.Files.load_frame home name storage.disk).1
  | blob place container given =>
      rw [load_blob]
      exact .of_blobs (Store.Container.load_frame container given name _).1
  | memory =>
      simp only [load]
      split <;> exact .refl _
  | discard => exact .refl _

theorem load_calm (calm : storage.Calm) : (backend.load name storage).2.Calm := by
  cases backend with
  | files home =>
      rw [load_files]
      exact calm.of_disk (Store.Files.load_frame home name storage.disk).2
  | blob place container given =>
      rw [load_blob]
      exact calm.of_blobs (Store.Container.load_frame container given name _).2
  | memory =>
      simp only [load]
      split <;> exact calm
  | discard => exact calm

theorem load_drafts (backend : Backend) (name : String) (storage : Storage) :
    (backend.load name storage).2.drafts = storage.drafts := by
  cases backend with
  | files | discard => rfl
  | blob place => cases place <;> rfl
  | memory =>
      simp only [load]
      split <;> rfl

theorem stores_of_load (loaded : (backend.load name storage).1 = .ok manifest) :
    backend.Stores name manifest storage := by
  cases backend with
  | files home =>
      rw [load_files] at loaded
      simp only [Store.Files.load, Disk.read] at loaded
      split at loaded
      · rename_i text _ answer
        split at answer
        · cases answer
        · exact ⟨.content (.text text), kept?_files.mpr ⟨_, (Prod.mk.inj answer).1, rfl⟩, loaded⟩
      all_goals cases loaded
  | blob place container given =>
      rw [load_blob] at loaded
      simp only [Store.Container.load, Blobs.get] at loaded
      split at loaded
      · rename_i text _ answer
        split at answer
        · cases answer
        · split at answer
          · rename_i content found
            cases answer
            exact ⟨.content (.text text), Option.map_eq_some_iff.mpr ⟨_, found, rfl⟩, loaded⟩
          · cases answer
      all_goals cases loaded
  | memory =>
      simp only [load] at loaded
      split at loaded
      · rename_i found present
        cases loaded
        exact ⟨.manifest manifest, Option.map_eq_some_iff.mpr ⟨_, present, rfl⟩, rfl⟩
      · cases loaded
  | discard => cases loaded

theorem load_of_calm (calm : storage.Calm) (stores : backend.Stores name manifest storage) :
    (backend.load name storage).1 = .ok manifest := by
  obtain ⟨kept, found, reads⟩ := stores
  cases backend with
  | files home =>
      obtain ⟨content, holds, rfl⟩ := kept?_files.mp found
      rw [load_files, Store.Files.load_answer]
      simp only [Disk.read, Disk.fails, calm.disk, holds]
      cases content with
      | text text => exact reads
      | binary => cases reads
  | blob place container given =>
      obtain ⟨content, present, rfl⟩ := Option.map_eq_some_iff.mp found
      rw [load_blob, Store.Container.load_of_calm (calm.blobsAt place), present]
      cases content with
      | text text => exact reads
      | binary => cases reads
  | memory =>
      obtain ⟨there, present, rfl⟩ := Option.map_eq_some_iff.mp found
      simp only [load, present]
      exact reads
  | discard => cases found

/-! #### Requests that fail -/

/-- The manifests are the same; directories and drafts may have come. -/
def SameManifests (backend : Backend) (before after : Storage) : Prop :=
  match backend with
  | files _ => before.disk.tree.KeepsManifests after.disk.tree
  | blob place _ _ => (after.blobsAt place).contents = (before.blobsAt place).contents
  | memory => after.memory = before.memory
  | discard => True

namespace SameManifests

theorem of_contents (same : before.SameContents after) : backend.SameManifests before after := by
  cases backend with
  | files home =>
      simp only [SameManifests, same.tree]
      exact .refl _
  | blob place container given => exact same.blobsAt place
  | memory => exact same.memory
  | discard => trivial

theorem kept?_some (same : backend.SameManifests before after) (found : backend.kept? name before = some kept) :
    backend.kept? name after = some kept := by
  cases backend with
  | files home =>
      obtain ⟨content, holds, rfl⟩ := kept?_files.mp found
      rw [Store.Files.names_manifestPath] at holds
      refine kept?_files.mpr ⟨content, ?_, rfl⟩
      rw [Store.Files.names_manifestPath]
      exact FileTree.KeepsManifests.read_manifest same holds
  | blob place container given =>
      simp only [SameManifests] at same
      simpa only [kept?, same] using found
  | memory =>
      simp only [SameManifests] at same
      simpa only [kept?, same] using found
  | discard => cases found

theorem holds (same : backend.SameManifests before after) (held : backend.Holds name manifest before) :
    backend.Holds name manifest after :=
  holds_iff.mpr (same.kept?_some (holds_iff.mp held))

end SameManifests

/-- The way to the manifest of a name only goes forward, and on the disk every file is in
a directory. -/
def IsDirect (backend : Backend) (name : String) (storage : Storage) : Prop :=
  match backend with
  | files home => ".." ∉ Path.names (Store.Files.clusterDirectory home name) ∧ storage.disk.tree.Grounded
  | blob .. | memory | discard => True

-- Directories that are made on a way that goes back could lead to what was out of reach.
theorem SameManifests.kept?_eq (same : backend.SameManifests before after)
    (direct : backend.IsDirect name before) : backend.kept? name after = backend.kept? name before := by
  cases found : backend.kept? name before with
  | some kept => exact same.kept?_some found
  | none =>
      cases backend with
      | files home =>
          refine Option.eq_none_iff_forall_ne_some.mpr ?_
          intro kept there
          obtain ⟨content, holds, _⟩ := kept?_files.mp there
          rw [Store.Files.names_manifestPath] at holds
          have already := FileTree.KeepsManifests.read_eq same direct.2 direct.1 holds
          rw [← Store.Files.names_manifestPath] at already
          cases found.symm.trans (kept?_files.mpr ⟨content, already, rfl⟩)
      | blob place container given =>
          simp only [SameManifests] at same
          simpa only [kept?, same] using found
      | memory =>
          simp only [SameManifests] at same
          simpa only [kept?, same] using found
      | discard => rfl

theorem save_error {error : StoreError} (fails : backend.save name manifest storage = (.error error, after)) :
    backend.SameManifests storage after := by
  cases backend with
  | files home =>
      rw [save_files, Prod.mk.injEq] at fails
      obtain ⟨failed, rfl⟩ := fails
      exact Store.Files.save_error (Prod.ext failed rfl)
  | blob place container given =>
      rw [save_blob, Prod.mk.injEq] at fails
      obtain ⟨failed, rfl⟩ := fails
      simp only [SameManifests, Storage.blobsAt_setBlobs]
      exact Store.Container.save_error (Prod.ext failed rfl)
  | memory => cases fails
  | discard => cases fails

/-! #### Deleting -/

theorem delete_error {error : StoreError} (fails : backend.delete name storage = (.error error, after)) :
    storage.SameContents after := by
  cases backend with
  | files home =>
      rw [delete_files, Prod.mk.injEq] at fails
      obtain ⟨failed, rfl⟩ := fails
      exact .of_disk (Store.Files.delete_error (Prod.ext failed rfl))
  | blob place container given =>
      rw [delete_blob, Prod.mk.injEq] at fails
      obtain ⟨failed, rfl⟩ := fails
      exact .of_blobs (Store.Container.delete_error (Prod.ext failed rfl))
  | memory => cases fails
  | discard => cases fails

theorem delete_calm (calm : storage.Calm) : (backend.delete name storage).2.Calm := by
  cases backend with
  | files home =>
      rw [delete_files]
      exact calm.of_disk (Store.Files.delete_outage home name storage.disk)
  | blob place container given =>
      rw [delete_blob]
      exact calm.of_blobs (Store.Container.delete_outage container given name _)
  | memory => exact ⟨calm.disk, calm.blobsAt⟩
  | discard => exact calm

theorem delete_of_calm (calm : storage.Calm) (stores : backend.Stores name manifest storage) :
    (backend.delete name storage).1 = .ok () := by
  obtain ⟨kept, found, _⟩ := stores
  cases backend with
  | files home =>
      obtain ⟨content, holds, rfl⟩ := kept?_files.mp found
      obtain ⟨left, deleted⟩ := Store.Files.delete_of_calm (calm.disk _) holds
      rw [delete_files, deleted]
  | blob place container given =>
      have quiet : (storage.blobsAt place).failure? .delete = none := by
        simp [Blobs.failure?, calm.blobsAt place]
      rw [delete_blob]
      simp only [Store.Container.delete, Blobs.delete, quiet]
  | memory => rfl
  | discard => rfl

theorem load_of_delete (deleted : backend.delete name storage = (.ok (), after)) (calm : after.Calm) :
    (backend.load name after).1 = .error (.notFound name) := by
  cases backend with
  | files home =>
      rw [delete_files, Prod.mk.injEq] at deleted
      obtain ⟨done, rfl⟩ := deleted
      have quiet : (Store.Files.delete home name storage.disk).2.outage
          (Store.Files.delete home name storage.disk).2.requests = false := calm.disk _
      rw [load_files, Store.Files.load_answer]
      simp only [Disk.read, Disk.fails, quiet, Store.Files.read_of_delete (Prod.ext done rfl)]
      rfl
  | blob place container given =>
      rw [delete_blob, Prod.mk.injEq] at deleted
      obtain ⟨done, rfl⟩ := deleted
      rw [load_blob, Store.Container.load_of_calm (calm.blobsAt place), Storage.blobsAt_setBlobs,
        Store.Container.delete_ok (Prod.ext done rfl), SortedMap.get?_erase, if_pos rfl]
      rfl
  | memory =>
      cases deleted
      simp [load]
  | discard =>
      cases deleted
      rfl

end Backend

end Muster
