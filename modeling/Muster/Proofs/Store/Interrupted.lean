import Muster.Proofs.Store.Entries

/-!
What is left of a request that fails, or of a save that is interrupted: nothing that a load
could see. A manifest is written beside the one there is and takes its place in one step, so
that at any moment a load finds one of the two, and never what has been written so far.
-/

namespace Muster

namespace FileTree

variable {tree : FileTree} {front : List String} {name : String} {content : Content}

-- A file is read on every way that leads to its place.
theorem read_of_entry (grounded : tree.Grounded) (plain : Path.Plain (front ++ [name])) (proper : name ≠ ".")
    (file : tree.entry? (Path.place (front ++ [name])) = some (.file content)) :
    tree.read (front ++ [name]) = .ok content := by
  have whole : Path.place (front ++ [name]) = Path.place front ++ [name] := by
    rw [Path.place_append, Path.place_single proper]
  have directory : tree.isDirectory (Path.place front) = true := by
    refine grounded _ name ?_
    rw [← whole, file]
    nofun
  simp only [read, locate_in_directory grounded plain directory, file]

end FileTree

namespace Store.Files

variable {home name other : String} {number : DraftNumber} {pieces : List String} {done : List FileStep} {disk : Disk}

/-- No path to a manifest leads to a draft. -/
theorem draft_is_no_manifest {tree : FileTree} {place : List String}
    (draft : tree.locate (Path.names (draftPath home name number)) = .ok place) :
    tree.locate (Path.names (manifestPath home other)) ≠ .ok place := by
  intro manifest
  rw [names_draftPath] at draft
  rw [names_manifestPath] at manifest
  have last := FileTree.last_of_locate ⟨draftFile_ne (by decide), draftFile_ne (by decide)⟩ draft
  have also := FileTree.last_of_locate (by decide) manifest
  exact draftFile_ne (by decide) (Option.some.inj (last.symm.trans also))

/-- However far a save gets, the manifests in all rooms are as before, or one is there as a whole. -/
theorem read_of_begun (plain : Path.Plain (Path.names (clusterDirectory home name))) (grounded : disk.tree.Grounded)
    (begun : done <+: saveSteps home name number pieces) :
    let left := (inOrder Disk.take done disk).2.tree
    (∀ other, OutOfTheWay home name other number →
      left.read (Path.names (manifestPath home other)) = disk.tree.read (Path.names (manifestPath home other))) ∨
    ∀ other, OutOfTheWay home name other number → left.read (Path.names (manifestPath home other)) =
      if room home other = room home name then .ok (.text (String.join pieces))
      else disk.tree.read (Path.names (manifestPath home other)) := by
  by_cases unfinished : done = saveSteps home name number pieces → (inOrder Disk.take done disk).1 ≠ .ok ()
  · left
    intro other apart
    exact read_of_draft apart (unfinished_confined plain begun disk unfinished) grounded
  · right
    intro other apart
    have confined := begun_confined plain begun disk
    push Not at unfinished
    obtain ⟨rfl, succeeds⟩ := unfinished
    by_cases same : room home other = room home name
    · rw [if_pos same]
      have written := read_of_steps (Prod.ext succeeds rfl)
      obtain ⟨place, leads, file⟩ := FileTree.read_ok written
      obtain rfl := FileTree.locate_place (plain_manifestPath plain).forward leads
      have way := plain_manifestPath apart.plain
      rw [place_manifestPath, ← same, ← place_manifestPath] at file
      rw [names_manifestPath] at way file ⊢
      exact FileTree.read_of_entry (confined.grounded grounded) way (by decide) file
    · rw [if_neg same]
      exact read_of_save_other apart same confined grounded

end Store.Files

namespace Backend

/-- What is written for one name is not on the way to the manifest of another. In files that way
only goes forward, and every file is in a directory. -/
def Apart (backend : Backend) (name other : String) (storage : Storage) : Prop :=
  match backend with
  | files home => Path.Plain (Path.names (Store.Files.clusterDirectory home name)) ∧
      Store.Files.OutOfTheWay home name other storage.draft ∧ storage.disk.tree.Grounded
  | blob .. | memory | discard => True

variable {backend : Backend} {name other : String} {manifest : Manifest} {storage after : Storage}

/-- Valid names are apart. -/
theorem apart_of_valid (orderly : backend.IsOrderly storage) (valid : isClusterName name = true)
    (validOther : isClusterName other = true) : backend.Apart name other storage := by
  cases backend with
  | files home =>
      have step := isStep_of_isClusterName valid
      exact ⟨Store.Files.plain_clusterDirectory orderly.1 step,
        Store.Files.outOfTheWay_of_step orderly.1 step (isStep_of_isClusterName validOther), orderly.2⟩
  | blob | memory | discard => trivial

theorem look_of_failed_save (apart : backend.Apart name other storage) {error : StoreError}
    (fails : backend.save name manifest storage = (.error error, after)) :
    backend.look other after = backend.look other storage := by
  cases backend with
  | files home =>
      obtain ⟨plain, apart, grounded⟩ := apart
      rw [save_files, Prod.mk.injEq] at fails
      obtain ⟨failed, rfl⟩ := fails
      have drafted := Store.Files.failed_save_confined plain (Prod.ext failed rfl)
      rw [look_files, look_files, Store.Files.read_of_draft apart drafted grounded]
  | blob place container given =>
      rw [save_blob, Prod.mk.injEq] at fails
      obtain ⟨failed, rfl⟩ := fails
      rw [look_blob, look_blob, Storage.blobsAt_setBlobs, Store.Container.save_error (Prod.ext failed rfl)]
  | memory => cases fails
  | discard => cases fails

theorem seen_after_failed_save {seen : Manifest} {error : StoreError}
    (fails : backend.save name manifest storage = (.error error, after))
    (sees : backend.look other storage = .ok seen) : backend.look other after = .ok seen := by
  obtain ⟨kept, found, reads⟩ := look_eq_ok.mp sees
  exact look_eq_ok.mpr ⟨kept, (save_error fails).kept?_some found, reads⟩

theorem look_of_begun {home : String} {pieces : List String} {done : List FileStep}
    (whole : String.join pieces = manifest.encode) (storage : Storage)
    (begun : done <+: Store.Files.saveSteps home name storage.draft pieces) :
    let left : Storage := { storage with disk := (inOrder Disk.take done storage.disk).2 }
    (∀ other, (files home).Apart name other storage → (files home).look other left = (files home).look other storage) ∨
    ∀ other, (files home).Apart name other storage → (files home).look other left =
      if Store.Files.room home other = Store.Files.room home name then .ok manifest
      else (files home).look other storage := by
  simp only [look_files]
  by_cases way : Path.Plain (Path.names (Store.Files.clusterDirectory home name)) ∧ storage.disk.tree.Grounded
  · rcases Store.Files.read_of_begun way.1 way.2 begun with same | changed
    · left
      intro other ⟨_, apart, _⟩
      rw [same other apart]
    · right
      intro other ⟨_, apart, _⟩
      rw [changed other apart]
      split
      · rw [whole, Store.Files.answer, Manifest.decode_encode]
      · rfl
  · left
    intro other ⟨plain, _, grounded⟩
    exact (way ⟨plain, grounded⟩).elim

/-- What a failing request of a blob makes of a load. -/
theorem load_of_get (place : BlobPlace) (container : String) (given : Option String) (name : String) (storage : Storage) :
    let asked := ((storage.blobsAt place).get (Store.Container.blobKey container given name)).1
    let loaded := ((blob place container given).load name storage).1
    match asked with
    | .error (.blobNotFound _) => loaded = .error (.notFound name)
    | .error error => loaded = .error (.corrupt name error.message)
    | .ok _ => ∀ other, loaded ≠ .error (.notFound other) := by
  rw [load_blob]
  simp only [Store.Container.load]
  rcases (storage.blobsAt place).get (Store.Container.blobKey container given name) with ⟨error | content, left⟩
  · cases error <;> rfl
  · cases content with
    | text text =>
        intro other
        simp only [Manifest.decode]
        split <;> simp
    | binary =>
        intro other
        simp

/-- A save or a deletion that fails leaves everything that can be loaded as it was, under all names
that keep apart, as valid ones do; and under any name what could be loaded stays. In files a load
never reads a draft, and whenever a save is interrupted every load finds what was there before,
or the new manifest as a whole. A failing request of a blob makes a load fail, and only if the blob
was not found it says so. -/
theorem failures_do_not_show (backend : Backend) (name : String) (manifest : Manifest) (storage : Storage) :
    (∀ error after, backend.save name manifest storage = (.error error, after) →
      (∀ other, backend.Apart name other storage → backend.look other after = backend.look other storage) ∧
      ∀ other seen, backend.look other storage = .ok seen → backend.look other after = .ok seen) ∧
    (∀ error after, backend.delete name storage = (.error error, after) →
      ∀ other, backend.look other after = backend.look other storage) ∧
    (∀ home, backend = files home →
      (∀ number place, storage.disk.tree.locate (Path.names (Store.Files.draftPath home name number)) = .ok place →
        ∀ other, storage.disk.tree.locate (Path.names (Store.Files.manifestPath home other)) ≠ .ok place) ∧
      ∀ pieces done, String.join pieces = manifest.encode → done <+: Store.Files.saveSteps home name storage.draft pieces →
        let left : Storage := { storage with disk := (inOrder Disk.take done storage.disk).2 }
        (∀ other, backend.Apart name other storage → backend.look other left = backend.look other storage) ∨
        ∀ other, backend.Apart name other storage → backend.look other left =
          if Store.Files.room home other = Store.Files.room home name then .ok manifest
          else backend.look other storage) ∧
    (∀ place container given, backend = blob place container given →
      let loaded := (backend.load name storage).1
      match ((storage.blobsAt place).get (Store.Container.blobKey container given name)).1 with
      | .error (.blobNotFound _) => loaded = .error (.notFound name)
      | .error error => loaded = .error (.corrupt name error.message)
      | .ok _ => ∀ other, loaded ≠ .error (.notFound other)) ∧
    (backend.IsOrderly storage → isClusterName name = true → ∀ other, isClusterName other = true →
      backend.Apart name other storage) := by
  refine ⟨?_, ?_, ?_, ?_, ?_⟩
  · intro error after fails
    exact ⟨fun other apart => look_of_failed_save apart fails, fun other seen sees => seen_after_failed_save fails sees⟩
  · intro error after fails other
    exact look_of_contents (delete_error fails) other
  · rintro home rfl
    refine ⟨fun number place draft other => Store.Files.draft_is_no_manifest draft, ?_⟩
    intro pieces done whole begun
    exact look_of_begun whole storage begun
  · rintro place container given rfl
    exact load_of_get place container given name storage
  · intro orderly valid other validOther
    exact apart_of_valid orderly valid validOther

-- Where names go back, a save that fails can make the directory that they go back from. Here a
-- directory is where the manifest of a cluster would go.
theorem failed_save_shows :
    let big : Manifest := ⟨"big", [], .empty, .epoch⟩
    let small : Manifest := ⟨"small", [], .empty, .epoch⟩
    let tree := (((FileTree.empty.put ["big"] .directory).put ["big", "manifest.json"]
      (.file (.text big.encode))).put ["small"] .directory).put ["small", "manifest.json"] .directory
    let saved := (files "").save "a/../small" small (.ofTree tree)
    saved.1 = .error (.writeFailed "a/../small" "") ∧
    ((files "").load "a/../big" (.ofTree tree)).1 = .error (.notFound "a/../big") ∧
    ((files "").load "a/../big" saved.2).1 = .ok big := by
  decide +kernel

-- One cluster is saved, and the rename fails with which the other is to be saved. The first is there
-- whatever has been done by then of the second.
theorem failures_do_not_show_at_rename :
    let big : Manifest := ⟨"big", [], .empty, .epoch⟩
    let small : Manifest := ⟨"small", [], .empty, .epoch⟩
    let disk : Disk := ⟨.empty, 0, fun request => request = 11⟩
    let storage := ((files "state").ask (.save "big" big) { Storage.ofTree .empty with disk }).2
    let saved := (files "state").save "small" small storage
    saved.1 = .error (.writeFailed "small" "") ∧ (files "state").look "big" storage = .ok big ∧
    (files "state").Apart "small" "big" storage ∧ (files "state").look "big" saved.2 = .ok big ∧
    ∀ count, (files "state").look "big" { storage with disk := (inOrder Disk.take
      ((Store.Files.saveSteps "state" "small" storage.draft [small.encode]).take count) storage.disk).2 } = .ok big := by
  intro big small disk storage saved
  have fails : saved.1 = .error (.writeFailed "small" "") := by decide +kernel
  have sees : (files "state").look "big" storage = .ok big := by decide +kernel
  have orderly : (files "state").IsOrderly storage := by
    refine ask_orderly ⟨⟨by decide, by decide, by decide⟩, ?_⟩ (by decide)
    intro place name there
    simp [FileTree.empty, FileTree.entry?, disk] at there
  have asked : (files "state").save "small" small storage = saved := rfl
  clear_value saved storage
  have failing : (files "state").save "small" small storage = (.error (.writeFailed "small" ""), saved.2) :=
    asked.trans (Prod.ext fails rfl)
  obtain ⟨failed, _, interrupted, _, valid⟩ := failures_do_not_show (files "state") "small" small storage
  have apart := valid orderly (by decide) "big" (by decide)
  refine ⟨fails, sees, apart, ?_, ?_⟩
  · exact ((failed _ saved.2 failing).1 "big" apart).trans sees
  · intro count
    have whole : String.join [small.encode] = small.encode := String.empty_append
    rcases (interrupted "state" rfl).2 [small.encode] _ whole (List.take_prefix count _) with same | changed
    · exact (same "big" apart).trans sees
    · refine (changed "big" apart).trans ?_
      rw [if_neg (by decide)]
      exact sees

end Backend

end Muster
