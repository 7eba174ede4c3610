import Muster.Proofs.Store.Kept

/-!
Saves that find the way to where they write. The draft of a manifest can be written, and put in
the manifest's place, when the paths to both lead to where no directory is. A save that has
succeeded leaves them so; so where no request fails by itself, whatever is saved after it
succeeds too.
-/

namespace Muster

namespace FileTree

/-- A path on which a file can be written: it leads to a place where no directory is. -/
def IsFree (tree : FileTree) (names : List String) : Prop :=
  ∃ place, tree.locate names = .ok place ∧ tree.isDirectory place = false

variable {tree after : FileTree} {names other : List String} {place : List String} {content : Content}

theorem not_isDirectory_of_file (file : tree.entry? place = some (.file content)) : tree.isDirectory place = false := by
  simp [isDirectory, file]

theorem isDirectory_put_file (proper : place ≠ []) : (tree.put place (.file content)).isDirectory place = false := by
  have file : FileTree.entry? (tree.put place (.file content)) place = some (.file content) := by
    rw [entry_put, if_neg proper, if_pos rfl]
  exact not_isDirectory_of_file file

namespace IsFree

theorem put (free : tree.IsFree names) (room : tree.isDirectory place = false) :
    (tree.put place (.file content)).IsFree names := by
  obtain ⟨found, leads, empty⟩ := free
  refine ⟨found, locate_of_directories (fun _ => isDirectory_put room) leads, ?_⟩
  by_cases here : found = place
  · subst here
    exact isDirectory_put_file (ne_root empty)
  · have root := ne_root empty
    simpa only [isDirectory, entry_put, if_neg root, if_neg here] using empty

theorem writable (free : tree.IsFree names) (content : Content) : ∃ after, tree.write names content = .ok after := by
  obtain ⟨found, leads, empty⟩ := free
  refine ⟨tree.put found (.file content), ?_⟩
  simp only [write, leads, empty]
  rfl

theorem write (free : tree.IsFree names) (written : tree.write other content = .ok after) : after.IsFree names := by
  obtain ⟨place, _, room, rfl⟩ := write_ok written
  exact free.put room

-- The directory of a file is there if a file can be written in it.
theorem above {name : String} (free : tree.IsFree (names ++ [name])) :
    ∃ front, tree.locate names = .ok front ∧ tree.isDirectory front = true := by
  obtain ⟨found, leads, _⟩ := free
  have way := follow_of_locate leads
  rw [follow_append] at way
  simp only [locate] at leads
  split at leads
  · cases leads
  · rename_i proper
    have readable : ¬ (names.any fun name => '\x00' ∈ name.toList) = true := by
      intro bad
      rw [List.any_append, bad] at proper
      exact proper rfl
    split at way
    · cases way
    · rename_i next reached
      refine ⟨next, by rw [locate, if_neg readable, reached], ?_⟩
      simp only [enter] at way
      split at way
      · cases way
      · cases way
      · rename_i here
        exact isDirectory_iff.mpr here

theorem leadsToDirectory {name : String} (free : tree.IsFree (names ++ [name])) : tree.leadsToDirectory names = true := by
  obtain ⟨front, leads, directory⟩ := free.above
  rw [FileTree.leadsToDirectory, leads]
  exact directory

end IsFree

-- A name leads into a directory to which there is a way.
theorem locate_within {name : String} {front : List String} (leads : tree.locate names = .ok front)
    (directory : tree.isDirectory front = true) (onward : name ≠ "." ∧ name ≠ "..")
    (short : name.utf8ByteSize ≤ Path.maxNameSize) (proper : '\x00' ∉ name.toList) :
    tree.locate (names ++ [name]) = .ok (front ++ [name]) := by
  have way := follow_of_locate leads
  simp only [locate] at leads
  split at leads
  · cases leads
  · rename_i readable
    have still : ¬ ((names ++ [name]).any fun name => '\x00' ∈ name.toList) = true := by
      rw [List.any_append, Bool.or_eq_true]
      rintro (bad | bad)
      · exact readable bad
      · simp [proper] at bad
    rw [locate, if_neg still, follow_append, way]
    simp only [enter, isDirectory_iff.mp directory, if_neg onward.1, if_neg onward.2, if_neg short.not_gt]

-- A rename moves a file, so that the path to it leads where it led before.
theorem isFree_of_rename {source target : List String} (renamed : tree.rename source target = .ok after) :
    after.IsFree target := by
  obtain ⟨content, origin, place, holds, starts, leads, empty, rfl⟩ := rename_ok renamed
  obtain ⟨_, found, file⟩ := read_ok holds
  cases starts.symm.trans found
  have room : (tree.erase origin).isDirectory place = false := by
    by_cases here : place = origin
    · subst here
      simp [isDirectory, entry_erase, ne_root empty]
    · simpa [isDirectory, entry_erase, ne_root empty, here] using empty
  have gone : tree.isDirectory origin = false := not_isDirectory_of_file file
  have kept (other : List String) (directory : tree.isDirectory other = true) :
      (tree.erase origin).isDirectory other = true := by
    refine isDirectory_erase directory ?_
    rintro rfl
    cases directory.symm.trans gone
  have free : (tree.erase origin).IsFree target := ⟨place, locate_of_directories kept leads, room⟩
  exact free.put room

end FileTree

namespace Disk

variable {disk : Disk} {names : List String}

-- Directories that are there are asked for once.
theorem take_makeDirectories_of_there (calm : disk.fails = false) (there : disk.tree.leadsToDirectory names = true) :
    disk.take (.makeDirectories names) = (.ok (), disk.count) := by
  obtain ⟨place, leads, directory⟩ : ∃ place, disk.tree.locate names = .ok place ∧ disk.tree.isDirectory place = true := by
    simp only [FileTree.leadsToDirectory] at there
    split at there
    · rename_i place leads
      exact ⟨place, leads, there⟩
    · cases there
  have occupied : disk.tree.makeDirectory names = .error .occupied := by
    simp only [FileTree.makeDirectory, leads, FileTree.isDirectory_iff.mp directory]
  have asked : disk.ask (fun tree => tree.makeDirectory names) = (.error .occupied, disk.count) := by
    simp only [ask, calm, occupied]
    rfl
  have still : disk.count.tree.leadsToDirectory names = true := there
  simp only [take, FileTree.makeDirectoriesBy, asked, still, if_true]

end Disk

namespace Store.Files

variable {home name : String} {number : DraftNumber} {disk after : Disk}

structure IsPaved (home name : String) (number : DraftNumber) (disk : Disk) : Prop where
  calm : ∀ request, disk.outage request = false
  draft : disk.tree.IsFree (Path.names (draftPath home name number))
  manifest : disk.tree.IsFree (Path.names (manifestPath home name))

namespace IsPaved

theorem take (paved : IsPaved home name number disk) (step : FileStep) (single : step.isSingle = true) {tree : FileTree}
    (possible : step.perform disk.tree = .ok tree)
    (keeps : ∀ names, disk.tree.IsFree names → tree.IsFree names) :
    ∃ after, disk.take step = (.ok (), after) ∧ IsPaved home name number after ∧ after.tree = tree := by
  obtain ⟨after, taken⟩ := Disk.take_of_calm step single (paved.calm _) possible
  obtain rfl : tree = after.tree := Except.ok.inj (possible.symm.trans (Disk.take_ok taken single))
  have outage := disk.take_outage step
  rw [taken] at outage
  exact ⟨after, taken, ⟨outage ▸ paved.calm, keeps _ paved.draft, keeps _ paved.manifest⟩, rfl⟩

theorem create (paved : IsPaved home name number disk) :
    ∃ after, disk.take (.create (Path.names (draftPath home name number))) = (.ok (), after) ∧ IsPaved home name number after ∧
      after.tree.read (Path.names (draftPath home name number)) = .ok (.text "") := by
  obtain ⟨tree, written⟩ := paved.draft.writable (.text "")
  obtain ⟨after, taken, still, rfl⟩ := paved.take (.create _) rfl written fun _ free => free.write written
  exact ⟨after, taken, still, FileTree.read_of_write written⟩

theorem append (paved : IsPaved home name number disk) {text : String} (piece : String)
    (holds : disk.tree.read (Path.names (draftPath home name number)) = .ok (.text text)) :
    ∃ after, disk.take (.append (Path.names (draftPath home name number)) piece) = (.ok (), after) ∧
      IsPaved home name number after ∧ after.tree.read (Path.names (draftPath home name number)) = .ok (.text (text ++ piece)) := by
  obtain ⟨tree, written⟩ := paved.draft.writable (.text (text ++ piece))
  have possible : FileStep.perform (.append (Path.names (draftPath home name number)) piece) disk.tree = .ok tree := by
    simpa only [FileStep.perform, FileTree.append, holds] using written
  obtain ⟨after, taken, still, rfl⟩ := paved.take (.append _ _) rfl possible fun _ free => free.write written
  exact ⟨after, taken, still, FileTree.read_of_write written⟩

theorem appends (paved : IsPaved home name number disk) {text : String} (pieces : List String)
    (holds : disk.tree.read (Path.names (draftPath home name number)) = .ok (.text text)) :
    ∃ after, inOrder Disk.take (pieces.map (.append (Path.names (draftPath home name number)))) disk = (.ok (), after) ∧
      IsPaved home name number after ∧ ∃ whole, after.tree.read (Path.names (draftPath home name number)) = .ok (.text whole) := by
  induction pieces generalizing disk text with
  | nil => exact ⟨disk, rfl, paved, text, holds⟩
  | cons piece rest ih =>
      obtain ⟨next, taken, still, holds⟩ := paved.append piece holds
      rw [List.map_cons, inOrder_of_ok taken]
      exact ih still holds

theorem rename (paved : IsPaved home name number disk) {content : Content}
    (holds : disk.tree.read (Path.names (draftPath home name number)) = .ok content) :
    ∃ after, disk.take (.rename (Path.names (draftPath home name number)) (Path.names (manifestPath home name))) =
      (.ok (), after) := by
  obtain ⟨origin, starts, _⟩ := paved.draft
  obtain ⟨place, leads, room⟩ := paved.manifest
  have possible : FileStep.perform (.rename (Path.names (draftPath home name number)) (Path.names (manifestPath home name)))
      disk.tree = .ok ((disk.tree.erase origin).put place (.file content)) := by
    simp only [FileStep.perform, FileTree.rename, holds, starts, leads, room]
    rfl
  exact Disk.take_of_calm (.rename _ _) rfl (paved.calm _) possible

/-- All steps of a save succeed once there is a directory for them. -/
theorem saveSteps (paved : IsPaved home name number after) (pieces : List String)
    (made : disk.take (.makeDirectories (Path.names (clusterDirectory home name))) = (.ok (), after)) :
    ∃ saved, inOrder Disk.take (saveSteps home name number pieces) disk = (.ok (), saved) := by
  obtain ⟨created, creates, paved, empty⟩ := paved.create
  obtain ⟨filled, fills, paved, _, whole⟩ := paved.appends pieces empty
  obtain ⟨synced, syncs, paved, same⟩ := paved.take (.sync (Path.names (draftPath home name number))) rfl rfl fun _ free => free
  obtain ⟨saved, renames⟩ := paved.rename (same ▸ whole)
  refine ⟨saved, ?_⟩
  rw [saveSteps_eq, preparing, List.append_assoc, List.append_assoc, List.cons_append, List.cons_append,
    List.nil_append, inOrder_of_ok made, inOrder_of_ok creates, inOrder_append, fills]
  dsimp only
  rw [List.cons_append, inOrder_of_ok syncs, List.nil_append, inOrder_of_ok renames]
  rfl

theorem saves (paved : IsPaved home name number disk) (text : String) : (save home name number text disk).1 = .ok () := by
  have there : disk.tree.leadsToDirectory (Path.names (clusterDirectory home name)) = true := by
    have free := paved.manifest
    rw [names_manifestPath] at free
    exact free.leadsToDirectory
  have made := Disk.take_makeDirectories_of_there (paved.calm _) there
  have still : IsPaved home name number disk.count := ⟨paved.calm, paved.draft, paved.manifest⟩
  obtain ⟨saved, steps⟩ := still.saveSteps [text] made
  simp only [save, steps]

end IsPaved

theorem isFree_of_save {text : String} (succeeds : save home name number text disk = (.ok (), after)) :
    after.tree.IsFree (Path.names (manifestPath home name)) := by
  unfold save at succeeds
  split at succeeds
  · rename_i saved steps
    cases succeeds
    rw [saveSteps_eq] at steps
    obtain ⟨ready, _, same, _⟩ := inOrder_split (congrArg Prod.fst steps)
    obtain ⟨left, renamed, nothing⟩ := inOrder_cons_ok (same.symm.trans steps)
    cases nothing
    exact FileTree.isFree_of_rename (Disk.take_ok renamed rfl)
  · cases succeeds

-- A draft can be written beside a manifest, where no directory is in its place.
theorem isFree_draft {tree : FileTree} (manifest : tree.IsFree (Path.names (manifestPath home name)))
    (free : tree.leadsToDirectory (Path.names (draftPath home name number)) = false) :
    tree.IsFree (Path.names (draftPath home name number)) := by
  rw [names_manifestPath] at manifest
  rw [names_draftPath] at free ⊢
  obtain ⟨front, leads, directory⟩ := manifest.above
  have onward := FileTree.locate_within leads directory ⟨draftFile_ne (by decide), draftFile_ne (by decide)⟩
    (short_draftFile number) (not_mem_draftFile (by decide))
  rw [FileTree.leadsToDirectory, onward] at free
  exact ⟨_, onward, free⟩

theorem save_outage (home name text : String) (disk : Disk) :
    (save home name number text disk).2.outage = disk.outage := by
  have steps : (inOrder Disk.take (saveSteps home name number [text]) disk).2.outage = disk.outage := by
    refine inOrder_keeps (fun after : Disk => after.outage = disk.outage) ?_ rfl
    intro step _ after same
    exact (after.take_outage step).trans same
  simp only [save]
  split
  · rename_i done
    rwa [done] at steps
  · rename_i tried stopped
    rw [stopped] at steps
    exact (tried.take_outage _).trans steps

end Store.Files

theorem Store.Container.save_outage (container : String) (given : Option String) (name text : String) (blobs : Blobs) :
    (Store.Container.save container given name text blobs).2.outage = blobs.outage := by
  simp only [Store.Container.save, Blobs.put]
  cases blobs.failure? .put <;> rfl

namespace Backend

variable {backend : Backend} {name : String} {manifest : Manifest} {storage saved later : Storage}

/-- No directory is in the place of a draft of this cluster, whichever of the numbers is drawn. -/
def DraftsFree (backend : Backend) (name : String) (storage : Storage) : Prop :=
  match backend with
  | files home => ∀ request, storage.disk.tree.leadsToDirectory
      (Path.names (Store.Files.draftPath home name (storage.drafts request))) = false
  | blob .. | memory | discard => True

theorem DraftsFree.of_contents (free : backend.DraftsFree name storage) (same : storage.SameContents later)
    (drawn : later.drafts = storage.drafts) : backend.DraftsFree name later := by
  cases backend with
  | files home =>
      intro request
      rw [same.tree, drawn]
      exact free request
  | blob | memory | discard => trivial

/-- Where a manifest has been saved, another can be. -/
theorem save_again (saves : backend.save name manifest storage = (.ok (), saved)) (same : saved.SameContents later)
    (calm : later.Calm) (drafts : backend.DraftsFree name later) (other : Manifest) :
    (backend.save name other later).1 = .ok () := by
  cases backend with
  | files home =>
      rw [save_files, Prod.mk.injEq] at saves
      obtain ⟨done, rfl⟩ := saves
      have manifest := Store.Files.isFree_of_save (Prod.ext done rfl)
      rw [← show later.disk.tree = _ from same.tree] at manifest
      have paved : Store.Files.IsPaved home name later.draft later.disk :=
        ⟨calm.disk, Store.Files.isFree_draft manifest (drafts _), manifest⟩
      rw [save_files]
      exact paved.saves other.encode
  | blob place container given =>
      have quiet : (later.blobsAt place).failure? .put = none := by simp [Blobs.failure?, calm.blobsAt place]
      simp only [save_blob, Store.Container.save, Blobs.put, quiet]
  | memory | discard => rfl

theorem save_calm (calm : storage.Calm) : (backend.save name manifest storage).2.Calm := by
  cases backend with
  | files home =>
      rw [save_files]
      exact calm.of_disk (Store.Files.save_outage home name _ storage.disk)
  | blob place container given =>
      rw [save_blob]
      exact calm.of_blobs (Store.Container.save_outage container given name _ _)
  | memory => exact ⟨calm.disk, calm.blobsAt⟩
  | discard => exact calm

end Backend

end Muster
