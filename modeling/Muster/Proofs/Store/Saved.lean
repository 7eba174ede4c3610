import Muster.Proofs.History
import Muster.Store

/-!
What a save that succeeds leaves in a store. A file is prepared beside the one that
it replaces; that it can then be read at the other's path depends on the directories
on the way alone, and neither step makes one of them a file.
-/

namespace Muster

namespace FileTree

variable {tree after : FileTree} {names : List String} {place : List String} {content : Content}

-- A path leads to the same place as long as no directory on the way is lost.
theorem follow_of_directories {other : FileTree} {names place found : List String}
    (kept : ∀ place, tree.isDirectory place = true → other.isDirectory place = true)
    (leads : tree.follow place names = .ok found) : other.follow place names = .ok found := by
  induction names generalizing place with
  | nil => exact leads
  | cons name rest ih =>
      unfold follow at leads ⊢
      split at leads
      · cases leads
      · rename_i next entered
        have directory : tree.isDirectory place = true := by
          unfold enter at entered
          split at entered
          · cases entered
          · cases entered
          · rename_i here
            simp [isDirectory, here]
        have before : tree.entry? place = some .directory := by simpa [isDirectory] using directory
        have still : other.entry? place = some .directory := by
          simpa [isDirectory] using kept place directory
        have same : other.enter place name = .ok next := by
          unfold enter at entered ⊢
          rw [before] at entered
          rw [still]
          exact entered
        rw [same]
        exact ih leads

theorem locate_of_directories {other : FileTree} {names found : List String}
    (kept : ∀ place, tree.isDirectory place = true → other.isDirectory place = true)
    (leads : tree.locate names = .ok found) : other.locate names = .ok found := by
  unfold locate at leads ⊢
  split at leads
  · cases leads
  · rename_i proper
    rw [if_neg proper]
    exact follow_of_directories kept leads

theorem entry_put (tree : FileTree) (place other : List String) (entry : FileEntry) :
    FileTree.entry? (tree.put place entry) other =
      if other = [] then some .directory
      else if other = place then some entry else tree.entry? other := by
  simp only [put, entry?, SortedMap.get?_insert]
  split <;> rfl

-- A file can be put where no directory is, and the directories stay.
theorem isDirectory_put {other : List String} (free : tree.isDirectory place = false)
    (directory : tree.isDirectory other = true) :
    (tree.put place (.file content)).isDirectory other = true := by
  have different : other ≠ place := by
    rintro rfl
    cases directory.symm.trans free
  simp only [isDirectory, entry_put, different, if_false] at directory ⊢
  split
  · rfl
  · exact directory

theorem ne_root (free : tree.isDirectory place = false) : place ≠ [] := by
  rintro rfl
  cases free

theorem read_put (free : tree.isDirectory place = false)
    (leads : (tree.put place (.file content)).locate names = .ok place) :
    (tree.put place (.file content)).read names = .ok content := by
  unfold read
  rw [leads]
  dsimp only
  rw [entry_put, if_neg (ne_root free), if_pos rfl]

theorem write_ok (written : tree.write names content = .ok after) :
    ∃ place, tree.locate names = .ok place ∧ tree.isDirectory place = false ∧
      after = tree.put place (.file content) := by
  unfold write at written
  split at written
  · cases written
  · rename_i place leads
    split at written
    · cases written
    · rename_i free
      cases written
      exact ⟨place, leads, by simpa using free, rfl⟩

theorem read_of_write (written : tree.write names content = .ok after) :
    after.read names = .ok content := by
  obtain ⟨place, leads, free, rfl⟩ := write_ok written
  refine read_put free (locate_of_directories ?_ leads)
  intro _ directory
  exact isDirectory_put free directory

theorem read_ok (holds : tree.read names = .ok content) :
    ∃ place, tree.locate names = .ok place ∧ tree.entry? place = some (.file content) := by
  unfold read at holds
  split at holds
  · cases holds
  · rename_i place leads
    split at holds
    · cases holds
    · cases holds
    · rename_i found
      cases holds
      exact ⟨place, leads, found⟩

theorem rename_ok {source target : List String} (renamed : tree.rename source target = .ok after) :
    ∃ content origin place, tree.read source = .ok content ∧ tree.locate source = .ok origin ∧
      tree.locate target = .ok place ∧ tree.isDirectory place = false ∧
      after = (tree.erase origin).put place (.file content) := by
  unfold rename at renamed
  split at renamed
  · cases renamed
  · cases renamed
  · cases renamed
  · rename_i content origin place holds starts leads
    split at renamed
    · cases renamed
    · rename_i free
      cases renamed
      exact ⟨content, origin, place, holds, starts, leads, by simpa using free, rfl⟩

theorem isDirectory_erase {other : List String} (directory : tree.isDirectory other = true)
    (different : other ≠ place) : (tree.erase place).isDirectory other = true := by
  simpa [isDirectory, entry?, erase, different] using directory

theorem read_of_rename {source target : List String} (holds : tree.read source = .ok content)
    (renamed : tree.rename source target = .ok after) : after.read target = .ok content := by
  obtain ⟨_, origin, place, same, starts, leads, free, rfl⟩ := rename_ok renamed
  cases holds.symm.trans same
  obtain ⟨_, found, file⟩ := read_ok holds
  cases starts.symm.trans found
  -- the draft is a file, so that no way to the target leads through it
  have notDirectory {other : List String} (directory : tree.isDirectory other = true) : other ≠ origin := by
    rintro rfl
    simp [isDirectory, file] at directory
  have stillFree : (tree.erase origin).isDirectory place = false := by
    by_cases same : place = origin
    · have root : origin ≠ [] := same ▸ ne_root free
      simp [isDirectory, entry?, erase, same, root]
    · simpa [isDirectory, entry?, erase, same] using free
  refine read_put stillFree (locate_of_directories ?_ leads)
  intro _ directory
  exact isDirectory_put stillFree (isDirectory_erase directory (notDirectory directory))

end FileTree

theorem Disk.ask_ok {change : FileTree → Except FileFault FileTree} {disk after : Disk}
    (done : disk.ask change = (.ok (), after)) : change disk.tree = .ok after.tree := by
  unfold ask at done
  split at done
  · cases done
  · split at done
    · cases done
    · rename_i tree made
      cases done
      exact made

def FileStep.isSingle : FileStep → Bool
  | makeDirectories _ => false
  | create _ | append .. | sync _ | rename .. | removeFile _ | removeDirectory _ => true

theorem Disk.take_of_single {step : FileStep} (disk : Disk) (single : step.isSingle = true) :
    disk.take step = disk.ask step.perform := by
  cases step with
  | makeDirectories names => cases single
  | create | append | sync | rename | removeFile | removeDirectory => rfl

theorem Disk.take_ok {step : FileStep} {disk after : Disk} (done : disk.take step = (.ok (), after))
    (single : step.isSingle = true) : step.perform disk.tree = .ok after.tree :=
  ask_ok (disk.take_of_single single ▸ done)

-- A file into which a text is written piece by piece holds the pieces, one after the other.
theorem Disk.read_of_appends {draft pieces : List String} {text : String} {disk after : Disk}
    (holds : disk.tree.read draft = .ok (.text text))
    (done : inOrder Disk.take (pieces.map (.append draft)) disk = (.ok (), after)) :
    after.tree.read draft = .ok (.text (pieces.foldl (· ++ ·) text)) := by
  induction pieces generalizing disk text with
  | nil =>
      cases done
      exact holds
  | cons piece rest ih =>
      obtain ⟨next, appended, done⟩ := inOrder_cons_ok done
      have appended := take_ok appended rfl
      simp only [FileStep.perform, FileTree.append, holds] at appended
      exact ih (FileTree.read_of_write appended) done

namespace Store.Files

variable {home name text : String} {number : DraftNumber} {disk saved : Disk}

/-- When all steps of a save succeed, the whole text is where it is looked for. -/
theorem read_of_steps {pieces : List String}
    (succeeds : inOrder Disk.take (saveSteps home name number pieces) disk = (.ok (), saved)) :
    saved.tree.read (Path.names (manifestPath home name)) = .ok (.text (String.join pieces)) := by
  obtain ⟨written, begun, same, _⟩ := inOrder_split (congrArg Prod.fst succeeds)
  have ends := same.symm.trans succeeds
  obtain ⟨opened, first, same, _⟩ := inOrder_split (congrArg Prod.fst begun)
  have appended := same.symm.trans begun
  obtain ⟨_, _, first⟩ := inOrder_cons_ok first
  obtain ⟨empty, created, nothing⟩ := inOrder_cons_ok first
  cases nothing
  obtain ⟨synced, kept, ends⟩ := inOrder_cons_ok ends
  obtain ⟨ended, renamed, nothing⟩ := inOrder_cons_ok ends
  cases nothing
  have created := Disk.take_ok created rfl
  have kept := Disk.take_ok kept rfl
  have renamed := Disk.take_ok renamed rfl
  have holds := Disk.read_of_appends (FileTree.read_of_write created) appended
  simp only [FileStep.perform] at kept renamed
  rw [Except.ok.inj kept] at holds
  exact FileTree.read_of_rename holds renamed

/-- A save that succeeds leaves the text where it is looked for. -/
theorem read_of_save (succeeds : save home name number text disk = (.ok (), saved)) :
    saved.tree.read (Path.names (manifestPath home name)) = .ok (.text text) := by
  unfold save at succeeds
  split at succeeds
  · rename_i after steps
    cases succeeds
    have whole : String.join [text] = text := String.empty_append
    have written := read_of_steps steps
    rwa [whole] at written
  · cases succeeds

end Store.Files

theorem Blobs.put_ok {key : BlobKey} {content : Content} {blobs after : Blobs}
    (succeeds : blobs.put key content = (.ok (), after)) : after.contents = blobs.contents.insert key content := by
  unfold put at succeeds
  split at succeeds
  · cases succeeds
  · cases succeeds
    rfl

theorem Store.Container.save_ok {container name text : String} {given : Option String}
    {blobs saved : Blobs} (succeeds : save container given name text blobs = (.ok (), saved)) :
    saved.contents = blobs.contents.insert (blobKey container given name) (.text text) := by
  unfold save at succeeds
  split at succeeds
  · rename_i after done
    cases succeeds
    exact Blobs.put_ok done
  · cases succeeds

theorem Storage.blobsAt_setBlobs (storage : Storage) (place : BlobPlace) (blobs : Blobs) :
    (storage.setBlobs place blobs).blobsAt place = blobs := by
  cases place <;> rfl

namespace Backend

def Holds (backend : Backend) (name : String) (manifest : Manifest) (storage : Storage) : Prop :=
  match backend with
  | files home =>
      storage.disk.tree.read (Path.names (Store.Files.manifestPath home name)) =
        .ok (.text manifest.encode)
  | blob place container given =>
      (storage.blobsAt place).contents.get? (Store.Container.blobKey container given name) =
        some (.text manifest.encode)
  | memory => storage.memory.get? name = some manifest
  | discard => False

/-- Every backend but the one that keeps nothing holds what was saved last. -/
theorem holds_of_save {backend : Backend} (keeps : backend ≠ .discard) {name : String}
    {manifest : Manifest} {storage after : Storage}
    (succeeds : backend.save name manifest storage = (.ok (), after)) :
    backend.Holds name manifest after := by
  cases backend with
  | files home =>
      simp only [save, Prod.mk.injEq] at succeeds
      obtain ⟨done, rfl⟩ := succeeds
      exact Store.Files.read_of_save (Prod.ext done rfl)
  | blob place container given =>
      simp only [save, Prod.mk.injEq] at succeeds
      obtain ⟨done, rfl⟩ := succeeds
      simp only [Holds, Storage.blobsAt_setBlobs]
      rw [Store.Container.save_ok (Prod.ext done rfl), SortedMap.get?_insert, if_pos rfl]
  | memory =>
      cases succeeds
      simp [Holds]
  | discard => exact (keeps rfl).elim

end Backend

end Muster
