import Muster.Proofs.Store.Records
import Muster.Proofs.Store.Rooms

/-!
What can be seen of a store by loading from it: for each name a manifest, that there is none,
or that it cannot be read. A request that succeeds shows under its own name, and under the
names that share an entry with it; one that fails does not show at all, whichever part of it
was done.
-/

namespace Muster

namespace Storage

def calmed (storage : Storage) : Storage :=
  { storage with
    disk := { storage.disk with outage := fun _ => false }
    blobs := { storage.blobs with outage := fun _ _ => false }
    scratch := { storage.scratch with outage := fun _ _ => false } }

theorem calmed_calm (storage : Storage) : storage.calmed.Calm := by
  refine ⟨fun _ => rfl, ?_⟩
  rintro (_ | _) request number <;> rfl

theorem calmed_contents (storage : Storage) : storage.SameContents storage.calmed := by
  refine ⟨rfl, ?_, rfl⟩
  rintro (_ | _) <;> rfl

end Storage

namespace Backend

def look (backend : Backend) (name : String) (storage : Storage) : Except StoreError Manifest :=
  (backend.load name storage.calmed).1

variable {backend : Backend} {name other : String} {manifest : Manifest} {before after storage : Storage}
  {home container : String} {place : BlobPlace} {given : Option String}

theorem look_files (home name : String) (storage : Storage) : (files home).look name storage =
    Store.Files.answer name (storage.disk.tree.read (Path.names (Store.Files.manifestPath home name))) := by
  rw [look, load_files, Store.Files.load_answer]
  rfl

theorem look_blob (place : BlobPlace) (container : String) (given : Option String) (name : String) (storage : Storage) :
    (blob place container given).look name storage = Store.Container.answer name
      ((storage.blobsAt place).contents.get? (Store.Container.blobKey container given name)) := by
  rw [look, load_blob, Store.Container.load_of_calm (storage.calmed_calm.blobsAt place),
    storage.calmed_contents.blobsAt place]

def found (name : String) : Option Manifest → Except StoreError Manifest
  | some manifest => .ok manifest
  | none => .error (.notFound name)

theorem look_memory (name : String) (storage : Storage) :
    memory.look name storage = found name (storage.memory.get? name) := by
  change (memory.load name storage.calmed).1 = _
  have same : storage.calmed.memory = storage.memory := rfl
  simp only [load, same]
  cases storage.memory.get? name <;> rfl

theorem look_of_contents (same : before.SameContents after) (name : String) :
    backend.look name after = backend.look name before := by
  cases backend with
  | files home => rw [look_files, look_files, same.tree]
  | blob place container given => rw [look_blob, look_blob, same.blobsAt place]
  | memory => rw [look_memory, look_memory, same.memory]
  | discard => rfl

/-- A manifest that is seen is one that is stored. -/
theorem look_eq_ok : backend.look name storage = .ok manifest ↔ backend.Stores name manifest storage := by
  constructor
  · intro seen
    exact (stores_of_load seen).of_contents storage.calmed_contents.symm
  · intro stores
    exact load_of_calm storage.calmed_calm (stores.of_contents storage.calmed_contents)

/-- A load answers what can be seen, or that its request failed. -/
theorem load_eq_look (backend : Backend) (name : String) (storage : Storage) :
    (backend.load name storage).1 = backend.look name storage ∨
      ∃ detail, (backend.load name storage).1 = .error (.corrupt name detail) := by
  cases backend with
  | files home =>
      rw [load_files, look_files, Store.Files.load_answer]
      simp only [Disk.read]
      split
      · exact .inr ⟨"", rfl⟩
      · exact .inl rfl
  | blob place container given =>
      rw [load_blob, look_blob]
      simp only [Store.Container.load, Blobs.get, Blobs.failure?]
      by_cases fails : (storage.blobsAt place).outage .get (storage.blobsAt place).requests = true
      · simp only [fails, if_true]
        exact .inr ⟨_, rfl⟩
      · simp only [fails]
        left
        rcases (storage.blobsAt place).contents.get? (Store.Container.blobKey container given name) with
          _ | (_ | _) <;> rfl
  | memory => exact .inl (by rw [look_memory]; simp only [load]; split <;> simp_all [found])
  | discard => exact .inl rfl

/-! ### Which names an entry answers to -/

/-- Whether what is kept under one name is also found under another. -/
def sameEntry (backend : Backend) (name other : String) : Bool :=
  match backend with
  | blob _ _ (some _) => true
  | files _ | blob _ _ none | memory => name = other
  | discard => false

theorem blobKey_eq_iff : Store.Container.blobKey container given other = Store.Container.blobKey container given name ↔
    (blob place container given).sameEntry name other = true := by
  cases given with
  | some blob => simp [Store.Container.blobKey, Store.Container.blobName, sameEntry]
  | none =>
      simp only [Store.Container.blobKey, Store.Container.blobName, sameEntry, BlobKey.mk.injEq, true_and,
        Option.getD_none, decide_eq_true_eq]
      constructor
      · intro same
        exact (String.append_right_inj _).mp same.symm
      · rintro rfl
        rfl

theorem sameEntry_of_look (seen : backend.look name storage = .ok manifest) : backend.sameEntry name name = true := by
  rcases backend with _ | ⟨_, _, _ | _⟩ | _ | _
  case discard => cases seen
  all_goals simp [sameEntry]

def IsOrderly (backend : Backend) (storage : Storage) : Prop :=
  match backend with
  | files home => Path.Plain (Path.names home) ∧ storage.disk.tree.Grounded
  | blob .. | memory | discard => True

theorem IsOrderly.of_contents (orderly : backend.IsOrderly before) (same : before.SameContents after) :
    backend.IsOrderly after := by
  cases backend with
  | files home => exact ⟨orderly.1, same.tree ▸ orderly.2⟩
  | blob | memory | discard => trivial

/-! ### Saving and deleting -/

theorem room_prefix_of_written {home name : String} {number : Store.Files.DraftNumber} {place : List String}
    (written : place = Store.Files.room home name ++ [Store.Files.draftFile number] ∨
      place = Store.Files.room home name ++ [Store.Files.manifestFile]) : Store.Files.room home name <+: place := by
  rcases written with rfl | rfl <;> exact List.prefix_append _ _

/-- A save that succeeds shows under the names of its entry, and one that fails nowhere. -/
theorem look_save (orderly : backend.IsOrderly storage) (valid : isClusterName name = true)
    (validOther : isClusterName other = true) (manifest : Manifest) :
    backend.look other (backend.save name manifest storage).2 =
      match (backend.save name manifest storage).1 with
      | .ok () => if backend.sameEntry name other then .ok manifest else backend.look other storage
      | .error _ => backend.look other storage := by
  cases backend with
  | files home =>
      have step := isStep_of_isClusterName valid
      have otherStep := isStep_of_isClusterName validOther
      have plain := Store.Files.plain_clusterDirectory orderly.1 step
      have confined := Store.Files.save_confined plain storage.draft manifest.encode storage.disk
      rw [save_files, look_files, look_files]
      dsimp only
      rcases saved : Store.Files.save home name storage.draft manifest.encode storage.disk with ⟨error | ⟨⟩, left⟩
      · have drafted := Store.Files.failed_save_confined plain saved
        dsimp only
        rw [Store.Files.read_of_draft (Store.Files.outOfTheWay_of_step orderly.1 step otherStep) drafted orderly.2]
      · rw [saved] at confined
        by_cases same : name = other
        · subst same
          simp only [sameEntry, decide_true, if_true, Store.Files.read_of_save saved, Store.Files.answer,
            Manifest.decode_encode]
        · simp only [sameEntry, same, decide_false]
          rw [Store.Files.read_of_other orderly.1 step otherStep (Ne.symm same)
            (confined.mono fun _ => room_prefix_of_written) orderly.2]
          rfl
  | blob place container given =>
      rw [save_blob, look_blob, look_blob]
      dsimp only
      rw [Storage.blobsAt_setBlobs]
      rcases saved : Store.Container.save container given name manifest.encode (storage.blobsAt place) with
        ⟨error | ⟨⟩, left⟩
      · dsimp only
        rw [Store.Container.save_error saved]
      · dsimp only
        rw [Store.Container.save_ok saved, SortedMap.get?_insert]
        by_cases same : (blob place container given).sameEntry name other = true
        · rw [if_pos (blobKey_eq_iff.mpr same), if_pos same]
          exact Manifest.decode_encode other manifest
        · rw [if_neg (mt blobKey_eq_iff.mp same), if_neg same]
  | memory =>
      rw [look_memory, look_memory]
      simp only [save, SortedMap.get?_insert, sameEntry, decide_eq_true_eq, eq_comm (a := other)]
      split <;> rfl
  | discard => rfl

/-- So it is with a deletion. -/
theorem look_delete (orderly : backend.IsOrderly storage) (valid : isClusterName name = true)
    (validOther : isClusterName other = true) :
    backend.look other (backend.delete name storage).2 =
      match (backend.delete name storage).1 with
      | .ok () => if backend.sameEntry name other then .error (.notFound other) else backend.look other storage
      | .error _ => backend.look other storage := by
  rcases deleted : backend.delete name storage with ⟨error | ⟨⟩, after⟩
  · exact look_of_contents (delete_error deleted) other
  · dsimp only
    cases backend with
    | files home =>
        have step := isStep_of_isClusterName valid
        have otherStep := isStep_of_isClusterName validOther
        have confined := Store.Files.delete_confined (Store.Files.plain_clusterDirectory orderly.1 step) storage.disk
        rw [delete_files, Prod.mk.injEq] at deleted
        obtain ⟨done, rfl⟩ := deleted
        rw [look_files, look_files]
        by_cases same : name = other
        · subst same
          simp only [sameEntry, decide_true, if_true, Store.Files.read_of_delete (Prod.ext done rfl),
            Store.Files.answer]
        · simp only [sameEntry, same, decide_false]
          rw [Store.Files.read_of_other orderly.1 step otherStep (Ne.symm same) confined orderly.2]
          rfl
    | blob place container given =>
        rw [delete_blob, Prod.mk.injEq] at deleted
        obtain ⟨done, rfl⟩ := deleted
        rw [look_blob, look_blob, Storage.blobsAt_setBlobs, Store.Container.delete_ok (Prod.ext done rfl),
          SortedMap.get?_erase]
        by_cases same : (blob place container given).sameEntry name other = true
        · rw [if_pos (blobKey_eq_iff.mpr same), if_pos same]
          rfl
        · rw [if_neg (mt blobKey_eq_iff.mp same), if_neg same]
    | memory =>
        cases deleted
        rw [look_memory, look_memory]
        simp only [SortedMap.get?_erase, sameEntry, decide_eq_true_eq, eq_comm (a := other)]
        split <;> rfl
    | discard => cases deleted; rfl

end Backend

/-! ### Requests -/

inductive StoreRequest where
  | save (name : String) (manifest : Manifest)
  | load (name : String)
  | delete (name : String)

namespace StoreRequest

def name : StoreRequest → String
  | save name _ | load name | delete name => name

def leaves? : StoreRequest → Option (Option Manifest)
  | save _ manifest => some (some manifest)
  | load _ => none
  | delete _ => some none

end StoreRequest

structure Exchange where
  request : StoreRequest
  answer : Except StoreError (Option Manifest)

def Exchange.leaves? (exchange : Exchange) : Option (Option Manifest) :=
  match exchange.answer with
  | .ok _ => exchange.request.leaves?
  | .error _ => none

namespace Backend

variable {backend : Backend} {name other : String} {manifest : Manifest} {request : StoreRequest} {storage : Storage}

def ask (backend : Backend) (request : StoreRequest) (storage : Storage) :
    Except StoreError (Option Manifest) × Storage :=
  match request with
  | .save name manifest =>
      ((backend.save name manifest storage).1.map fun () => none, (backend.save name manifest storage).2)
  | .load name => ((backend.load name storage).1.map some, (backend.load name storage).2)
  | .delete name => ((backend.delete name storage).1.map fun () => none, (backend.delete name storage).2)

def askAll (backend : Backend) : List StoreRequest → Storage → List Exchange × Storage
  | [], storage => ([], storage)
  | request :: rest, storage =>
      let (answer, left) := backend.ask request storage
      let (later, final) := backend.askAll rest left
      (⟨request, answer⟩ :: later, final)

theorem askAll_requests (backend : Backend) (requests : List StoreRequest) (storage : Storage) :
    (backend.askAll requests storage).1.map Exchange.request = requests := by
  induction requests generalizing storage with
  | nil => rfl
  | cons request rest ih => exact congrArg (request :: ·) (ih (backend.ask request storage).2)

def left? (backend : Backend) (name : String) (exchange : Exchange) : Option (Option Manifest) :=
  if backend.sameEntry exchange.request.name name then exchange.leaves? else none

def lastLeft? (backend : Backend) (name : String) (exchanges : List Exchange) : Option (Option Manifest) :=
  exchanges.reverse.findSome? (backend.left? name)

/-- In files a request changes nothing outside of the room of its cluster. -/
theorem ask_confined {home : String} (plain : Path.Plain (Path.names home)) (valid : isClusterName request.name = true)
    (storage : Storage) :
    FileTree.Confined (Store.Files.room home request.name <+: ·) (Store.Files.room home request.name)
      storage.disk.tree ((files home).ask request storage).2.disk.tree := by
  have plain := Store.Files.plain_clusterDirectory plain (isStep_of_isClusterName valid)
  cases request with
  | save name manifest =>
      exact (Store.Files.save_confined plain storage.draft manifest.encode storage.disk).mono fun _ => room_prefix_of_written
  | load name =>
      have same := ((files home).load_contents name storage).tree
      simp only [ask, same]
      exact .refl _
  | delete name => exact Store.Files.delete_confined plain storage.disk

theorem ask_orderly (orderly : backend.IsOrderly storage) (valid : isClusterName request.name = true) :
    backend.IsOrderly (backend.ask request storage).2 := by
  cases backend with
  | files home => exact ⟨orderly.1, (ask_confined orderly.1 valid storage).grounded orderly.2⟩
  | blob | memory | discard => trivial

theorem left?_of_error (backend : Backend) (request : StoreRequest) (error : StoreError) :
    backend.left? other ⟨request, .error error⟩ = none := by
  simp [left?, Exchange.leaves?]

theorem left?_of_ok (backend : Backend) (request : StoreRequest) (answer : Option Manifest) :
    backend.left? other ⟨request, .ok answer⟩ =
      if backend.sameEntry request.name other then request.leaves? else none := rfl

theorem left?_eq_some {exchange : Exchange} {left : Option Manifest} (leaves : backend.left? other exchange = some left) :
    backend.sameEntry exchange.request.name other = true ∧ exchange.request.leaves? = some left := by
  obtain ⟨request, error | answer⟩ := exchange
  · rw [left?_of_error] at leaves
    cases leaves
  · rw [left?_of_ok] at leaves
    split at leaves
    · rename_i shared
      exact ⟨shared, leaves⟩
    · cases leaves

theorem left?_of_load (backend : Backend) (name : String) (answer : Except StoreError (Option Manifest)) :
    backend.left? other ⟨.load name, answer⟩ = none := by
  cases answer <;> simp [left?, Exchange.leaves?, StoreRequest.leaves?]

/-- What a request shows under a name: what it has left there, or what was there before. -/
theorem look_ask (orderly : backend.IsOrderly storage) (valid : isClusterName request.name = true)
    (validOther : isClusterName other = true) :
    backend.look other (backend.ask request storage).2 =
      match backend.left? other ⟨request, (backend.ask request storage).1⟩ with
      | some left => found other left
      | none => backend.look other storage := by
  cases request with
  | save name manifest =>
      have shown := look_save orderly (show isClusterName name = true from valid) validOther manifest
      simp only [ask]
      rcases answer : backend.save name manifest storage with ⟨error | ⟨⟩, after⟩
      · rw [answer] at shown
        rw [Except.map, left?_of_error]
        exact shown
      · rw [answer] at shown
        rw [Except.map, left?_of_ok]
        refine shown.trans ?_
        by_cases shared : backend.sameEntry name other = true <;>
          simp [StoreRequest.name, StoreRequest.leaves?, shared, found]
  | load name =>
      rw [left?_of_load]
      exact look_of_contents (backend.load_contents name storage) other
  | delete name =>
      have shown := look_delete orderly (show isClusterName name = true from valid) validOther
      simp only [ask]
      rcases answer : backend.delete name storage with ⟨error | ⟨⟩, after⟩
      · rw [answer] at shown
        rw [Except.map, left?_of_error]
        exact shown
      · rw [answer] at shown
        rw [Except.map, left?_of_ok]
        refine shown.trans ?_
        by_cases shared : backend.sameEntry name other = true <;>
          simp [StoreRequest.name, StoreRequest.leaves?, shared, found]

theorem look_ask_apart (orderly : backend.IsOrderly storage) (valid : isClusterName request.name = true)
    (validOther : isClusterName other = true) (apart : backend.sameEntry request.name other = false) :
    backend.look other (backend.ask request storage).2 = backend.look other storage := by
  have shown := look_ask orderly valid validOther
  simpa only [left?, apart, Bool.false_eq_true, if_false] using shown

/-- After any number of requests, whichever of them failed, a name shows what was left there last,
or what was there before. -/
theorem look_askAll {requests : List StoreRequest} (orderly : backend.IsOrderly storage)
    (valid : ∀ request ∈ requests, isClusterName request.name = true) (validName : isClusterName name = true) :
    backend.look name (backend.askAll requests storage).2 =
      match backend.lastLeft? name (backend.askAll requests storage).1 with
      | some left => found name left
      | none => backend.look name storage := by
  induction requests generalizing storage with
  | nil => rfl
  | cons request rest ih =>
      have here := valid request List.mem_cons_self
      have first := look_ask orderly here validName
      have later := ih (ask_orderly orderly here) fun other member => valid other (List.mem_cons_of_mem request member)
      simp only [askAll, lastLeft?, List.reverse_cons, List.findSome?_append, List.findSome?_cons,
        List.findSome?_nil] at later ⊢
      rw [later]
      cases List.findSome? _ (backend.askAll rest (backend.ask request storage).2).1.reverse with
      | some left => rfl
      | none =>
          rw [Option.none_or]
          dsimp only
          rw [first]
          cases backend.left? name ⟨request, (backend.ask request storage).1⟩ <;> rfl

theorem askAll_orderly {requests : List StoreRequest} (orderly : backend.IsOrderly storage)
    (valid : ∀ request ∈ requests, isClusterName request.name = true) :
    backend.IsOrderly (backend.askAll requests storage).2 := by
  induction requests generalizing storage with
  | nil => exact orderly
  | cons request rest ih =>
      exact ih (ask_orderly orderly (valid request List.mem_cons_self)) fun other member =>
        valid other (List.mem_cons_of_mem request member)

end Backend

end Muster
