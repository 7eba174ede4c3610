import Muster.Proofs.Store.Entries

/-!
The backends that keep something are one and the same finite map from names to manifests.
Whatever is asked of them, as long as nothing fails for reasons of its own, they answer as
the map does: a load with what was saved last and not deleted since, a save and a deletion
always with success.
-/

namespace Muster

/-! ### The map -/

namespace StoreRequest

variable {name : String}

def onMap (request : StoreRequest) (map : SortedMap String Manifest) :
    Except StoreError (Option Manifest) × SortedMap String Manifest :=
  match request with
  | save name manifest => (.ok none, map.insert name manifest)
  | load name => ((Backend.found name (map.get? name)).map some, map)
  | delete name => (.ok none, map.erase name)

def mapAfter (requests : List StoreRequest) (map : SortedMap String Manifest) : SortedMap String Manifest :=
  requests.foldl (fun map request => (request.onMap map).2) map

def answersOfMap : List StoreRequest → SortedMap String Manifest → List (Except StoreError (Option Manifest))
  | [], _ => []
  | request :: rest, map => (request.onMap map).1 :: answersOfMap rest (request.onMap map).2

def leavesUnder? (name : String) (request : StoreRequest) : Option (Option Manifest) :=
  if request.name = name then request.leaves? else none

/-- The manifest of the latest save under a name that no deletion under it follows; before these,
what the map has. -/
def latest? (name : String) (requests : List StoreRequest) (map : SortedMap String Manifest) : Option Manifest :=
  (requests.reverse.findSome? (leavesUnder? name)).getD (map.get? name)

theorem get?_onMap (request : StoreRequest) (map : SortedMap String Manifest) (name : String) :
    (request.onMap map).2.get? name = (leavesUnder? name request).getD (map.get? name) := by
  cases request with
  | save saved manifest =>
      by_cases same : name = saved
      · simp [onMap, leavesUnder?, leaves?, StoreRequest.name, same]
      · simp [onMap, leavesUnder?, StoreRequest.name, same, Ne.symm same]
  | load loaded => simp [onMap, leavesUnder?, leaves?]
  | delete deleted =>
      by_cases same : name = deleted
      · simp [onMap, leavesUnder?, leaves?, StoreRequest.name, same]
      · simp [onMap, leavesUnder?, StoreRequest.name, same, Ne.symm same]

theorem get?_mapAfter (requests : List StoreRequest) (map : SortedMap String Manifest) (name : String) :
    (mapAfter requests map).get? name = latest? name requests map := by
  induction requests generalizing map with
  | nil => rfl
  | cons request rest ih =>
      rw [mapAfter, List.foldl_cons]
      refine (ih (request.onMap map).2).trans ?_
      rw [latest?, latest?, get?_onMap, List.reverse_cons, List.findSome?_append]
      cases rest.reverse.findSome? (leavesUnder? name) with
      | some left => rfl
      | none => cases kept : leavesUnder? name request <;> simp [kept]

theorem answersOfMap_split (earlier later : List StoreRequest) (request : StoreRequest)
    (map : SortedMap String Manifest) :
    (answersOfMap (earlier ++ request :: later) map)[earlier.length]? =
      some (request.onMap (mapAfter earlier map)).1 := by
  induction earlier generalizing map with
  | nil => rfl
  | cons first rest ih => exact ih (first.onMap map).2

end StoreRequest

/-! ### Stores in which nothing fails -/

theorem Store.Files.noFault_of_answer {name : String} {result : Except FileFault Content} {stored : Option Manifest}
    (answers : answer name result = Backend.found name stored) : ∀ fault, result = .error fault → fault = .missing := by
  rintro fault rfl
  cases fault with
  | missing => rfl
  | notDirectory | isDirectory | occupied | notEmpty | badName | outage => cases stored <;> cases answers

namespace Backend

open StoreRequest

variable {backend : Backend} {name : String} {request : StoreRequest} {map : SortedMap String Manifest}
  {storage : Storage} {home container : String} {place : BlobPlace}

def IsPersistent : Backend → Prop
  | files _ | blob _ _ none | memory => True
  | blob _ _ (some _) | discard => False

theorem sameEntry_of_persistent (persistent : backend.IsPersistent) (name other : String) :
    backend.sameEntry name other = decide (name = other) := by
  cases backend with
  | files home => rfl
  | blob place container given =>
      cases given with
      | none => rfl
      | some given => exact persistent.elim
  | memory => rfl
  | discard => exact persistent.elim

def IsReady (backend : Backend) (storage : Storage) : Prop :=
  match backend with
  | files home => (∀ request, storage.disk.outage request = false) ∧
      ∀ name, isClusterName name = true → (files home).DraftsFree name storage
  | blob place _ _ => ∀ request number, (storage.blobsAt place).outage request number = false
  | memory | discard => True

theorem ask_outage_files (home : String) (request : StoreRequest) (storage : Storage) :
    ((files home).ask request storage).2.disk.outage = storage.disk.outage := by
  cases request with
  | save name manifest => exact Store.Files.save_outage home name manifest.encode storage.disk
  | load name => exact (Store.Files.load_frame home name storage.disk).2
  | delete name => exact Store.Files.delete_outage home name storage.disk

theorem ask_drafts (home : String) (request : StoreRequest) (storage : Storage) :
    ((files home).ask request storage).2.drafts = storage.drafts := by
  cases request <;> rfl

theorem ask_outage_blob (place : BlobPlace) (container : String) (given : Option String) (request : StoreRequest)
    (storage : Storage) :
    (((blob place container given).ask request storage).2.blobsAt place).outage = (storage.blobsAt place).outage := by
  cases request with
  | save name manifest =>
      simp only [ask, save_blob, Storage.blobsAt_setBlobs]
      exact Store.Container.save_outage container given name manifest.encode (storage.blobsAt place)
  | load name =>
      simp only [ask, load_blob, Storage.blobsAt_setBlobs]
      exact (Store.Container.load_frame container given name (storage.blobsAt place)).2
  | delete name =>
      simp only [ask, delete_blob, Storage.blobsAt_setBlobs]
      exact Store.Container.delete_outage container given name (storage.blobsAt place)

theorem ask_ready (orderly : backend.IsOrderly storage) (ready : backend.IsReady storage)
    (valid : isClusterName request.name = true) : backend.IsReady (backend.ask request storage).2 := by
  cases backend with
  | files home =>
      refine ⟨?_, ?_⟩
      · intro number
        rw [ask_outage_files]
        exact ready.1 number
      · intro name validName number
        have step := isStep_of_isClusterName validName
        have plain := Store.Files.plain_clusterDirectory orderly.1 step
        have free := ready.2 name validName number
        rw [ask_drafts, Store.Files.leadsToDirectory_draftPath (ask_orderly orderly valid).2 plain]
        rw [Store.Files.leadsToDirectory_draftPath orderly.2 plain] at free
        refine (ask_confined orderly.1 valid storage).makes_no_directory ?_ free
        refine Store.Files.not_prefix_of_length _ ?_
        simp [Store.Files.room_of_step home (isStep_of_isClusterName valid), Store.Files.room_of_step home step]
  | blob place container given =>
      intro kind number
      rw [ask_outage_blob]
      exact ready kind number
  | memory | discard => trivial

theorem load_of_ready (ready : backend.IsReady storage) (name : String) :
    (backend.load name storage).1 = backend.look name storage := by
  cases backend with
  | files home =>
      have fails : storage.disk.fails = false := ready.1 _
      rw [load_files, look_files, Store.Files.load_answer]
      simp only [Disk.read, fails]
      rfl
  | blob place container given =>
      rw [look_blob, load_blob, Store.Container.load_of_calm ready]
  | memory =>
      rw [look_memory]
      simp only [load]
      cases storage.memory.get? name <;> rfl
  | discard => rfl

theorem save_of_ready (orderly : backend.IsOrderly storage) (ready : backend.IsReady storage)
    (valid : isClusterName name = true) {stored : Option Manifest} (shows : backend.look name storage = found name stored)
    (manifest : Manifest) : (backend.save name manifest storage).1 = .ok () := by
  cases backend with
  | files home =>
      have step := isStep_of_isClusterName valid
      have proper : (Path.names (Store.Files.clusterDirectory home name)).getLast? ≠ some "." := by
        simpa [Store.Files.names_clusterDirectory home step] using step.proper
      have plain := Store.Files.plain_clusterDirectory orderly.1 step
      have free := ready.2 name valid storage.disk.requests
      rw [Store.Files.leadsToDirectory_draftPath orderly.2 plain, ← Storage.draft] at free
      rw [look_files] at shows
      obtain ⟨saved, steps⟩ := Store.Files.saveSteps_succeed plain [manifest.encode] proper ready.1 orderly.2
        (Store.Files.noFault_of_answer shows) free
      simp only [save_files, Store.Files.save, steps]
  | blob place container given =>
      have quiet : (storage.blobsAt place).failure? .put = none := by simp [Blobs.failure?, ready .put _]
      simp only [save_blob, Store.Container.save, Blobs.put, quiet]
  | memory | discard => rfl

theorem delete_of_ready (ready : backend.IsReady storage) {stored : Option Manifest}
    (shows : backend.look name storage = found name stored) : (backend.delete name storage).1 = .ok () := by
  cases backend with
  | files home =>
      rw [look_files] at shows
      obtain ⟨after, deleted⟩ := Store.Files.delete_succeeds ready.1 (Store.Files.noFault_of_answer shows)
      rw [delete_files, deleted]
  | blob place container given =>
      have quiet : (storage.blobsAt place).failure? .delete = none := by simp [Blobs.failure?, ready .delete _]
      simp only [delete_blob, Store.Container.delete, Blobs.delete, quiet]
  | memory | discard => rfl

/-! ### Storages that stand for a map -/

structure Mirrors (backend : Backend) (map : SortedMap String Manifest) (storage : Storage) : Prop where
  orderly : backend.IsOrderly storage
  ready : backend.IsReady storage
  shows : ∀ name, isClusterName name = true → backend.look name storage = found name (map.get? name)

/-- A request is answered as by the map, and leaves what stands for the map after it. -/
theorem Mirrors.ask (persistent : backend.IsPersistent) (mirrors : backend.Mirrors map storage)
    (valid : isClusterName request.name = true) :
    (backend.ask request storage).1 = (request.onMap map).1 ∧
      backend.Mirrors (request.onMap map).2 (backend.ask request storage).2 := by
  obtain ⟨orderly, ready, shows⟩ := mirrors
  have answered : (backend.ask request storage).1 = (request.onMap map).1 := by
    cases request with
    | save name manifest =>
        have saved := save_of_ready orderly ready (show isClusterName name = true from valid) (shows name valid) manifest
        simp only [Backend.ask, saved]
        rfl
    | load name =>
        simp only [Backend.ask, load_of_ready ready name, shows name valid]
        rfl
    | delete name =>
        simp only [Backend.ask, delete_of_ready ready (shows name valid)]
        rfl
  refine ⟨answered, ask_orderly orderly valid, ask_ready orderly ready valid, ?_⟩
  intro name validName
  rw [look_ask orderly valid validName, get?_onMap, left?, sameEntry_of_persistent persistent, leavesUnder?,
    answered, Exchange.leaves?]
  by_cases same : request.name = name
  · cases request with
    | save saved manifest => simp [same, onMap, leaves?]
    | load loaded =>
        simp only [same, leaves?, decide_true, if_true]
        cases onMap (.load loaded) map |>.1 <;> exact shows name validName
    | delete deleted => simp [same, onMap, leaves?]
  · simp [same, shows name validName]

theorem Mirrors.askAll (persistent : backend.IsPersistent) (mirrors : backend.Mirrors map storage)
    {requests : List StoreRequest} (valid : ∀ request ∈ requests, isClusterName request.name = true) :
    (backend.askAll requests storage).1.map Exchange.answer = answersOfMap requests map := by
  induction requests generalizing map storage with
  | nil => rfl
  | cons request rest ih =>
      obtain ⟨answered, onward⟩ := mirrors.ask persistent (valid request List.mem_cons_self)
      have later := ih onward fun other member => valid other (List.mem_cons_of_mem request member)
      simp only [Backend.askAll, List.map_cons, answersOfMap, answered, later]

theorem discard_askAll (requests : List StoreRequest) (storage : Storage) :
    discard.askAll requests storage =
      (requests.map fun request => ⟨request, (request.onMap .empty).1⟩, storage) := by
  induction requests with
  | nil => rfl
  | cons request rest ih =>
      have first : discard.ask request storage = ((request.onMap .empty).1, storage) := by
        cases request <;> rfl
      simp only [Backend.askAll, first, ih, List.map_cons]

/-- A store in which nothing was saved stands for the empty map. -/
theorem mirrors_empty (persistent : backend.IsPersistent)
    (plain : ∀ home, backend = .files home → Path.Plain (Path.names home)) :
    backend.Mirrors .empty (.ofTree .empty) := by
  cases backend with
  | files home =>
      have nothing {place : List String} (proper : place ≠ []) : FileTree.empty.entry? place = none := by
        simp [FileTree.empty, FileTree.entry?, proper]
      have grounded : FileTree.empty.Grounded := by
        intro place name there
        exact (there (nothing (by simp))).elim
      refine ⟨⟨plain home rfl, grounded⟩, ⟨fun _ => rfl, ?_⟩, ?_⟩
      · intro name valid number
        have plain := Store.Files.plain_clusterDirectory (plain home rfl) (isStep_of_isClusterName valid)
        refine (Store.Files.leadsToDirectory_draftPath grounded plain _).trans ?_
        simp [FileTree.isDirectory, nothing]
      · intro name valid
        have way := Store.Files.plain_manifestPath
          (Store.Files.plain_clusterDirectory (plain home rfl) (isStep_of_isClusterName valid))
        have missing : FileTree.empty.read (Path.names (Store.Files.manifestPath home name)) = .error .missing := by
          rw [FileTree.read_of_plain way]
          refine FileTree.readFrom_of_clear way ?_ (nothing ?_)
          · intro place _ _
            by_cases root : place = []
            · exact .inr (root ▸ rfl)
            · exact .inl (nothing root)
          · simp [Store.Files.place_manifestPath]
        rw [look_files]
        exact congrArg (Store.Files.answer name) missing
  | blob place container given =>
      cases given with
      | none =>
          refine ⟨trivial, ?_, ?_⟩
          · cases place <;> exact fun _ _ => rfl
          · intro name _
            rw [look_blob]
            cases place <;> rfl
      | some given => exact persistent.elim
  | memory => exact ⟨trivial, trivial, fun name _ => look_memory name _⟩
  | discard => exact persistent.elim

/-- The memory, blobs under names of their own and files answer all requests as one finite map
from names to manifests: saves and deletions with success, whether there is something to delete
or not, and a load with the latest manifest that was saved under the name and not deleted since.
A store that keeps nothing accepts everything and has nothing. -/
theorem stores_are_one_map {backend : Backend} {map : SortedMap String Manifest} {storage : Storage}
    (persistent : backend.IsPersistent) (mirrors : backend.Mirrors map storage) (requests : List StoreRequest)
    (valid : ∀ request ∈ requests, isClusterName request.name = true) :
    let answers := (backend.askAll requests storage).1.map Exchange.answer
    answers = answersOfMap requests map ∧
    (∀ earlier request later, requests = earlier ++ request :: later →
      answers[earlier.length]? = some (match request with
        | .save .. | .delete _ => .ok none
        | .load name => (found name (latest? name earlier map)).map some)) ∧
    ∀ (asked : List StoreRequest) (any : Storage),
      discard.askAll asked any = (asked.map fun request => ⟨request, (request.onMap .empty).1⟩, any) := by
  have same := mirrors.askAll persistent valid
  refine ⟨same, ?_, ?_⟩
  · rintro earlier request later rfl
    rw [same, answersOfMap_split]
    cases request with
    | save | delete => rfl
    | load name => simp only [onMap, get?_mapAfter]
  · intro asked any
    exact discard_askAll asked any

-- Two clusters in files, of which one is deleted.
theorem stores_are_one_map_of_two :
    let small : Manifest := ⟨"small", [], .empty, .epoch⟩
    let big : Manifest := ⟨"big", [], .empty, .epoch⟩
    let requests : List StoreRequest := [.save "small" small, .save "big" big, .load "small", .delete "small",
      .load "small", .load "big", .delete "tiny"]
    (files "state").IsPersistent ∧ (files "state").Mirrors .empty (.ofTree .empty) ∧
    (∀ request ∈ requests, isClusterName request.name = true) ∧
    ((files "state").askAll requests (.ofTree .empty)).1.map Exchange.answer =
      [.ok none, .ok none, .ok (some small), .ok none, .error (.notFound "small"), .ok (some big), .ok none] := by
  intro small big requests
  have persistent : (files "state").IsPersistent := trivial
  have mirrors : (files "state").Mirrors .empty (.ofTree .empty) := by
    apply mirrors_empty persistent
    intro home same
    cases same
    exact ⟨by decide, by decide, by decide⟩
  have valid : ∀ request ∈ requests, isClusterName request.name = true := by
    simp [requests, StoreRequest.name, isClusterName]
  refine ⟨persistent, mirrors, valid, ?_⟩
  refine (stores_are_one_map persistent mirrors requests valid).1.trans ?_
  simp [requests, answersOfMap, onMap, found, Except.map]

end Backend

end Muster
