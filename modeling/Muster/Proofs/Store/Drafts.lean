import Mathlib.Data.List.Induction
import Mathlib.Data.String.Basic
import Muster.Proofs.History
import Muster.Proofs.Store.Saved

/-!
What a request to the disk leaves of the manifests when it does not come to its end. A
save that fails has made directories and written drafts, and neither of them is a
manifest, so every manifest can still be read where it was. A manifest that was deleted
is missing, and stays so when its directory is removed after it.
-/

namespace Muster

namespace Path

def parts (path : List Char) : List (List Char) := (path.splitOn '/').filter fun name => !name.isEmpty

theorem names_eq (path : String) : names path = (parts path.toList).map String.ofList := rfl

theorem parts_append (before after : List Char) :
    parts (before ++ '/' :: after) = parts before ++ parts after := by
  simp only [parts, List.splitOn]
  rw [List.splitOnP_append_cons _ _ (by decide), List.filter_append]

theorem names_join {base name : String} (relative : name.toList.head? ≠ some '/') :
    names (join base name) = names base ++ names name := by
  simp only [join, if_neg relative]
  by_cases slashed : base = "" ∨ base.toList.getLast? = some '/'
  · rw [if_pos (by simpa using slashed)]
    rcases slashed with rfl | slash
    · rw [String.empty_append]
      rfl
    · obtain ⟨front, same⟩ := List.getLast?_eq_some_iff.mp slash
      simp only [names_eq, String.toList_append, same, List.append_assoc, List.singleton_append]
      have nothing : parts [] = [] := rfl
      rw [parts_append, parts_append, nothing, List.append_nil, List.map_append]
  · rw [if_neg (by simpa using slashed)]
    simp only [names_eq, String.toList_append, List.append_assoc]
    change List.map _ (parts (base.toList ++ '/' :: name.toList)) = _
    rw [parts_append, List.map_append]

-- Without a slash there is one name.
theorem names_of_slashless {name : String} (slashless : '/' ∉ name.toList) (filled : name ≠ "") : names name = [name] := by
  have whole : name.toList.splitOn '/' = [name.toList] := by
    refine List.splitOnP_eq_singleton ?_
    intro c member
    simp only [beq_eq_false_iff_ne]
    rintro rfl
    exact slashless member
  simp [names, whole, filled]

end Path

theorem utf8ByteSize_le (text : String) : text.utf8ByteSize ≤ 4 * text.toList.length := by
  have chars (list : List Char) : String.utf8Len list ≤ 4 * list.length := by
    induction list with
    | nil => simp
    | cons first rest ih =>
        have one := first.utf8Size_le_four
        rw [String.utf8Len_cons, List.length_cons]
        omega
  have whole := chars text.toList
  rwa [← String.utf8ByteSize_ofList, String.ofList_toList] at whole

namespace Store.Files

theorem names_manifestPath (home name : String) :
    Path.names (manifestPath home name) = Path.names (clusterDirectory home name) ++ [manifestFile] :=
  Path.names_join (by decide)

variable {number : DraftNumber}

theorem mem_hexDigits {width value : Nat} {c : Char} (member : c ∈ hexDigits width value) :
    c ∈ "0123456789abcdef".toList := by
  obtain ⟨place, _, rfl⟩ := List.mem_map.mp (List.mem_reverse.mp member)
  have each : ∀ digit < 16, digit.digitChar ∈ "0123456789abcdef".toList := by decide
  exact each _ (Nat.mod_lt _ (by decide))

theorem mem_draftTag {c : Char} (member : c ∈ draftTag number) : c = '-' ∨ c ∈ "0123456789abcdef".toList := by
  simp only [draftTag, List.mem_append, List.mem_cons] at member
  rcases member with ⟨⟨⟨digit | same | digit⟩ | same | digit⟩ | same | digit⟩ | same | digit
  all_goals first | exact .inl same | exact .inr (mem_hexDigits digit)

theorem toList_draftFile (number : DraftNumber) :
    (draftFile number).toList = ".manifest.json.".toList ++ draftTag number ++ ".tmp".toList := by
  rw [draftFile, String.toList_append, String.toList_append, String.toList_ofList]
  rfl

theorem length_draftFile (number : DraftNumber) : (draftFile number).toList.length = 55 := by
  rw [toList_draftFile]
  simp [draftTag, hexDigits]

theorem draftFile_ne {name : String} (other : name.toList.length ≠ 55) : draftFile number ≠ name := by
  rintro rfl
  exact other (length_draftFile number)

theorem short_draftFile (number : DraftNumber) : (draftFile number).utf8ByteSize ≤ Path.maxNameSize := by
  have size := utf8ByteSize_le (draftFile number)
  rw [length_draftFile] at size
  exact size.trans (by decide)

theorem not_mem_draftFile {c : Char} (outside : c ∉ ".manifest.json.tmp-0123456789abcdef".toList) :
    c ∉ (draftFile number).toList := by
  have front : ".manifest.json.".toList ⊆ ".manifest.json.tmp-0123456789abcdef".toList := by decide
  have digits : "0123456789abcdef".toList ⊆ ".manifest.json.tmp-0123456789abcdef".toList := by decide
  have back : ".tmp".toList ⊆ ".manifest.json.tmp-0123456789abcdef".toList := by decide
  rw [toList_draftFile, List.mem_append, List.mem_append]
  rintro ((member | member) | member)
  · exact outside (front member)
  · rcases mem_draftTag member with rfl | digit
    · exact outside (by decide)
    · exact outside (digits digit)
  · exact outside (back member)

theorem names_draftPath (home name : String) (number : DraftNumber) :
    Path.names (draftPath home name number) = Path.names (clusterDirectory home name) ++ [draftFile number] := by
  have slashless : '/' ∉ (draftFile number).toList := not_mem_draftFile (by decide)
  have relative : (draftFile number).toList.head? ≠ some '/' := fun slash => slashless (List.mem_of_head? slash)
  rw [draftPath, Path.names_join relative, Path.names_of_slashless slashless (draftFile_ne (by decide))]

end Store.Files

namespace FileTree

variable {tree after : FileTree} {names : List String} {place : List String} {content : Content}

theorem entry_erase (tree : FileTree) (place other : List String) :
    FileTree.entry? (tree.erase place) other =
      if other = [] then some .directory else if other = place then none else tree.entry? other := by
  simp only [erase, entry?, SortedMap.get?_erase]
  split <;> rfl

theorem isDirectory_iff : tree.isDirectory place = true ↔ tree.entry? place = some .directory := by
  simp [isDirectory]

theorem follow_append (tree : FileTree) (place front : List String) (name : String) :
    tree.follow place (front ++ [name]) =
      match tree.follow place front with
      | .error fault => .error fault
      | .ok next => tree.enter next name := by
  induction front generalizing place with
  | nil =>
      simp only [List.nil_append, follow]
      cases tree.enter place name <;> rfl
  | cons first rest ih =>
      simp only [List.cons_append, follow]
      cases tree.enter place first with
      | error fault => rfl
      | ok next => exact ih next

theorem follow_of_locate (leads : tree.locate names = .ok place) : tree.follow [] names = .ok place := by
  simp only [locate] at leads
  split at leads
  · cases leads
  · exact leads

theorem enter_last {name : String} {next : List String} (proper : name ≠ "." ∧ name ≠ "..")
    (enters : tree.enter place name = .ok next) : next = place ++ [name] := by
  simp only [enter] at enters
  split at enters
  · cases enters
  · cases enters
  · rw [if_neg proper.1, if_neg proper.2] at enters
    split at enters
    · cases enters
    · exact (Except.ok.inj enters).symm

theorem last_of_locate {name : String} (proper : name ≠ "." ∧ name ≠ "..")
    (leads : tree.locate (names ++ [name]) = .ok place) : place.getLast? = some name := by
  have leads := follow_of_locate leads
  rw [follow_append] at leads
  split at leads
  · cases leads
  · rw [enter_last proper leads, List.getLast?_concat]

/-! ### Requests that leave the manifests alone -/

def IsManifest (place : List String) : Prop := place.getLast? = some Store.Files.manifestFile

structure KeepsManifests (before after : FileTree) : Prop where
  directories : ∀ place, before.isDirectory place = true → after.isDirectory place = true
  files : ∀ place content, IsManifest place →
    ( after.entry? place = some (.file content) ↔ before.entry? place = some (.file content))

namespace KeepsManifests

theorem refl (tree : FileTree) : KeepsManifests tree tree := ⟨fun _ => id, fun _ _ _ => Iff.rfl⟩

theorem trans {first middle last : FileTree} (one : KeepsManifests first middle)
    (two : KeepsManifests middle last) : KeepsManifests first last where
  directories place directory := two.directories place (one.directories place directory)
  files place content manifest := (two.files place content manifest).trans (one.files place content manifest)

theorem put_directory (free : tree.entry? place = none) : KeepsManifests tree (tree.put place .directory) := by
  constructor
  · intro other directory
    rw [isDirectory_iff, entry_put]
    rw [isDirectory_iff] at directory
    split
    · rfl
    · split
      · rfl
      · exact directory
  · intro other content _
    rw [entry_put]
    by_cases root : other = []
    · subst root
      rfl
    · by_cases here : other = place
      · subst here
        simp [root, free]
      · simp [root, here]

theorem put_file (draft : ¬ IsManifest place) (free : tree.isDirectory place = false) :
    KeepsManifests tree (tree.put place (.file content)) := by
  constructor
  · intro other directory
    exact isDirectory_put free directory
  · intro other found manifest
    have different : other ≠ place := by
      rintro rfl
      exact draft manifest
    rw [entry_put, if_neg different]
    by_cases root : other = []
    · subst root
      rfl
    · rw [if_neg root]

theorem erase_file (draft : ¬ IsManifest place) (file : tree.entry? place = some (.file content)) :
    KeepsManifests tree (tree.erase place) := by
  constructor
  · intro other directory
    refine isDirectory_erase directory ?_
    rintro rfl
    rw [isDirectory_iff, file] at directory
    cases directory
  · intro other found manifest
    have different : other ≠ place := by
      rintro rfl
      exact draft manifest
    rw [entry_erase, if_neg different]
    by_cases root : other = []
    · subst root
      rfl
    · rw [if_neg root]

theorem makeDirectory (made : tree.makeDirectory names = .ok after) : KeepsManifests tree after := by
  simp only [FileTree.makeDirectory] at made
  split at made
  · cases made
  · split at made
    · cases made
    · rename_i free
      cases made
      exact put_directory free

-- Whoever could read a manifest can still do so.
theorem read_manifest {front : List String} (keeps : KeepsManifests tree after)
    (holds : tree.read (front ++ [Store.Files.manifestFile]) = .ok content) :
    after.read (front ++ [Store.Files.manifestFile]) = .ok content := by
  obtain ⟨place, leads, file⟩ := read_ok holds
  have manifest : IsManifest place := last_of_locate (by decide) leads
  simp only [read, locate_of_directories keeps.directories leads, (keeps.files place content manifest).mpr file]

end KeepsManifests

/-! ### Trees in which nothing is hidden -/

/-- Whatever there is, is in a directory. -/
def Grounded (tree : FileTree) : Prop :=
  ∀ place name, tree.entry? (place ++ [name]) ≠ none → tree.isDirectory place = true

theorem enter_forward {name : String} {next : List String} (forward : name ≠ "..")
    (enters : tree.enter place name = .ok next) : place <+: next ∧ (tree.isDirectory place = true) ∧
      ∀ other : FileTree, other.isDirectory place = true → other.enter place name = .ok next := by
  simp only [enter] at enters
  split at enters
  · cases enters
  · cases enters
  · rename_i here
    refine ⟨?_, isDirectory_iff.mpr here, ?_⟩
    · rw [if_neg forward] at enters
      split at enters
      · exact Except.ok.inj enters ▸ List.prefix_refl _
      · split at enters
        · cases enters
        · exact Except.ok.inj enters ▸ List.prefix_append _ _
    · intro other directory
      simp only [enter, isDirectory_iff.mp directory]
      exact enters

theorem follow_forward {found : List String} (forward : ".." ∉ names)
    (leads : tree.follow place names = .ok found) : place <+: found := by
  induction names generalizing place with
  | nil => exact Except.ok.inj leads ▸ List.prefix_refl _
  | cons name rest ih =>
      simp only [follow] at leads
      split at leads
      · cases leads
      · rename_i next enters
        rw [List.mem_cons, not_or] at forward
        exact (enter_forward (Ne.symm forward.1) enters).1.trans (ih forward.2 leads)

theorem Grounded.isDirectory_of_prefix (grounded : tree.Grounded) {above below : List String}
    (ancestor : above <+: below) (there : tree.entry? below ≠ none) (other : above ≠ below) :
    tree.isDirectory above = true := by
  obtain ⟨rest, rfl⟩ := ancestor
  induction rest using List.reverseRecOn with
  | nil => exact (other (List.append_nil above).symm).elim
  | append_singleton front last ih =>
      rw [← List.append_assoc] at there
      have parent := grounded _ _ there
      by_cases same : above = above ++ front
      · exact same ▸ parent
      · refine ih ?_ same
        rw [isDirectory_iff.mp parent]
        nofun

/-- Where paths only go forward and nothing is hidden, no manifest comes to light that
was not there. -/
theorem KeepsManifests.read_eq {front : List String} (keeps : KeepsManifests tree after)
    (grounded : tree.Grounded) (forward : ".." ∉ front)
    (holds : after.read (front ++ [Store.Files.manifestFile]) = .ok content) :
    tree.read (front ++ [Store.Files.manifestFile]) = .ok content := by
  obtain ⟨place, leads, file⟩ := read_ok holds
  have manifest : IsManifest place := last_of_locate (by decide) leads
  have file := (keeps.files place content manifest).mp file
  have forward : ".." ∉ front ++ [Store.Files.manifestFile] := by
    rw [List.mem_append, List.mem_singleton, not_or]
    exact ⟨forward, by decide⟩
  -- every directory on the way was there before, since the file was
  have same {names found : List String} (forward : ".." ∉ names) (way : after.follow found names = .ok place) :
      tree.follow found names = .ok place := by
    induction names generalizing found with
    | nil => exact way
    | cons name rest ih =>
        simp only [follow] at way ⊢
        split at way
        · cases way
        · rename_i next enters
          rw [List.mem_cons, not_or] at forward
          obtain ⟨ahead, directory, enters⟩ := enter_forward (Ne.symm forward.1) enters
          have above := ahead.trans (follow_forward forward.2 way)
          have here : tree.isDirectory found = true := by
            refine grounded.isDirectory_of_prefix above (by simp [file]) ?_
            rintro rfl
            have stays := (keeps.files found content manifest).mpr file
            rw [isDirectory_iff.mp directory] at stays
            cases stays
          rw [enters tree here]
          exact ih forward.2 way
  have leads : tree.locate (front ++ [Store.Files.manifestFile]) = .ok place := by
    have way := follow_of_locate leads
    simp only [locate] at leads ⊢
    split at leads
    · cases leads
    · rename_i proper
      rw [if_neg proper]
      exact same forward way
  simp only [read, leads, file]

/-! ### Taking something away -/

theorem enter_erase (tree : FileTree) (gone place : List String) (name : String) :
    (tree.erase gone).enter place name = tree.enter place name ∨
      (tree.erase gone).enter place name = .error .missing := by
  simp only [enter, entry_erase]
  by_cases root : place = []
  · subst root
    exact .inl rfl
  · by_cases here : place = gone
    · subst here
      simp [root]
    · simp [root, here]

theorem follow_erase (tree : FileTree) (gone place names : List String) :
    (tree.erase gone).follow place names = tree.follow place names ∨
      (tree.erase gone).follow place names = .error .missing := by
  induction names generalizing place with
  | nil => exact .inl rfl
  | cons name rest ih =>
      simp only [follow]
      rcases tree.enter_erase gone place name with same | missing
      · rw [same]
        cases tree.enter place name with
        | error fault => exact .inl rfl
        | ok next => exact ih next
      · rw [missing]
        exact .inr rfl

theorem locate_erase (tree : FileTree) (gone names : List String) :
    (tree.erase gone).locate names = tree.locate names ∨
      (tree.erase gone).locate names = .error .missing := by
  simp only [locate]
  split
  · exact .inl rfl
  · exact tree.follow_erase gone [] names

theorem read_erase_self (leads : tree.locate names = .ok place) (proper : place ≠ []) :
    (tree.erase place).read names = .error .missing := by
  rcases tree.locate_erase place names with same | missing
  · simp only [read, same, leads, entry_erase, if_neg proper, if_true]
  · simp only [read, missing]

-- What is missing is not found by taking something else away.
theorem read_erase_missing (gone : List String) (missing : tree.read names = .error .missing) :
    (tree.erase gone).read names = .error .missing := by
  rcases tree.locate_erase gone names with same | missing'
  · simp only [read, same, entry_erase] at missing ⊢
    split
    · rename_i fault leads
      simpa only [leads] using missing
    · rename_i place leads
      simp only [leads] at missing
      by_cases root : place = []
      · subst root
        cases missing
      · by_cases here : place = gone
        · subst here
          simp [root]
        · simpa only [root, here, if_false] using missing
  · simp only [read, missing']

theorem removeFile_ok (removed : tree.removeFile names = .ok after) :
    ∃ place content, tree.locate names = .ok place ∧ tree.entry? place = some (.file content) ∧
      after = tree.erase place := by
  simp only [removeFile] at removed
  split at removed
  · cases removed
  · rename_i place leads
    split at removed
    · cases removed
    · cases removed
    · rename_i content file
      cases removed
      exact ⟨place, content, leads, file, rfl⟩

theorem removeFile_missing (fails : tree.removeFile names = .error .missing) :
    tree.read names = .error .missing := by
  simp only [removeFile, read] at fails ⊢
  split at fails
  · exact congrArg Except.error (Except.error.inj fails)
  · split at fails
    · rfl
    · cases fails
    · cases fails

theorem removeFile_of_missing (missing : tree.read names = .error .missing) :
    tree.removeFile names = .error .missing := by
  simp only [removeFile, read] at missing ⊢
  split at missing
  · exact congrArg Except.error (Except.error.inj missing)
  · split at missing
    · rfl
    · cases missing
    · cases missing

theorem removeFile_of_read (holds : tree.read names = .ok content) :
    ∃ place, tree.removeFile names = .ok (tree.erase place) := by
  obtain ⟨place, leads, file⟩ := read_ok holds
  exact ⟨place, by simp only [removeFile, leads, file]⟩

theorem read_of_removeFile (removed : tree.removeFile names = .ok after) :
    after.read names = .error .missing := by
  obtain ⟨place, content, leads, file, rfl⟩ := removeFile_ok removed
  refine read_erase_self leads ?_
  rintro rfl
  cases file

theorem read_of_removeDirectory {directory : List String} (missing : tree.read names = .error .missing)
    (removed : tree.removeDirectory directory = .ok after) : after.read names = .error .missing := by
  simp only [removeDirectory] at removed
  split at removed
  · cases removed
  · rename_i place _
    split at removed
    · cases removed
    · split at removed
      · cases removed
      · cases removed
      · split at removed
        · cases removed
        · exact Except.ok.inj removed ▸ read_erase_missing place missing

end FileTree

/-! ### Requests to a disk -/

namespace Disk

variable {disk after : Disk} {step : FileStep}

theorem ask_error {change : FileTree → Except FileFault FileTree} {fault : FileFault}
    (fails : disk.ask change = (.error fault, after)) : after.tree = disk.tree := by
  simp only [ask] at fails
  split at fails
  · cases fails
    rfl
  · split at fails
    · cases fails
      rfl
    · cases fails

theorem ask_outage (disk : Disk) (change : FileTree → Except FileFault FileTree) :
    (disk.ask change).2.outage = disk.outage := by
  simp only [ask]
  split
  · rfl
  · split <;> rfl

-- One change that does not happen leaves the tree as it is.
theorem take_error {fault : FileFault} (fails : disk.take step = (.error fault, after))
    (single : step.isSingle = true) : after.tree = disk.tree :=
  ask_error (disk.take_of_single single ▸ fails)

theorem take_of_calm (step : FileStep) (single : step.isSingle = true) (calm : disk.fails = false) {tree : FileTree}
    (made : step.perform disk.tree = .ok tree) : ∃ after, disk.take step = (.ok (), after) := by
  rw [disk.take_of_single single]
  simp only [ask, calm, made]
  exact ⟨_, rfl⟩

theorem take_makeDirectories (kept : Disk → Prop) (asked : List String → Prop)
    (closed : ∀ names above, asked names → Path.parent? names = some above → asked above)
    (keeps : ∀ names, asked names → ∀ disk : Disk, kept disk → kept (disk.ask fun tree => tree.makeDirectory names).2)
    {names : List String} (begins : asked names) (start : kept disk) :
    kept (disk.take (.makeDirectories names)).2 :=
  FileTree.makeDirectoriesBy_keeps asked kept closed keeps (names.length + 1) begins start

theorem take_outage (disk : Disk) (step : FileStep) : (disk.take step).2.outage = disk.outage := by
  cases step with
  | makeDirectories names =>
      refine take_makeDirectories (fun after => after.outage = disk.outage) (fun _ => True) ?_ ?_ trivial rfl
      · intro _ _ _ _
        trivial
      · intro names _ after same
        exact (after.ask_outage _).trans same
  | create | append | sync | rename | removeFile | removeDirectory => exact disk.ask_outage _

theorem makeDirectories_keeps (disk : Disk) (names : List String) :
    disk.tree.KeepsManifests (disk.take (.makeDirectories names)).2.tree := by
  refine take_makeDirectories (fun after => disk.tree.KeepsManifests after.tree) (fun _ => True) ?_ ?_ trivial
    (.refl _)
  · intro _ _ _ _
    trivial
  · intro names _ between kept
    rcases asked : between.ask _ with ⟨fault | ⟨⟩, left⟩
    · rw [ask_error asked]
      exact kept
    · exact kept.trans (.makeDirectory (ask_ok asked))

end Disk

namespace Store.Files

def IsPreparation (directory : List String) (number : DraftNumber) : FileStep → Prop
  | .makeDirectories names => names = directory
  | .sync _ => True
  | .create names | .append names _ | .removeFile names => names = directory ++ [draftFile number]
  | .rename .. | .removeDirectory _ => False

variable {home name text : String} {number : DraftNumber} {pieces : List String} {disk after : Disk}

def preparing (home name : String) (number : DraftNumber) (pieces : List String) : List FileStep :=
  let draft := Path.names (draftPath home name number)
  [.makeDirectories (Path.names (clusterDirectory home name)), .create draft] ++
    pieces.map (.append draft) ++ [.sync draft]

theorem saveSteps_eq (home name : String) (number : DraftNumber) (pieces : List String) :
    saveSteps home name number pieces =
    preparing home name number pieces ++
      [.rename (Path.names (draftPath home name number)) (Path.names (manifestPath home name))] := by
  simp [saveSteps, preparing]

theorem isPreparation_of_mem {task : FileStep} (member : task ∈ preparing home name number pieces) :
    IsPreparation (Path.names (clusterDirectory home name)) number task := by
  simp only [preparing, names_draftPath, List.mem_append, List.mem_cons, List.mem_map, List.not_mem_nil,
    or_false] at member
  rcases member with ((rfl | rfl) | ⟨piece, _, rfl⟩) | rfl <;> simp [IsPreparation]

-- So is what takes back the draft of a save that failed.
theorem isPreparation_discard (home name : String) (number : DraftNumber) :
    IsPreparation (Path.names (clusterDirectory home name)) number
      (.removeFile (Path.names (draftPath home name number))) :=
  names_draftPath home name number

/-- What every preparation keeps is kept by a save that has not come to its last step, or fails
there. -/
theorem unfinished_keeps (kept : FileTree → Prop)
    (keeps : ∀ task, IsPreparation (Path.names (clusterDirectory home name)) number task →
      ∀ disk : Disk, kept disk.tree → kept (disk.take task).2.tree)
    {done : List FileStep} (begun : done <+: saveSteps home name number pieces)
    (unfinished : done = saveSteps home name number pieces → (inOrder Disk.take done disk).1 ≠ .ok ())
    (start : kept disk.tree) : kept (inOrder Disk.take done disk).2.tree := by
  have prepared {tasks : List FileStep} (among : tasks <+: preparing home name number pieces) :
      kept (inOrder Disk.take tasks disk).2.tree := by
    refine inOrder_keeps (fun later : Disk => kept later.tree) ?_ start
    intro task member
    exact keeps task (isPreparation_of_mem (among.subset member))
  rw [saveSteps_eq] at begun unfinished
  rcases List.prefix_concat_iff.mp begun with rfl | among
  · have first := prepared (List.prefix_refl _)
    have fails := unfinished rfl
    rw [inOrder_append] at fails ⊢
    split
    · rename_i ready succeeded
      rw [succeeded] at first fails
      -- a rename that fails has not happened
      rcases renamed : ready.take _ with ⟨fault | ⟨⟩, left⟩
      · rw [inOrder_of_error renamed]
        have same : left.tree = ready.tree := Disk.take_error renamed rfl
        exact same ▸ first
      · dsimp only at fails
        rw [inOrder_of_ok renamed] at fails
        exact (fails rfl).elim
    · rename_i stopped
      rw [stopped] at first
      exact first
  · exact prepared among

theorem failed_save_keeps (kept : FileTree → Prop)
    (keeps : ∀ task, IsPreparation (Path.names (clusterDirectory home name)) number task →
      ∀ disk : Disk, kept disk.tree → kept (disk.take task).2.tree)
    {error : StoreError} (fails : save home name number text disk = (.error error, after)) (start : kept disk.tree) :
    kept after.tree := by
  simp only [save] at fails
  split at fails
  · cases fails
  · rename_i tried stopped
    cases fails
    have steps := unfinished_keeps kept keeps (List.prefix_refl (saveSteps home name number [text]))
      (fun _ => by rw [stopped]; nofun) start
    rw [stopped] at steps
    exact keeps _ (isPreparation_discard home name number) tried steps

theorem take_keeps {step : FileStep} (front : List String)
    (preparation : IsPreparation front number step) (disk : Disk) :
    disk.tree.KeepsManifests (disk.take step).2.tree := by
  have draft {tree : FileTree} {place : List String}
      (leads : tree.locate (front ++ [draftFile number]) = .ok place) : ¬ FileTree.IsManifest place := by
    intro manifest
    have last := FileTree.last_of_locate ⟨draftFile_ne (by decide), draftFile_ne (by decide)⟩ leads
    exact draftFile_ne (by decide) (Option.some.inj (last.symm.trans manifest))
  have writes {content : Content} {names : List String} {made : FileTree} (same : names = front ++ [draftFile number])
      (written : disk.tree.write names content = .ok made) : disk.tree.KeepsManifests made := by
    obtain ⟨place, leads, free, rfl⟩ := FileTree.write_ok written
    exact .put_file (draft (same ▸ leads)) free
  by_cases single : step.isSingle = true
  · rcases taken : disk.take step with ⟨fault | ⟨⟩, left⟩
    · rw [Disk.take_error taken single]
      exact .refl _
    · have made := Disk.take_ok taken single
      dsimp only
      generalize left.tree = made_ at made
      cases step with
      | makeDirectories names => cases single
      | sync names => exact Except.ok.inj made ▸ .refl _
      | create names => exact writes preparation made
      | append names added =>
          simp only [FileStep.perform, FileTree.append] at made
          split at made
          · cases made
          · exact writes preparation made
          · exact Except.ok.inj made ▸ .refl _
      | removeFile names =>
          obtain ⟨place, content, leads, file, rfl⟩ := FileTree.removeFile_ok made
          exact .erase_file (draft (preparation ▸ leads)) file
      | rename source target => exact preparation.elim
      | removeDirectory names => exact preparation.elim
  · cases step with
    | makeDirectories names => exact disk.makeDirectories_keeps names
    | create | append | sync | rename | removeFile | removeDirectory => exact (single rfl).elim

/-- A save that fails, at whichever of its steps, leaves the manifests alone. -/
theorem save_error {error : StoreError} (fails : save home name number text disk = (.error error, after)) :
    disk.tree.KeepsManifests after.tree := by
  refine failed_save_keeps disk.tree.KeepsManifests ?_ fails (.refl _)
  intro task preparation between kept
  exact kept.trans (take_keeps _ preparation between)

theorem delete_error {error : StoreError} (fails : delete home name disk = (.error error, after)) :
    after.tree = disk.tree := by
  simp only [delete] at fails
  split at fails
  · cases fails
  · cases fails
  · rename_i failed
    cases fails
    exact Disk.take_error failed rfl

theorem read_of_delete (succeeds : delete home name disk = (.ok (), after)) :
    after.tree.read (Path.names (manifestPath home name)) = .error .missing := by
  have discarded {disk : Disk}
      (missing : disk.tree.read (Path.names (manifestPath home name)) = .error .missing) :
      (discardDirectory home name disk).tree.read (Path.names (manifestPath home name)) =
        .error .missing := by
    simp only [discardDirectory]
    rcases taken : disk.take _ with ⟨fault | ⟨⟩, left⟩
    · rw [Disk.take_error taken rfl]
      exact missing
    · exact FileTree.read_of_removeDirectory missing (Disk.take_ok taken rfl)
  simp only [delete] at succeeds
  split at succeeds
  · rename_i removed
    cases succeeds
    exact discarded (FileTree.read_of_removeFile (Disk.take_ok removed rfl))
  · rename_i left failed
    cases succeeds
    refine discarded ?_
    rw [Disk.take_error failed rfl]
    simp only [Disk.take, Disk.ask] at failed
    split at failed
    · cases failed
    · split at failed
      · rename_i fault missing
        cases failed
        exact FileTree.removeFile_missing missing
      · cases failed
  · cases succeeds

theorem delete_of_calm (calm : disk.fails = false) {content : Content}
    (holds : disk.tree.read (Path.names (manifestPath home name)) = .ok content) :
    ∃ after, delete home name disk = (.ok (), after) := by
  obtain ⟨place, removed⟩ := FileTree.removeFile_of_read holds
  obtain ⟨left, taken⟩ := Disk.take_of_calm (.removeFile _) rfl calm removed
  simp only [delete, taken]
  exact ⟨_, rfl⟩

end Store.Files

end Muster
