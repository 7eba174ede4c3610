import Muster.Proofs.Store.Paved
import Muster.Proofs.Store.Places
import Muster.Topology

/-!
Every cluster has a room of its own below the home directory. The way to the room is made
when something is saved, one directory at a time, and apart from it nothing is touched
outside of the room, whatever is asked of the files of a cluster and however far it gets.
A manifest that is being prepared changes nothing in the room but its draft.
-/

namespace Muster

/-! ### Names of clusters as names of files -/

theorem isClusterName_iff {name : String} : isClusterName name = true ↔ ∃ first rest,
    name.toList = first :: rest ∧ first.isAlphanum = true ∧
      (∀ c ∈ rest, c.isAlphanum = true ∨ c = '_' ∨ c = '-') ∧ rest.length ≤ 62 := by
  unfold isClusterName
  split
  · rename_i empty
    simp [empty]
  · rename_i first rest chars
    simp [chars, and_assoc, or_assoc]

structure Path.IsStep (name : String) : Prop where
  names : Path.names name = [name]
  relative : name.toList.head? ≠ some '/'
  proper : name ≠ "."
  plain : Path.Plain [name]

-- Only the characters that names are made of occur in one.
theorem not_mem_of_isClusterName {name : String} {c : Char} (valid : isClusterName name = true)
    (other : ¬ (c.isAlphanum = true ∨ c = '_' ∨ c = '-')) : c ∉ name.toList := by
  obtain ⟨first, rest, chars, begins, others, _⟩ := isClusterName_iff.mp valid
  rw [chars]
  intro member
  rcases List.mem_cons.mp member with rfl | later
  · exact other (.inl begins)
  · exact other (others c later)

theorem isStep_of_isClusterName {name : String} (valid : isClusterName name = true) : Path.IsStep name := by
  obtain ⟨first, rest, chars, begins, _, short⟩ := isClusterName_iff.mp valid
  have dotless : '.' ∉ name.toList := not_mem_of_isClusterName valid (by decide)
  have slashless : '/' ∉ name.toList := not_mem_of_isClusterName valid (by decide)
  refine ⟨?_, ?_, ?_, ?_, ?_, ?_⟩
  · refine Path.names_of_slashless slashless ?_
    rintro rfl
    cases chars
  · intro slashed
    rw [chars, List.head?_cons, Option.some.injEq] at slashed
    subst slashed
    exact absurd begins (by decide)
  · rintro rfl
    exact dotless (by decide)
  · intro goesBack
    obtain rfl := List.mem_singleton.mp goesBack
    exact dotless (by decide)
  · intro other member
    obtain rfl := List.mem_singleton.mp member
    have size := utf8ByteSize_le other
    rw [chars, List.length_cons] at size
    simp only [Path.maxNameSize]
    omega
  · intro other member
    obtain rfl := List.mem_singleton.mp member
    exact not_mem_of_isClusterName valid (by decide)

namespace Store.Files

variable {home name other : String} {number : DraftNumber}

def room (home name : String) : List String := Path.place (Path.names (clusterDirectory home name))

theorem place_manifestPath (home name : String) :
    Path.place (Path.names (manifestPath home name)) = room home name ++ [manifestFile] := by
  rw [names_manifestPath, Path.place_append]
  rfl

theorem place_draftPath (home name : String) (number : DraftNumber) :
    Path.place (Path.names (draftPath home name number)) = room home name ++ [draftFile number] := by
  rw [names_draftPath, Path.place_append, Path.place_single (draftFile_ne (by decide))]
  rfl

theorem plain_manifestFile : Path.Plain [manifestFile] := ⟨by decide, by decide, by decide⟩

theorem plain_draftFile (number : DraftNumber) : Path.Plain [draftFile number] := by
  refine ⟨?_, ?_, ?_⟩
  · intro goesBack
    exact draftFile_ne (by decide) (List.mem_singleton.mp goesBack).symm
  · intro other member
    obtain rfl := List.mem_singleton.mp member
    exact short_draftFile number
  · intro other member
    obtain rfl := List.mem_singleton.mp member
    exact not_mem_draftFile (by decide)

theorem plain_manifestPath (plain : Path.Plain (Path.names (clusterDirectory home name))) :
    Path.Plain (Path.names (manifestPath home name)) := by
  rw [names_manifestPath]
  exact plain.append plain_manifestFile

theorem plain_draftPath (plain : Path.Plain (Path.names (clusterDirectory home name))) (number : DraftNumber) :
    Path.Plain (Path.names (draftPath home name number)) := by
  rw [names_draftPath]
  exact plain.append (plain_draftFile number)

-- The path to a draft leads to a directory if there is one in its place.
theorem leadsToDirectory_draftPath {tree : FileTree} (grounded : tree.Grounded)
    (plain : Path.Plain (Path.names (clusterDirectory home name))) (number : DraftNumber) :
    tree.leadsToDirectory (Path.names (draftPath home name number)) =
      tree.isDirectory (room home name ++ [draftFile number]) := by
  have forward := plain_draftPath plain number
  have place := place_draftPath home name number
  rw [names_draftPath] at forward place ⊢
  cases directory : tree.isDirectory (room home name ++ [draftFile number]) with
  | true =>
      have above : tree.isDirectory (room home name) = true := by
        refine grounded _ (draftFile number) ?_
        rw [FileTree.isDirectory_iff.mp directory]
        nofun
      rw [FileTree.leadsToDirectory, FileTree.locate_in_directory grounded forward above, place]
      exact directory
  | false =>
      rw [FileTree.leadsToDirectory]
      split
      · rename_i found leads
        rw [FileTree.locate_place forward.forward leads, place]
        exact directory
      · rfl

theorem names_clusterDirectory (home : String) (step : Path.IsStep name) :
    Path.names (clusterDirectory home name) = Path.names home ++ [name] := by
  rw [clusterDirectory, Path.names_join step.relative, step.names]

theorem plain_clusterDirectory (plain : Path.Plain (Path.names home)) (step : Path.IsStep name) :
    Path.Plain (Path.names (clusterDirectory home name)) := by
  rw [names_clusterDirectory home step]
  exact plain.append step.plain

theorem room_of_step (home : String) (step : Path.IsStep name) :
    room home name = Path.place (Path.names home) ++ [name] := by
  rw [room, names_clusterDirectory home step, Path.place_append, Path.place_single step.proper]

/-! ### Reading in and out of a room -/

structure OutOfTheWay (home name other : String) (number : DraftNumber) : Prop where
  plain : Path.Plain (Path.names (clusterDirectory home other))
  directories : ¬ room home other ++ [manifestFile] <+: room home name
  draft : ¬ room home name ++ [draftFile number] <+: room home other
  manifest : ¬ room home name ++ [manifestFile] <+: room home other

theorem not_prefix_of_length {front back : List String} (file : String) (even : front.length = back.length) :
    ¬ front ++ [file] <+: back := by
  intro within
  have longer := within.length_le
  simp [even] at longer

/-- The names of clusters keep out of each other's way. -/
theorem outOfTheWay_of_step (plain : Path.Plain (Path.names home)) (step : Path.IsStep name)
    (otherStep : Path.IsStep other) : OutOfTheWay home name other number := by
  have even : (room home name).length = (room home other).length := by
    simp [room_of_step home step, room_of_step home otherStep]
  exact ⟨plain_clusterDirectory plain otherStep, not_prefix_of_length _ even.symm, not_prefix_of_length _ even,
    not_prefix_of_length _ even⟩

variable {before after : FileTree}

/-- A draft does not show anywhere. -/
theorem read_of_draft (apart : OutOfTheWay home name other number)
    (confined : FileTree.Confined (· = room home name ++ [draftFile number]) (room home name) before after)
    (grounded : before.Grounded) :
    after.read (Path.names (manifestPath home other)) = before.read (Path.names (manifestPath home other)) := by
  refine confined.read_eq grounded (plain_manifestPath apart.plain) ?_ ?_
  · rw [place_manifestPath]
    exact apart.directories
  · rw [place_manifestPath]
    rintro above way rfl
    rcases List.prefix_concat_iff.mp way with whole | within
    · exact draftFile_ne (by decide) (List.singleton_inj.mp (List.append_inj' whole rfl).2)
    · exact apart.draft within

/-- The manifest of one cluster does not show in the room of another. -/
theorem read_of_save_other (apart : OutOfTheWay home name other number) (different : room home other ≠ room home name)
    (confined : FileTree.Confined (fun place => place = room home name ++ [draftFile number] ∨
      place = room home name ++ [manifestFile]) (room home name) before after)
    (grounded : before.Grounded) :
    after.read (Path.names (manifestPath home other)) = before.read (Path.names (manifestPath home other)) := by
  refine confined.read_eq grounded (plain_manifestPath apart.plain) ?_ ?_
  · rw [place_manifestPath]
    exact apart.directories
  · rw [place_manifestPath]
    rintro above way (rfl | rfl)
    · rcases List.prefix_concat_iff.mp way with whole | within
      · exact draftFile_ne (by decide) (List.singleton_inj.mp (List.append_inj' whole rfl).2)
      · exact apart.draft within
    · rcases List.prefix_concat_iff.mp way with whole | within
      · exact different (List.append_inj' whole rfl).1.symm
      · exact apart.manifest within

/-- What happens in the room of one cluster does not show in that of another. -/
theorem read_of_other (plain : Path.Plain (Path.names home)) (step : Path.IsStep name) (otherStep : Path.IsStep other)
    (different : other ≠ name)
    (confined : FileTree.Confined (room home name <+: ·) (room home name) before after) (grounded : before.Grounded) :
    after.read (Path.names (manifestPath home other)) = before.read (Path.names (manifestPath home other)) := by
  have even : (room home name).length = (room home other).length := by
    simp [room_of_step home step, room_of_step home otherStep]
  refine confined.read_eq grounded (plain_manifestPath (plain_clusterDirectory plain otherStep)) ?_ ?_
  · rw [place_manifestPath]
    exact not_prefix_of_length _ even.symm
  · rw [place_manifestPath]
    intro above way inside
    have begins := List.prefix_of_prefix_length_le (inside.trans way) (List.prefix_append _ _) even.le
    have same := begins.eq_of_length even
    rw [room_of_step home step, room_of_step home otherStep] at same
    exact different (List.singleton_inj.mp (List.append_cancel_left same)).symm

end Store.Files

/-! ### The way to a room -/

namespace Disk

variable {disk : Disk} {names room : List String} {free : List String → Prop}

def makeWay (depth : Nat) (names : List String) (disk : Disk) : Except FileFault Unit × Disk :=
  FileTree.makeDirectoriesBy (fun names disk => disk.ask fun tree => tree.makeDirectory names)
    (fun names disk => disk.tree.leadsToDirectory names) depth names disk

theorem take_makeWay (disk : Disk) (names : List String) :
    disk.take (.makeDirectories names) = disk.makeWay (names.length + 1) names := rfl

theorem ask_makeDirectory_confined (disk : Disk) (plain : Path.Plain names) (within : Path.place names <+: room) :
    FileTree.Confined free room disk.tree (disk.ask fun tree => tree.makeDirectory names).2.tree := by
  rcases asked : disk.ask _ with ⟨fault | ⟨⟩, left⟩
  · rw [ask_error asked]
    exact .refl _
  · have made := ask_ok asked
    simp only [FileTree.makeDirectory] at made
    split at made
    · cases made
    · rename_i place leads
      split at made
      · cases made
      · rename_i nothing
        rw [← Except.ok.inj made]
        exact .put_directory (FileTree.locate_place plain.forward leads ▸ within) nothing
          (FileTree.parent_of_locate plain.forward leads)

theorem makeWay_confined (disk : Disk) (depth : Nat) (plain : Path.Plain names) (within : Path.place names <+: room) :
    FileTree.Confined free room disk.tree (disk.makeWay depth names).2.tree ∧
      (disk.makeWay depth names).2.outage = disk.outage := by
  refine FileTree.makeDirectoriesBy_keeps (fun names => Path.Plain names ∧ Path.place names <+: room)
    (fun after : Disk => FileTree.Confined free room disk.tree after.tree ∧ after.outage = disk.outage) ?_ ?_ depth
    ⟨plain, within⟩ ⟨.refl _, rfl⟩
  · intro names above ⟨plain, within⟩ parent
    obtain ⟨plainly, shorter, _⟩ := plain.of_parent parent
    exact ⟨plainly, shorter ▸ (List.dropLast_prefix _).trans within⟩
  · intro names ⟨plain, within⟩ between ⟨confined, same⟩
    exact ⟨confined.trans (between.ask_makeDirectory_confined plain within), (between.ask_outage _).trans same⟩

-- What a directory is asked for may be there already.
theorem ask_makeDirectory {place : List String} (calm : disk.fails = false) (leads : disk.tree.locate names = .ok place)
    (clear : disk.tree.entry? place = none ∨ disk.tree.isDirectory place = true) :
    ∃ result after, disk.ask (fun tree => tree.makeDirectory names) = (result, after) ∧
      after.tree.isDirectory place = true ∧
      (result = .ok () ∨ result = .error .occupied ∧ after.tree.leadsToDirectory names = true) := by
  rcases clear with nothing | directory
  · have proper : place ≠ [] := by
      rintro rfl
      cases nothing
    have made : disk.tree.makeDirectory names = .ok (disk.tree.put place .directory) := by
      simp only [FileTree.makeDirectory, leads, nothing]
    refine ⟨.ok (), { disk.count with tree := disk.tree.put place .directory }, ?_, ?_, .inl rfl⟩
    · simp only [ask, calm, made]
      rfl
    · exact FileTree.isDirectory_iff.mpr (FileTree.entry_put_self _ proper)
  · have occupied : disk.tree.makeDirectory names = .error .occupied := by
      simp only [FileTree.makeDirectory, leads, FileTree.isDirectory_iff.mp directory]
    refine ⟨.error .occupied, disk.count, ?_, directory, .inr ⟨rfl, ?_⟩⟩
    · simp only [ask, calm, occupied]
      rfl
    · change disk.tree.leadsToDirectory names = true
      simp only [FileTree.leadsToDirectory, leads, directory]

/-- A way on which there are only directories, as far as there is anything, is made to its end. -/
theorem makeWay_succeeds {depth : Nat} (calm : ∀ request, disk.outage request = false) (grounded : disk.tree.Grounded)
    (plain : Path.Plain names) (proper : names.getLast? ≠ some ".") (clear : disk.tree.Clear [] (Path.place names))
    (enough : names.length < depth) :
    ∃ after, disk.makeWay depth names = (.ok (), after) ∧ after.tree.isDirectory (Path.place names) = true := by
  induction depth generalizing names disk with
  | zero => omega
  | succ depth ih =>
      have here := clear (Path.place names) (List.nil_prefix) (List.prefix_refl _)
      have way : disk.tree.locate names = .ok ([] ++ Path.place names) ∨ disk.tree.locate names = .error .missing := by
        rw [FileTree.locate_of_plain plain]
        exact FileTree.follow_of_clear plain (by simpa using clear)
      rw [List.nil_append] at way
      simp only [makeWay, FileTree.makeDirectoriesBy]
      rcases way with leads | missing
      · obtain ⟨result, after, asked, directory, done⟩ := ask_makeDirectory (calm _) leads here
        rcases done with rfl | ⟨rfl, there⟩
        · exact ⟨after, by simp only [asked], directory⟩
        · exact ⟨after, by simp only [asked, there, if_true], directory⟩
      · -- the directory above comes first, and then this one is asked for again
        obtain ⟨front, name, rfl⟩ : ∃ front name, names = front ++ [name] := by
          rcases List.eq_nil_or_concat names with rfl | ⟨front, name, same⟩
          · cases missing
          · exact ⟨front, name, same.trans (List.concat_eq_append ..)⟩
        have proper : name ≠ "." := by simpa using proper
        have whole : Path.place (front ++ [name]) = Path.place front ++ [name] := by
          rw [Path.place_append, Path.place_single proper]
        have among : Path.place front ⊆ front ++ [name] :=
          fun _ member => List.mem_append_left _ (List.mem_filter.mp member).1
        have still : Path.place (Path.place front) = Path.place front := Path.place_place front
        have begins : Path.place front <+: Path.place (front ++ [name]) := whole ▸ List.prefix_append _ _
        have refused : disk.ask (fun tree => tree.makeDirectory (front ++ [name])) = (.error .missing, disk.count) := by
          have fails : disk.fails = false := calm _
          simp only [ask, fails, FileTree.makeDirectory, missing]
          rfl
        have last : (Path.place front).getLast? ≠ some "." := by
          intro same
          simpa using (List.mem_filter.mp (List.mem_of_getLast? same)).2
        have shorter : (Path.place front).length < depth := by
          have filtered : (Path.place front).length ≤ front.length := List.length_filter_le _ _
          rw [List.length_append, List.length_singleton] at enough
          omega
        obtain ⟨ready, made, directory⟩ := @ih disk.count (Path.place front) calm grounded
          (plain.of_subset among) last (still.symm ▸ fun place ahead within => clear place ahead (within.trans begins))
          shorter
        have climbed : FileTree.Confined (fun _ => False) (Path.place (front ++ [name])) disk.count.tree
            (disk.count.makeWay depth (Path.place front)).2.tree ∧
            (disk.count.makeWay depth (Path.place front)).2.outage = disk.count.outage :=
          disk.count.makeWay_confined depth (plain.of_subset among) (still.symm ▸ begins)
        rw [made] at climbed
        rw [still] at directory
        have leads := FileTree.locate_in_directory (climbed.1.grounded grounded) plain directory
        have quiet : ready.fails = false := (congrFun climbed.2 _).trans (calm _)
        obtain ⟨result, after, asked, directory, done⟩ := ask_makeDirectory quiet leads
          (climbed.1.clear_at id here)
        rw [makeWay] at made
        rcases done with rfl | ⟨rfl, there⟩
        · exact ⟨after, by simp only [refused, Path.parent_of_append front proper, made, asked], directory⟩
        · exact ⟨after, by simp only [refused, Path.parent_of_append front proper, made, asked, there, if_true], directory⟩

end Disk

/-! ### What the requests for a cluster do -/

namespace Store.Files

variable {home name : String} {number : DraftNumber} {pieces : List String} {disk after : Disk}

section

variable (plain : Path.Plain (Path.names (clusterDirectory home name)))
include plain

theorem preparation_confined (task : FileStep) (disk : Disk)
    (preparation : IsPreparation (Path.names (clusterDirectory home name)) number task) :
    FileTree.Confined (· = room home name ++ [draftFile number]) (room home name) disk.tree (disk.take task).2.tree := by
  have forward := (plain_draftPath plain number).forward
  have freely := place_draftPath home name number
  rw [names_draftPath] at forward freely
  by_cases single : task.isSingle = true
  · rcases taken : disk.take task with ⟨fault | ⟨⟩, left⟩
    · rw [Disk.take_error taken single]
      exact .refl _
    · have made := Disk.take_ok taken single
      cases task with
      | makeDirectories names => cases single
      | sync names => exact Except.ok.inj made ▸ .refl _
      | create names =>
          obtain rfl := preparation
          exact .write forward freely made
      | append names added =>
          obtain rfl := preparation
          exact .append forward freely made
      | removeFile names =>
          obtain rfl := preparation
          exact .removeFile forward freely made
      | rename source target => exact preparation.elim
      | removeDirectory names => exact preparation.elim
  · cases task with
    | makeDirectories names =>
        obtain rfl := preparation
        rw [Disk.take_makeWay]
        exact (disk.makeWay_confined _ plain
          (List.prefix_refl _)).1
    | create | append | sync | rename | removeFile | removeDirectory => exact (single rfl).elim

/-- A save that has not come to its last step, or fails there, has written a draft at most. -/
theorem unfinished_confined {done : List FileStep} (begun : done <+: saveSteps home name number pieces) (disk : Disk)
    (unfinished : done = saveSteps home name number pieces → (inOrder Disk.take done disk).1 ≠ .ok ()) :
    FileTree.Confined (· = room home name ++ [draftFile number]) (room home name) disk.tree
      (inOrder Disk.take done disk).2.tree := by
  refine unfinished_keeps (fun tree => FileTree.Confined (· = room home name ++ [draftFile number]) (room home name)
    disk.tree tree) ?_ begun unfinished (.refl _)
  intro task preparation between confined
  exact confined.trans (preparation_confined plain task between preparation)

/-- However far a save gets, it has written a draft and a manifest at most. -/
theorem begun_confined {done : List FileStep} (begun : done <+: saveSteps home name number pieces) (disk : Disk) :
    FileTree.Confined (fun place => place = room home name ++ [draftFile number] ∨ place = room home name ++ [manifestFile])
      (room home name) disk.tree (inOrder Disk.take done disk).2.tree := by
  by_cases unfinished : done = saveSteps home name number pieces → (inOrder Disk.take done disk).1 ≠ .ok ()
  · exact (unfinished_confined plain begun disk unfinished).mono fun _ => .inl
  · -- everything was done, and the rename comes after a preparation
    push Not at unfinished
    obtain ⟨rfl, succeeds⟩ := unfinished
    rw [saveSteps_eq] at succeeds ⊢
    obtain ⟨ready, prepared, same, _⟩ := inOrder_split succeeds
    have first := unfinished_confined plain (saveSteps_eq home name number pieces ▸ List.prefix_append _ _) disk
      (fun whole => by simp [saveSteps_eq] at whole)
    rw [same] at succeeds ⊢
    rw [prepared] at first
    refine (first.mono fun _ => .inl).trans ?_
    rcases renamed : ready.take _ with ⟨fault | ⟨⟩, left⟩
    · rw [inOrder_of_error renamed] at succeeds
      cases succeeds
    · rw [inOrder_of_ok renamed]
      exact .rename (plain_draftPath plain number).forward (plain_manifestPath plain).forward
        (.inl (place_draftPath home name number)) (.inr (place_manifestPath home name)) (Disk.take_ok renamed rfl)

theorem save_confined (number : DraftNumber) (text : String) (disk : Disk) :
    FileTree.Confined (fun place => place = room home name ++ [draftFile number] ∨ place = room home name ++ [manifestFile])
      (room home name) disk.tree (save home name number text disk).2.tree := by
  have steps := begun_confined plain (List.prefix_refl (saveSteps home name number [text])) disk
  simp only [save]
  split
  · rename_i done
    rwa [done] at steps
  · rename_i tried stopped
    rw [stopped] at steps
    exact steps.trans ((preparation_confined plain _ tried (isPreparation_discard home name number)).mono fun _ => .inl)

/-- A save that fails leaves a draft at most. -/
theorem failed_save_confined {text : String} {error : StoreError}
    (fails : save home name number text disk = (.error error, after)) :
    FileTree.Confined (· = room home name ++ [draftFile number]) (room home name) disk.tree after.tree := by
  refine failed_save_keeps (fun tree => FileTree.Confined (· = room home name ++ [draftFile number]) (room home name)
    disk.tree tree) ?_ fails (.refl _)
  intro task preparation between confined
  exact confined.trans (preparation_confined plain task between preparation)

theorem delete_confined (disk : Disk) :
    FileTree.Confined (room home name <+: ·) (room home name) disk.tree (delete home name disk).2.tree := by
  have removed (disk : Disk) : FileTree.Confined (room home name <+: ·) (room home name) disk.tree
      (disk.take (.removeFile (Path.names (manifestPath home name)))).2.tree := by
    rcases taken : disk.take _ with ⟨fault | ⟨⟩, left⟩
    · rw [Disk.take_error taken rfl]
      exact .refl _
    · refine .removeFile (plain_manifestPath plain).forward ?_ (Disk.take_ok taken rfl)
      rw [place_manifestPath]
      exact List.prefix_append _ _
  have discarded (disk : Disk) : FileTree.Confined (room home name <+: ·) (room home name) disk.tree
      (discardDirectory home name disk).tree := by
    simp only [discardDirectory]
    rcases taken : disk.take _ with ⟨fault | ⟨⟩, left⟩
    · rw [Disk.take_error taken rfl]
      exact .refl _
    · refine .removeDirectory plain.forward ?_ (Disk.take_ok taken rfl)
      exact List.prefix_refl _
  have first := removed disk
  simp only [delete]
  split
  · rename_i gone
    rw [gone] at first
    exact first.trans (discarded _)
  · rename_i gone
    rw [gone] at first
    exact first.trans (discarded _)
  · rename_i failed
    rw [failed] at first
    exact first

end

/-! ### When nothing fails -/

structure IsOpen (home name : String) (number : DraftNumber) (disk : Disk) : Prop where
  calm : ∀ request, disk.outage request = false
  grounded : disk.tree.Grounded
  directory : disk.tree.isDirectory (room home name) = true
  draft : disk.tree.isDirectory (room home name ++ [draftFile number]) = false
  manifest : disk.tree.isDirectory (room home name ++ [manifestFile]) = false

section

variable (plain : Path.Plain (Path.names (clusterDirectory home name)))
include plain

theorem IsOpen.locate (opened : IsOpen home name number disk) {file : String} (short : Path.Plain [file]) (proper : file ≠ ".") :
    disk.tree.locate (Path.names (clusterDirectory home name) ++ [file]) = .ok (room home name ++ [file]) := by
  have leads := FileTree.locate_in_directory opened.grounded (plain.append short)
    opened.directory
  rwa [Path.place_append, Path.place_single proper] at leads

theorem IsOpen.paved (opened : IsOpen home name number disk) : IsPaved home name number disk := by
  refine ⟨opened.calm, ⟨room home name ++ [draftFile number], ?_, opened.draft⟩,
    ⟨room home name ++ [manifestFile], ?_, opened.manifest⟩⟩
  · rw [names_draftPath]
    exact opened.locate plain (plain_draftFile number) (draftFile_ne (by decide))
  · rw [names_manifestPath]
    exact opened.locate plain plain_manifestFile (by decide)

theorem isOpen_of_way (proper : (Path.names (clusterDirectory home name)).getLast? ≠ some ".")
    (calm : ∀ request, disk.outage request = false) (grounded : disk.tree.Grounded)
    (noFault : ∀ fault, disk.tree.read (Path.names (manifestPath home name)) = .error fault → fault = .missing)
    (free : disk.tree.isDirectory (room home name ++ [draftFile number]) = false) :
    ∃ opened, disk.take (.makeDirectories (Path.names (clusterDirectory home name))) = (.ok (), opened) ∧
      IsOpen home name number opened := by
  have manifest := FileTree.isDirectory_of_read grounded (plain_manifestPath plain) noFault
  rw [place_manifestPath] at manifest
  have way : disk.tree.Clear [] (Path.place (Path.names (clusterDirectory home name))) := by
    rw [FileTree.read_of_plain (plain_manifestPath plain), names_manifestPath] at noFault
    have plainly := plain.append plain_manifestFile
    have clear : disk.tree.Clear [] ([] ++ Path.place (Path.names (clusterDirectory home name))) :=
      FileTree.clear_of_readFrom grounded plainly noFault
    simpa using clear
  obtain ⟨opened, made, directory⟩ := Disk.makeWay_succeeds calm grounded plain proper
    way (Nat.lt_succ_self _)
  have outage := disk.take_outage (.makeDirectories (Path.names (clusterDirectory home name)))
  have confined : FileTree.Confined (· = room home name ++ [draftFile number]) (room home name) disk.tree _ :=
    preparation_confined plain (.makeDirectories (Path.names (clusterDirectory home name))) disk rfl
  rw [Disk.take_makeWay, made] at confined outage
  refine ⟨opened, (disk.take_makeWay _).trans made, ?_, confined.grounded grounded, directory,
    confined.makes_no_directory (not_prefix_of_length _ rfl) free,
    confined.makes_no_directory (not_prefix_of_length _ rfl) manifest⟩
  intro request
  exact (congrFun outage request).trans (calm request)

/-- On a disk that does not fail, a save succeeds where a manifest can be read or is missing, if
no directory is in the place of its draft. -/
theorem saveSteps_succeed (pieces : List String)
    (proper : (Path.names (clusterDirectory home name)).getLast? ≠ some ".")
    (calm : ∀ request, disk.outage request = false) (grounded : disk.tree.Grounded)
    (noFault : ∀ fault, disk.tree.read (Path.names (manifestPath home name)) = .error fault → fault = .missing)
    (free : disk.tree.isDirectory (room home name ++ [draftFile number]) = false) :
    ∃ saved, inOrder Disk.take (saveSteps home name number pieces) disk = (.ok (), saved) := by
  obtain ⟨opened, made, isOpen⟩ := isOpen_of_way plain proper calm grounded noFault free
  exact (isOpen.paved plain).saveSteps pieces made

end

theorem delete_succeeds (calm : ∀ request, disk.outage request = false)
    (noFault : ∀ fault, disk.tree.read (Path.names (manifestPath home name)) = .error fault → fault = .missing) :
    ∃ after, delete home name disk = (.ok (), after) := by
  cases answer : disk.tree.read (Path.names (manifestPath home name)) with
  | ok content => exact delete_of_calm (calm _) answer
  | error fault =>
      obtain rfl := noFault fault answer
      have refused : disk.take (.removeFile (Path.names (manifestPath home name))) = (.error .missing, disk.count) := by
        have fails : disk.fails = false := calm _
        simp only [Disk.take, Disk.ask, fails, FileStep.perform, FileTree.removeFile_of_missing answer]
        rfl
      simp only [delete, refused]
      exact ⟨_, rfl⟩

end Store.Files

end Muster
