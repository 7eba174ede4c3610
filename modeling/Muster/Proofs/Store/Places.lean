import Muster.Proofs.Store.Drafts

/-!
Paths that only go forward, and what a change to one part of a tree means for the rest.
Where such a path leads can be read off its names. A change is confined to a room when,
outside of what it is free to change, it does no more than make directories that were
missing on the way there; whatever is read elsewhere is then read as before, and what
could not be read fails as before.
-/

namespace Muster

namespace Path

def place (names : List String) : List String := names.filter (· ≠ ".")

structure Plain (names : List String) : Prop where
  forward : ".." ∉ names
  short : ∀ name ∈ names, name.utf8ByteSize ≤ maxNameSize
  proper : ∀ name ∈ names, '\x00' ∉ name.toList

theorem place_append (front back : List String) : place (front ++ back) = place front ++ place back :=
  List.filter_append front back

theorem append_place_cons (cur : List String) (name : String) (rest : List String) :
    cur ++ place (name :: rest) = cur ++ place [name] ++ place rest := by
  rw [List.append_assoc, ← place_append]
  rfl

theorem place_single {name : String} (proper : name ≠ ".") : place [name] = [name] := by
  simp [place, proper]

theorem parent_of_append (front : List String) {name : String} (proper : name ≠ ".") :
    parent? (front ++ [name]) = some (place front) := by
  have whole : (front ++ [name]).filter (· ≠ ".") = place front ++ [name] :=
    (place_append front [name]).trans (congrArg (place front ++ ·) (place_single proper))
  cases begins : place front with
  | nil =>
      simp only [parent?, whole, begins, List.nil_append]
      rfl
  | cons first rest =>
      simp only [parent?, whole, begins, List.cons_append]
      rw [← List.cons_append, List.dropLast_concat]

theorem place_place (names : List String) : place (place names) = place names := by
  simp [place]

namespace Plain

variable {names front back : List String}

theorem append (first : Plain front) (second : Plain back) : Plain (front ++ back) := by
  constructor
  · intro goesBack
    rcases List.mem_append.mp goesBack with early | late
    · exact first.forward early
    · exact second.forward late
  · intro name member
    rcases List.mem_append.mp member with early | late
    · exact first.short name early
    · exact second.short name late
  · intro name member
    rcases List.mem_append.mp member with early | late
    · exact first.proper name early
    · exact second.proper name late

theorem of_subset (plain : Plain names) (among : front ⊆ names) : Plain front :=
  ⟨fun goesBack => plain.forward (among goesBack), fun name member => plain.short name (among member),
    fun name member => plain.proper name (among member)⟩

theorem tail {name : String} {rest : List String} (plain : Plain (name :: rest)) : Plain rest :=
  plain.of_subset (List.subset_cons_self _ _)

theorem of_parent (plain : Plain names) {above : List String} (parent : parent? names = some above) :
    Plain above ∧ place above = (place names).dropLast ∧ above = place above := by
  simp only [parent?] at parent
  split at parent
  · cases parent
  · cases parent
    have kept : (names.filter (· ≠ ".")).dropLast ⊆ names :=
      fun name member => (List.mem_filter.mp (List.dropLast_subset _ member)).1
    have itself : place (names.filter (· ≠ ".")).dropLast = (names.filter (· ≠ ".")).dropLast := by
      refine List.filter_eq_self.mpr ?_
      intro name member
      exact (List.mem_filter.mp (List.dropLast_subset _ member)).2
    exact ⟨plain.of_subset kept, itself, itself.symm⟩

end Plain

end Path

namespace FileTree

variable {tree before after : FileTree} {names front place cur : List String} {content : Content}

/-! ### Where a path leads -/

theorem follow_place {found : List String} (forward : ".." ∉ names) (leads : tree.follow cur names = .ok found) :
    found = cur ++ Path.place names := by
  induction names generalizing cur with
  | nil =>
      cases leads
      simp [Path.place]
  | cons name rest ih =>
      rw [List.mem_cons, not_or] at forward
      simp only [follow] at leads
      split at leads
      · cases leads
      · rename_i next enters
        have onward := ih forward.2 leads
        simp only [enter] at enters
        split at enters
        · cases enters
        · cases enters
        · by_cases stays : name = "."
          · rw [if_pos stays] at enters
            cases enters
            simpa [Path.place, stays] using onward
          · rw [if_neg stays, if_neg (Ne.symm forward.1)] at enters
            split at enters
            · cases enters
            · cases enters
              simpa [Path.place, stays] using onward

theorem locate_place (forward : ".." ∉ names) (leads : tree.locate names = .ok place) :
    place = Path.place names :=
  follow_place forward (follow_of_locate leads)

theorem enter_plain {name : String} {rest : List String} (plain : Path.Plain (name :: rest))
    (directory : tree.isDirectory cur = true) : tree.enter cur name = .ok (cur ++ Path.place [name]) := by
  have forward : name ≠ ".." := fun goesBack => plain.forward (goesBack ▸ List.mem_cons_self)
  have short : ¬ Path.maxNameSize < name.utf8ByteSize := Nat.not_lt.mpr (plain.short name List.mem_cons_self)
  simp only [enter, isDirectory_iff.mp directory]
  by_cases stays : name = "."
  · simp [Path.place, stays]
  · rw [if_neg stays, if_neg forward, if_neg short, Path.place_single stays]

theorem follow_of_isDirectory (grounded : tree.Grounded) (plain : Path.Plain names)
    (directory : tree.isDirectory (cur ++ Path.place names) = true) :
    tree.follow cur names = .ok (cur ++ Path.place names) := by
  induction names generalizing cur with
  | nil => simp [follow, Path.place]
  | cons name rest ih =>
      have here : tree.isDirectory cur = true := by
        by_cases same : cur = cur ++ Path.place (name :: rest)
        · exact same ▸ directory
        · refine grounded.isDirectory_of_prefix (List.prefix_append _ _) ?_ same
          rw [isDirectory_iff.mp directory]
          exact Option.some_ne_none _
      rw [Path.append_place_cons] at directory ⊢
      simp only [follow, enter_plain plain here]
      exact ih plain.tail directory

theorem locate_of_plain (plain : Path.Plain names) : tree.locate names = tree.follow [] names := by
  have proper : ¬ (names.any fun name => '\x00' ∈ name.toList) = true := by
    simpa using plain.proper
  rw [locate, if_neg proper]

/-- In a directory that is there, every name leads to a place of its own. -/
theorem locate_in_directory {name : String} (grounded : tree.Grounded) (plain : Path.Plain (front ++ [name]))
    (directory : tree.isDirectory (Path.place front) = true) :
    tree.locate (front ++ [name]) = .ok (Path.place (front ++ [name])) := by
  have way : tree.follow [] front = .ok (Path.place front) :=
    follow_of_isDirectory grounded (plain.of_subset (List.subset_append_left _ _)) directory
  have last : Path.Plain [name] := plain.of_subset (List.subset_append_right _ _)
  rw [locate_of_plain plain, follow_append, way, Path.place_append]
  exact enter_plain last directory

/-! ### Single entries -/

theorem entry_put_of_ne {other : List String} (entry : FileEntry) (different : other ≠ place) :
    FileTree.entry? (tree.put place entry) other = tree.entry? other := by
  rw [entry_put, if_neg different]
  split
  · rename_i root
    subst root
    rfl
  · rfl

theorem entry_put_self (entry : FileEntry) (proper : place ≠ []) :
    FileTree.entry? (tree.put place entry) place = some entry := by
  rw [entry_put, if_neg proper, if_pos rfl]

theorem entry_erase_of_ne {other : List String} (different : other ≠ place) :
    FileTree.entry? (tree.erase place) other = tree.entry? other := by
  rw [entry_erase, if_neg different]
  split
  · rename_i root
    subst root
    rfl
  · rfl

theorem isDirectory_of_put_file {other : List String} (proper : place ≠ [])
    (directory : (tree.put place (.file content)).isDirectory other = true) : tree.isDirectory other = true := by
  rw [isDirectory_iff] at directory ⊢
  by_cases here : other = place
  · rw [here, entry_put_self _ proper] at directory
    cases directory
  · rwa [entry_put_of_ne _ here] at directory

theorem isDirectory_of_erase {other : List String} (directory : (tree.erase place).isDirectory other = true) :
    tree.isDirectory other = true := by
  rw [isDirectory_iff] at directory ⊢
  by_cases here : other = place
  · by_cases root : other = []
    · subst root
      rfl
    · rw [entry_erase, if_neg root, if_pos here] at directory
      cases directory
  · rwa [entry_erase_of_ne here] at directory

/-! ### Trees in which nothing is hidden -/

theorem parent_of_follow (forward : ".." ∉ names)
    (start : ∀ above name, cur = above ++ [name] → tree.isDirectory above = true)
    (leads : tree.follow cur names = .ok place) :
    ∀ above name, place = above ++ [name] → tree.isDirectory above = true := by
  induction names generalizing cur with
  | nil =>
      cases leads
      exact start
  | cons step rest ih =>
      rw [List.mem_cons, not_or] at forward
      simp only [follow] at leads
      split at leads
      · cases leads
      · rename_i next enters
        refine ih forward.2 ?_ leads
        simp only [enter] at enters
        split at enters
        · cases enters
        · cases enters
        · rename_i here
          rw [if_neg (Ne.symm forward.1)] at enters
          split at enters
          · cases enters
            exact start
          · split at enters
            · cases enters
            · cases enters
              intro above name same
              obtain ⟨rfl, _⟩ := List.append_inj' same rfl
              exact isDirectory_iff.mpr here

/-- What a path leads to would be in a directory. -/
theorem parent_of_locate (forward : ".." ∉ names) (leads : tree.locate names = .ok place) :
    ∀ above name, place = above ++ [name] → tree.isDirectory above = true := by
  refine parent_of_follow forward ?_ (follow_of_locate leads)
  intro above name nothing
  simp at nothing

theorem Grounded.put_directory (grounded : tree.Grounded) (proper : place ≠ [])
    (parent : ∀ above name, place = above ++ [name] → tree.isDirectory above = true) :
    (tree.put place .directory).Grounded := by
  intro above name there
  have kept (directory : tree.isDirectory above = true) : (tree.put place .directory).isDirectory above = true := by
    rw [isDirectory_iff] at directory ⊢
    by_cases here : above = place
    · rw [here, entry_put_self _ proper]
    · rwa [entry_put_of_ne _ here]
  by_cases here : above ++ [name] = place
  · exact kept (parent above name here.symm)
  · rw [entry_put_of_ne _ here] at there
    exact kept (grounded above name there)

theorem Grounded.put_file (grounded : tree.Grounded) (free : tree.isDirectory place = false)
    (parent : ∀ above name, place = above ++ [name] → tree.isDirectory above = true) :
    (tree.put place (.file content)).Grounded := by
  intro above name there
  by_cases here : above ++ [name] = place
  · exact isDirectory_put free (parent above name here.symm)
  · rw [entry_put_of_ne _ here] at there
    exact isDirectory_put free (grounded above name there)

theorem Grounded.erase (grounded : tree.Grounded) (nothing : ∀ name, tree.entry? (place ++ [name]) = none) :
    (tree.erase place).Grounded := by
  intro above name there
  have different : above ++ [name] ≠ place := by
    rintro rfl
    simp [entry_erase] at there
  rw [entry_erase_of_ne different] at there
  refine isDirectory_erase (grounded above name there) ?_
  rintro rfl
  exact there (nothing name)

/-- Below a file there is nothing. -/
theorem Grounded.below_file (grounded : tree.Grounded) (file : tree.entry? place = some (.file content))
    (name : String) : tree.entry? (place ++ [name]) = none := by
  by_contra there
  have directory := grounded place name there
  rw [isDirectory_iff, file] at directory
  cases directory

theorem below_of_not_hasEntriesBelow (empty : tree.hasEntriesBelow place = false) (name : String) :
    tree.entry? (place ++ [name]) = none := by
  by_contra there
  unfold entry? at there
  rw [if_neg (by simp), SortedMap.get?, Option.map_eq_none_iff, List.find?_eq_none] at there
  push Not at there
  obtain ⟨entry, member, same⟩ := there
  have listed : tree.hasEntriesBelow place = true := by
    refine List.any_eq_true.mpr ⟨entry.1, List.mem_map_of_mem member, ?_⟩
    have same : entry.1 = place ++ [name] := by simpa using same
    simp [same]
  rw [listed] at empty
  cases empty

/-! ### What is missing -/

/-- Nothing is on the way from one place to another but directories, as far as there is anything. -/
def Clear (tree : FileTree) (start finish : List String) : Prop :=
  ∀ place, start <+: place → place <+: finish → tree.entry? place = none ∨ tree.isDirectory place = true

theorem Clear.onward {further finish : List String} (clear : tree.Clear cur finish) (ahead : cur <+: further) :
    tree.Clear further finish :=
  fun place later within => clear place (ahead.trans later) within

theorem follow_of_clear (plain : Path.Plain names) (clear : tree.Clear cur (cur ++ Path.place names)) :
    tree.follow cur names = .ok (cur ++ Path.place names) ∨ tree.follow cur names = .error .missing := by
  induction names generalizing cur with
  | nil =>
      left
      simp [follow, Path.place]
  | cons name rest ih =>
      rcases clear cur (List.prefix_refl _) (List.prefix_append _ _) with nothing | directory
      · simp only [follow, enter, nothing]
        exact .inr trivial
      · rw [Path.append_place_cons] at clear ⊢
        simp only [follow, enter_plain plain directory]
        exact ih plain.tail (clear.onward (List.prefix_append _ _))

def contentAt (tree : FileTree) (place : List String) : Except FileFault Content :=
  match tree.entry? place with
  | none => .error .missing
  | some .directory => .error .isDirectory
  | some (.file content) => .ok content

/-- What reading answers on a way that goes on from a place. -/
def readFrom (tree : FileTree) (place names : List String) : Except FileFault Content :=
  match tree.follow place names with
  | .error fault => .error fault
  | .ok found => tree.contentAt found

theorem read_of_plain (plain : Path.Plain names) : tree.read names = tree.readFrom [] names := by
  rw [read, locate_of_plain plain]
  rfl

theorem readFrom_of_clear (plain : Path.Plain names) (clear : tree.Clear cur (cur ++ Path.place names))
    (nothing : tree.entry? (cur ++ Path.place names) = none) : tree.readFrom cur names = .error .missing := by
  rcases follow_of_clear plain clear with leads | missing
  · simp only [readFrom, leads, contentAt, nothing]
  · simp only [readFrom, missing]

theorem Grounded.nothing_below (grounded : tree.Grounded) (nothing : tree.entry? cur = none) (ahead : cur <+: place) :
    tree.entry? place = none := by
  by_contra there
  have different : cur ≠ place := fun same => there (same ▸ nothing)
  have directory := grounded.isDirectory_of_prefix ahead there different
  rw [isDirectory_iff, nothing] at directory
  cases directory

-- No file is on the way to where something can be read, or is missing.
theorem clear_of_readFrom {name : String} (grounded : tree.Grounded) (plain : Path.Plain (names ++ [name]))
    (noFault : ∀ fault, tree.readFrom cur (names ++ [name]) = .error fault → fault = .missing) :
    tree.Clear cur (cur ++ Path.place names) := by
  induction names generalizing cur with
  | nil =>
      intro place ahead within
      simp only [Path.place, List.filter_nil, List.append_nil] at within
      obtain rfl := within.eq_of_length_le ahead.length_le
      cases here : tree.entry? place with
      | none => exact .inl rfl
      | some entry =>
          cases entry with
          | directory => exact .inr (isDirectory_iff.mpr here)
          | file content => cases noFault .notDirectory (by simp [readFrom, follow, enter, here])
  | cons first rest ih =>
      intro place ahead within
      cases here : tree.entry? cur with
      | none => exact .inl (grounded.nothing_below here ahead)
      | some entry =>
          cases entry with
          | file content => cases noFault .notDirectory (by simp [readFrom, follow, enter, here])
          | directory =>
              have directory : tree.isDirectory cur = true := isDirectory_iff.mpr here
              rw [Path.append_place_cons] at within
              simp only [List.cons_append, readFrom, follow, enter_plain plain directory] at noFault
              by_cases same : cur = place
              · exact .inr (same ▸ directory)
              · -- the places on one way are in a row
                refine ih plain.tail noFault place ?_ within
                refine List.prefix_of_prefix_length_le (List.prefix_append _ _) within ?_
                have longer : cur.length < place.length :=
                  Nat.lt_of_le_of_ne ahead.length_le fun even => same (ahead.eq_of_length even)
                have step : (Path.place [first]).length ≤ 1 := List.length_filter_le _ _
                rw [List.length_append]
                omega

theorem isDirectory_of_read (grounded : tree.Grounded) (plain : Path.Plain names)
    (noFault : ∀ fault, tree.read names = .error fault → fault = .missing) :
    tree.isDirectory (Path.place names) = false := by
  by_contra directory
  have directory : tree.isDirectory ([] ++ Path.place names) = true := by simpa using directory
  have leads := follow_of_isDirectory grounded plain directory
  cases noFault .isDirectory (by
    simp only [read_of_plain plain, readFrom, leads, contentAt, isDirectory_iff.mp directory])

/-! ### Changes that are confined -/

/-- A change that is free to do what it likes in some places. Elsewhere it does no more than
make directories that were missing on the way to a room. -/
structure Confined (free : List String → Prop) (room : List String) (before after : FileTree) : Prop where
  grounded : before.Grounded → after.Grounded
  elsewhere : ∀ place, ¬ free place → after.entry? place = before.entry? place ∨
    place <+: room ∧ before.entry? place = none ∧ after.isDirectory place = true
  directories : ∀ place, after.isDirectory place = true → before.isDirectory place = true ∨ place <+: room

namespace Confined

variable {free other : List String → Prop} {room : List String}

theorem refl (tree : FileTree) : Confined free room tree tree :=
  ⟨id, fun _ _ => .inl rfl, fun _ => .inl⟩

theorem trans {middle : FileTree} (first : Confined free room before middle)
    (second : Confined free room middle after) : Confined free room before after := by
  constructor
  · exact second.grounded ∘ first.grounded
  · intro place kept
    rcases first.elsewhere place kept with same | ⟨within, nothing, made⟩
    · rcases second.elsewhere place kept with still | ⟨within, nothing, made⟩
      · exact .inl (still.trans same)
      · exact .inr ⟨within, same ▸ nothing, made⟩
    · refine .inr ⟨within, nothing, ?_⟩
      rcases second.elsewhere place kept with still | ⟨_, _, made⟩
      · rw [isDirectory_iff] at made ⊢
        exact still.trans made
      · exact made
  · intro place directory
    rcases second.directories place directory with there | within
    · exact first.directories place there
    · exact .inr within

theorem mono (confined : Confined free room before after) (among : ∀ place, free place → other place) :
    Confined other room before after :=
  ⟨confined.grounded, fun place kept => confined.elsewhere place fun within => kept (among place within),
    confined.directories⟩

/-- What is missing, or a directory, stays so where nothing changes freely. -/
theorem clear_at (confined : Confined free room before after) (kept : ¬ free place)
    (clear : before.entry? place = none ∨ before.isDirectory place = true) :
    after.entry? place = none ∨ after.isDirectory place = true := by
  rcases confined.elsewhere place kept with same | ⟨_, _, made⟩
  · rwa [isDirectory_iff, same, ← isDirectory_iff]
  · exact .inr made

theorem makes_no_directory (confined : Confined free room before after) (apart : ¬ place <+: room)
    (empty : before.isDirectory place = false) : after.isDirectory place = false := by
  by_contra directory
  rcases confined.directories place (by simpa using directory) with there | within
  · cases there.symm.trans empty
  · exact apart within

theorem put_directory (within : place <+: room) (nothing : tree.entry? place = none)
    (parent : ∀ above name, place = above ++ [name] → tree.isDirectory above = true) :
    Confined free room tree (tree.put place .directory) := by
  have proper : place ≠ [] := by
    rintro rfl
    cases nothing
  constructor
  · intro grounded
    exact grounded.put_directory proper parent
  · intro other _
    by_cases here : other = place
    · subst here
      exact .inr ⟨within, nothing, isDirectory_iff.mpr (entry_put_self _ proper)⟩
    · exact .inl (entry_put_of_ne _ here)
  · intro other directory
    by_cases here : other = place
    · exact .inr (here ▸ within)
    · rw [isDirectory_iff, entry_put_of_ne _ here] at directory
      exact .inl (isDirectory_iff.mpr directory)

theorem put_file (freely : free place) (empty : tree.isDirectory place = false)
    (parent : ∀ above name, place = above ++ [name] → tree.isDirectory above = true) :
    Confined free room tree (tree.put place (.file content)) := by
  constructor
  · intro grounded
    exact grounded.put_file empty parent
  · intro other kept
    exact .inl (entry_put_of_ne _ fun here => kept (here ▸ freely))
  · intro other directory
    exact .inl (isDirectory_of_put_file (ne_root empty) directory)

theorem erase (freely : free place) (nothing : tree.Grounded → ∀ name, tree.entry? (place ++ [name]) = none) :
    Confined free room tree (tree.erase place) := by
  constructor
  · intro grounded
    exact grounded.erase (nothing grounded)
  · intro other kept
    exact .inl (entry_erase_of_ne fun here => kept (here ▸ freely))
  · intro other directory
    exact .inl (isDirectory_of_erase directory)

theorem write (forward : ".." ∉ names) (freely : free (Path.place names))
    (written : before.write names content = .ok after) : Confined free room before after := by
  obtain ⟨place, leads, empty, rfl⟩ := write_ok written
  obtain rfl := locate_place forward leads
  exact .put_file freely empty (parent_of_locate forward leads)

theorem append {added : String} (forward : ".." ∉ names) (freely : free (Path.place names))
    (appended : before.append names added = .ok after) : Confined free room before after := by
  simp only [FileTree.append] at appended
  split at appended
  · cases appended
  · exact write forward freely appended
  · exact Except.ok.inj appended ▸ .refl _

theorem removeFile (forward : ".." ∉ names) (freely : free (Path.place names))
    (removed : before.removeFile names = .ok after) : Confined free room before after := by
  obtain ⟨place, content, leads, file, rfl⟩ := removeFile_ok removed
  obtain rfl := locate_place forward leads
  exact .erase freely fun grounded => grounded.below_file file

theorem rename {source target : List String} (start : ".." ∉ source) (finish : ".." ∉ target)
    (gone : free (Path.place source)) (freely : free (Path.place target))
    (renamed : before.rename source target = .ok after) : Confined free room before after := by
  obtain ⟨content, origin, place, holds, starts, leads, empty, rfl⟩ := rename_ok renamed
  obtain ⟨_, found, file⟩ := read_ok holds
  cases starts.symm.trans found
  obtain rfl := locate_place start starts
  obtain rfl := locate_place finish leads
  refine trans (.erase gone fun grounded => grounded.below_file file) (.put_file freely ?_ ?_)
  · by_contra directory
    rw [isDirectory_of_erase (by simpa using directory)] at empty
    cases empty
  · intro above name same
    have directory := parent_of_locate finish leads above name same
    refine isDirectory_erase directory ?_
    rintro rfl
    rw [isDirectory_iff, file] at directory
    cases directory

theorem removeDirectory (forward : ".." ∉ names) (freely : free (Path.place names))
    (removed : before.removeDirectory names = .ok after) : Confined free room before after := by
  simp only [FileTree.removeDirectory] at removed
  split at removed
  · cases removed
  · rename_i place leads
    obtain rfl := locate_place forward leads
    split at removed
    · cases removed
    · split at removed
      · cases removed
      · cases removed
      · split at removed
        · cases removed
        · rename_i empty
          simp only [Bool.or_eq_true, decide_eq_true_eq, not_or, Bool.not_eq_true] at empty
          rw [← Except.ok.inj removed]
          exact .erase freely fun _ => below_of_not_hasEntriesBelow empty.2

/-- What is read on a way where nothing changes freely, and that does not end on the way to
the room, is read as before. -/
theorem read_eq (confined : Confined free room before after) (grounded : before.Grounded)
    (plain : Path.Plain names) (apart : ¬ Path.place names <+: room)
    (kept : ∀ above, above <+: Path.place names → ¬ free above) : after.read names = before.read names := by
  have onward {names cur : List String} (plain : Path.Plain names) (apart : ¬ cur ++ Path.place names <+: room)
      (kept : ∀ above, cur <+: above → above <+: cur ++ Path.place names → ¬ free above) :
      after.readFrom cur names = before.readFrom cur names := by
    induction names generalizing cur with
    | nil =>
        simp only [Path.place, List.filter_nil, List.append_nil] at apart kept
        rcases confined.elsewhere cur (kept cur (List.prefix_refl _) (List.prefix_refl _)) with same | ⟨within, _⟩
        · simp only [readFrom, follow, contentAt, same]
        · exact (apart within).elim
    | cons name rest ih =>
        have whole := List.prefix_append cur (Path.place (name :: rest))
        rcases confined.elsewhere cur (kept cur (List.prefix_refl _) whole) with same | ⟨_, nothing, made⟩
        · have enters : after.enter cur name = before.enter cur name := by simp only [enter, same]
          by_cases directory : before.isDirectory cur = true
          · rw [Path.append_place_cons] at apart kept
            simp only [readFrom, follow, enters, enter_plain plain directory]
            exact ih plain.tail apart fun above further => kept above ((List.prefix_append _ _).trans further)
          · have stops : ∃ fault, before.enter cur name = .error fault := by
              rw [isDirectory_iff] at directory
              simp only [enter]
              split
              · exact ⟨_, rfl⟩
              · exact ⟨_, rfl⟩
              · rename_i here
                exact (directory here).elim
            obtain ⟨fault, stops⟩ := stops
            simp only [readFrom, follow, enters, stops]
        · -- nothing was there before, and now there are directories at most
          have missing : before.readFrom cur (name :: rest) = .error .missing :=
            readFrom_of_clear plain (fun _ ahead _ => .inl (grounded.nothing_below nothing ahead))
              (grounded.nothing_below nothing whole)
          rw [missing]
          refine readFrom_of_clear plain ?_ ?_
          · intro above ahead within
            exact confined.clear_at (kept above ahead within) (.inl (grounded.nothing_below nothing ahead))
          · rcases confined.elsewhere _ (kept _ whole (List.prefix_refl _)) with same | ⟨within, _⟩
            · exact same.trans (grounded.nothing_below nothing whole)
            · exact (apart within).elim
  rw [read_of_plain plain, read_of_plain plain]
  exact onward plain (by simpa using apart) fun above _ within => kept above (by simpa using within)

end Confined

end FileTree

end Muster
