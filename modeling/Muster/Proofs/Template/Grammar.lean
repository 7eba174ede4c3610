import Mathlib.Data.List.TakeWhile
import Muster.Template

/-!
What counted lists and role lists look like, as a grammar, and that reading accepts exactly what
the grammar spells and gives what it spells. The readers take as much as fits, so that each of them
reads a phrase back in front of anything that does not go on with it. In a whole text a phrase ends
with the text or before a comma.
-/

namespace Muster.Template

variable {text rest front after : List Char} {name : String} {names : List String} {set : RoleSet}
  {entry : UInt32 × RoleSet} {entries : List (UInt32 × RoleSet)}

/-! ### The grammar -/

def AreBlanks (text : List Char) : Prop := ∀ c ∈ text, isSeparatingBlank c = true

def IsRoleName (name : String) : Prop := name.toList ≠ [] ∧ ∀ c ∈ name.toList, isRoleChar c = true

structure AreRoles (set : RoleSet) : Prop where
  filled : set.isEmpty = false
  valid : ∀ name ∈ set, IsRoleName name

/-- `role ('+' role)*`, and the names in order. -/
inductive SpellsNames : List Char → List String → Prop
  | one {name : String} (valid : IsRoleName name) : SpellsNames name.toList [name]
  | more {name : String} {text : List Char} {names : List String} (valid : IsRoleName name)
      (others : SpellsNames text names) : SpellsNames (name.toList ++ '+' :: text) (name :: names)

/-- `blank* role ('+' role)* blank*`. -/
inductive SpellsRoles : List Char → List String → Prop
  | padded {before text after : List Char} {names : List String} (leading : AreBlanks before)
      (named : SpellsNames text names) (trailing : AreBlanks after) : SpellsRoles (before ++ text ++ after) names

/-- `blank* digit+ blank+ role ('+' role)* blank*`, where the number fits into 32 bits, and the number with
the set of the names. -/
inductive SpellsEntry : List Char → UInt32 × RoleSet → Prop
  | numbered {before digits between text after : List Char} {count : UInt32} {names : List String}
      (leading : AreBlanks before) (some : digits ≠ []) (numeric : ∀ c ∈ digits, c.isDigit = true)
      (value : count.toNat = Text.decimalValue digits) (apart : between ≠ []) (blank : AreBlanks between)
      (named : SpellsNames text names) (trailing : AreBlanks after) :
      SpellsEntry (before ++ digits ++ between ++ text ++ after) (count, .ofList names)

/-- `entry (',' entry)*`, and the entries in order. -/
inductive SpellsEntries : List Char → List (UInt32 × RoleSet) → Prop
  | one {text : List Char} {entry : UInt32 × RoleSet} (spelled : SpellsEntry text entry) : SpellsEntries text [entry]
  | more {text rest : List Char} {entry : UInt32 × RoleSet} {entries : List (UInt32 × RoleSet)}
      (spelled : SpellsEntry text entry) (others : SpellsEntries rest entries) :
      SpellsEntries (text ++ ',' :: rest) (entry :: entries)

/-! ### Taking as much as fits -/

def Stops (taken : Char → Bool) (rest : List Char) : Prop := ∀ c ∈ rest.head?, taken c = false

section
variable {taken : Char → Bool}

theorem stops_cons {c : Char} (other : taken c = false) : Stops taken (c :: rest) := by
  simpa [Stops] using other

theorem stops_append (some : front ≠ []) (others : ∀ c ∈ front, taken c = false) (rest : List Char) :
    Stops taken (front ++ rest) := by
  obtain ⟨c, tail, rfl⟩ := List.exists_cons_of_ne_nil some
  exact stops_cons (others c List.mem_cons_self)

theorem takeWhile_append_stops (all : ∀ c ∈ front, taken c = true) (stops : Stops taken rest) :
    (front ++ rest).takeWhile taken = front := by
  rw [List.takeWhile_append_of_pos all]
  cases rest with
  | nil => simp
  | cons c rest => simp [stops c rfl]

theorem dropWhile_append_stops (all : ∀ c ∈ front, taken c = true) (stops : Stops taken rest) :
    (front ++ rest).dropWhile taken = rest := by
  rw [List.dropWhile_append_of_pos all]
  cases rest with
  | nil => rfl
  | cons c rest => simp [stops c rfl]

end

theorem skipBlanks_append (blanks : AreBlanks front) (stops : Stops isSeparatingBlank rest) :
    skipBlanks (front ++ rest) = rest := dropWhile_append_stops blanks stops

theorem areBlanks_nil : AreBlanks [] := nofun

theorem exists_blanks (text : List Char) : ∃ blanks, AreBlanks blanks ∧ text = blanks ++ skipBlanks text :=
  ⟨text.takeWhile isSeparatingBlank, fun _ => List.mem_takeWhile_imp, List.takeWhile_append_dropWhile.symm⟩

-- What stands between phrases is part of none.
theorem isRoleChar_of_between {c : Char} (between : isSeparatingBlank c = true ∨ c = ',') : isRoleChar c = false := by
  simp only [isSeparatingBlank, Bool.or_eq_true, decide_eq_true_eq] at between
  rcases between with (((rfl | rfl) | rfl) | rfl) | rfl <;> decide

theorem isRoleChar_of_isDigit {c : Char} (digit : c.isDigit = true) : isRoleChar c = true := by
  simp [isRoleChar, Char.isAlphanum, digit]

theorem not_isSeparatingBlank {c : Char} (role : isRoleChar c = true) : isSeparatingBlank c = false := by
  by_contra blank
  rw [isRoleChar_of_between (.inl (by simpa using blank))] at role
  cases role

/-! ### Role names -/

theorem SpellsNames.begins (named : SpellsNames text names) : ∃ c tail, text = c :: tail ∧ isRoleChar c = true := by
  cases named with
  | one valid =>
      obtain ⟨c, tail, same⟩ := List.exists_cons_of_ne_nil valid.1
      exact ⟨c, tail, same, valid.2 c (by rw [same]; exact List.mem_cons_self)⟩
  | more valid others =>
      obtain ⟨c, tail, same⟩ := List.exists_cons_of_ne_nil valid.1
      exact ⟨c, _, by rw [same]; rfl, valid.2 c (by rw [same]; exact List.mem_cons_self)⟩

theorem readRole_append (valid : IsRoleName name) (stops : Stops isRoleChar rest) :
    readRole (name.toList ++ rest) = .ok (name, rest) := by
  unfold readRole
  rw [takeWhile_append_stops valid.2 stops, dropWhile_append_stops valid.2 stops]
  split
  · rename_i nothing
    exact (valid.1 nothing).elim
  · rw [String.ofList_toList]

theorem readRole_sound (read : readRole text = .ok (name, rest)) : text = name.toList ++ rest ∧ IsRoleName name := by
  unfold readRole at read
  split at read
  · cases read
  · rename_i some
    cases read
    rw [IsRoleName, String.toList_ofList]
    exact ⟨List.takeWhile_append_dropWhile.symm, some, fun _ => List.mem_takeWhile_imp⟩

theorem moreRoles_plus (text : List Char) : moreRoles ('+' :: text) =
    match readRole text with
    | .error _ => ([], '+' :: text)
    | .ok (name, rest) => (name :: (moreRoles rest).1, (moreRoles rest).2) := by
  rw [moreRoles, readRole]
  cases text.takeWhile isRoleChar <;> rfl

theorem moreRoles_stops (stops : Stops (· = '+') rest) : moreRoles rest = ([], rest) := by
  cases rest with
  | nil => rw [moreRoles]; simp
  | cons c rest =>
      have other : c ≠ '+' := by simpa using stops c rfl
      rw [moreRoles]
      simp [other]

theorem moreRoles_sound (valid : IsRoleName name) (text : List Char) :
    ∃ spelled, name.toList ++ text = spelled ++ (moreRoles text).2 ∧ SpellsNames spelled (name :: (moreRoles text).1) := by
  fun_induction moreRoles text generalizing name with
  | case1 rest nothing => exact ⟨name.toList, rfl, .one valid⟩
  | case2 rest more some =>
      rename_i ih
      have next : IsRoleName (.ofList (rest.takeWhile isRoleChar)) := by
        rw [IsRoleName, String.toList_ofList]
        exact ⟨some, fun _ => List.mem_takeWhile_imp⟩
      obtain ⟨spelled, same, named⟩ := ih next
      rw [String.toList_ofList, List.takeWhile_append_dropWhile] at same
      exact ⟨name.toList ++ '+' :: spelled, by rw [same]; simp [more], .more valid named⟩
  | case3 text other => exact ⟨name.toList, rfl, .one valid⟩

theorem readRoles_sound (read : readRoles text = .ok (set, rest)) :
    ∃ spelled names, text = spelled ++ rest ∧ SpellsNames spelled names ∧ set = .ofList names := by
  unfold readRoles at read
  split at read
  · cases read
  · rename_i name tail first
    cases read
    obtain ⟨rfl, valid⟩ := readRole_sound first
    obtain ⟨spelled, same, named⟩ := moreRoles_sound valid tail
    exact ⟨spelled, _, same, named, rfl⟩

theorem moreRoles_append (named : SpellsNames text names) (stops : Stops isRoleChar rest) (last : Stops (· = '+') rest) :
    moreRoles ('+' :: (text ++ rest)) = (names, rest) := by
  induction named with
  | one valid =>
      rw [moreRoles_plus, readRole_append valid stops]
      simp only [moreRoles_stops last]
  | more valid others ih =>
      rw [moreRoles_plus, List.append_assoc, List.cons_append, readRole_append valid (stops_cons (by decide))]
      simp only [ih]

theorem readRoles_append (named : SpellsNames text names) (stops : Stops isRoleChar rest) (last : Stops (· = '+') rest) :
    readRoles (text ++ rest) = .ok (.ofList names, rest) := by
  unfold readRoles
  cases named with
  | one valid =>
      rw [readRole_append valid stops]
      simp only [moreRoles_stops last]
  | more valid others =>
      rw [List.append_assoc, List.cons_append, readRole_append valid (stops_cons (by decide))]
      simp only [moreRoles_append others stops last]

def Ends (rest : List Char) : Prop := ∀ c ∈ rest.head?, c = ','

-- Blanks and what ends an entry stop every reader that takes neither blanks nor commas.
theorem stops_blanks {taken : Char → Bool} (blanks : AreBlanks after) (ends : Ends rest)
    (others : ∀ c, isSeparatingBlank c = true ∨ c = ',' → taken c = false) : Stops taken (after ++ rest) := by
  intro c first
  cases after with
  | nil => exact others c (.inr (ends c first))
  | cons blank after =>
      obtain rfl : blank = c := Option.some.inj first
      exact others blank (.inl (blanks blank List.mem_cons_self))

theorem readRoleList_sound (read : readRoleList text = .ok (set, rest)) :
    ∃ spelled names, text = spelled ++ rest ∧ SpellsRoles spelled names ∧ set = .ofList names := by
  unfold readRoleList at read
  split at read
  · cases read
  · rename_i roles left named
    cases read
    obtain ⟨before, leading, outset⟩ := exists_blanks text
    obtain ⟨spelled, names, middle, spells, rfl⟩ := readRoles_sound named
    obtain ⟨after, trailing, ending⟩ := exists_blanks left
    refine ⟨before ++ spelled ++ after, names, ?_, .padded leading spells trailing, rfl⟩
    calc
      text = before ++ (spelled ++ (after ++ skipBlanks left)) := by rw [← ending, ← middle, ← outset]
      _ = before ++ spelled ++ after ++ skipBlanks left := by simp

theorem readRoleList_append (spelled : SpellsRoles text names) (ends : Ends rest) :
    readRoleList (text ++ rest) = .ok (.ofList names, rest) := by
  obtain @⟨before, text, after, names, leading, named, trailing⟩ := spelled
  have outset : skipBlanks (before ++ (text ++ (after ++ rest))) = text ++ (after ++ rest) := by
    refine skipBlanks_append leading ?_
    obtain ⟨c, tail, rfl, role⟩ := named.begins
    exact stops_cons (not_isSeparatingBlank role)
  have roles : readRoles (text ++ (after ++ rest)) = .ok (.ofList names, after ++ rest) := by
    refine readRoles_append named (stops_blanks trailing ends fun c => isRoleChar_of_between)
      (stops_blanks trailing ends fun c between => decide_eq_false ?_)
    rintro rfl
    exact absurd between (by decide)
  have ending : skipBlanks (after ++ rest) = rest := by
    refine skipBlanks_append trailing fun c first => ?_
    rw [ends c first]
    rfl
  simp only [List.append_assoc, readRoleList, outset, roles, ending]

/-! ### Entries -/

theorem readCount_sound {count : Nat} (read : readCount text = .ok (count, rest)) :
    ∃ digits, text = digits ++ rest ∧ digits ≠ [] ∧ (∀ c ∈ digits, c.isDigit = true) ∧
      count = Text.decimalValue digits ∧ count ≤ countLimit := by
  unfold readCount at read
  split at read
  · cases read
  · rename_i some
    split at read
    · rename_i fits
      cases read
      exact ⟨_, List.takeWhile_append_dropWhile.symm, some, fun _ => List.mem_takeWhile_imp, rfl, fits⟩
    · cases read

theorem readCount_append {digits : List Char} {count : UInt32} (some : digits ≠ [])
    (numeric : ∀ c ∈ digits, c.isDigit = true) (value : count.toNat = Text.decimalValue digits)
    (stops : Stops Char.isDigit rest) : readCount (digits ++ rest) = .ok (count.toNat, rest) := by
  unfold readCount
  rw [takeWhile_append_stops numeric stops, dropWhile_append_stops numeric stops]
  have fits : Text.decimalValue digits ≤ countLimit := value ▸ Nat.le_of_lt_succ count.toNat_lt
  split
  · exact (some rfl).elim
  · rw [if_pos fits, value]

theorem readEntry_blank {count : Nat} {c : Char} (counted : readCount (skipBlanks text) = .ok (count, c :: rest))
    (blank : isSeparatingBlank c = true) : readEntry text =
      match readRoleList rest with
      | .error stopped => .error stopped
      | .ok (roles, left) => .ok ((.ofNat count, roles), left) := by
  simp only [readEntry, counted, blank, ↓reduceIte, readRoleList]
  cases readRoles (skipBlanks rest) <;> rfl

theorem readEntry_sound (read : readEntry text = .ok (entry, rest)) :
    ∃ spelled, text = spelled ++ rest ∧ SpellsEntry spelled entry := by
  obtain ⟨before, leading, outset⟩ := exists_blanks text
  rcases counted : readCount (skipBlanks text) with stopped | ⟨count, _ | ⟨c, tail⟩⟩
  · simp [readEntry, counted] at read
  · simp [readEntry, counted] at read
  · by_cases blank : isSeparatingBlank c = true
    · rw [readEntry_blank counted blank] at read
      split at read
      · cases read
      · rename_i roles left named
        cases read
        obtain ⟨digits, same, some, numeric, rfl, fits⟩ := readCount_sound counted
        obtain ⟨spelled, names, rfl, padded, rfl⟩ := readRoleList_sound named
        obtain @⟨between, spelled, after, names, apart, spells, trailing⟩ := padded
        have value : (UInt32.ofNat (Text.decimalValue digits)).toNat = Text.decimalValue digits := by
          rw [UInt32.toNat_ofNat']
          exact Nat.mod_eq_of_lt (Nat.lt_succ_of_le fits)
        refine ⟨before ++ digits ++ (c :: between) ++ spelled ++ after, ?_, ?_⟩
        · rw [outset, same]
          simp
        · exact .numbered leading some numeric value (by simp) (List.forall_mem_cons.mpr ⟨blank, apart⟩) spells trailing
    · simp [readEntry, counted, blank] at read

theorem readEntry_append (spelled : SpellsEntry text entry) (ends : Ends rest) :
    readEntry (text ++ rest) = .ok (entry, rest) := by
  obtain @⟨before, digits, between, text, after, count, names, leading, some, numeric, value, apart, blanks, named, trailing⟩ :=
    spelled
  obtain ⟨blank, between, rfl⟩ := List.exists_cons_of_ne_nil apart
  obtain ⟨separates, others⟩ := List.forall_mem_cons.mp blanks
  have outset : before ++ digits ++ blank :: between ++ text ++ after ++ rest =
      before ++ (digits ++ blank :: (between ++ text ++ after ++ rest)) := by simp
  have counted : readCount (digits ++ blank :: (between ++ text ++ after ++ rest)) =
      .ok (count.toNat, blank :: (between ++ text ++ after ++ rest)) := by
    refine readCount_append some numeric value (stops_cons ?_)
    by_contra digit
    have role := isRoleChar_of_isDigit (c := blank) (by simpa using digit)
    rw [isRoleChar_of_between (.inl separates)] at role
    cases role
  have skipped : skipBlanks (before ++ (digits ++ blank :: (between ++ text ++ after ++ rest))) =
      digits ++ blank :: (between ++ text ++ after ++ rest) := by
    refine skipBlanks_append leading (stops_append some (fun c member => ?_) _)
    exact not_isSeparatingBlank (isRoleChar_of_isDigit (numeric c member))
  rw [outset, readEntry_blank (skipped ▸ counted) separates, readRoleList_append (.padded others named trailing) ends]
  simp only [UInt32.ofNat_toNat]

/-! ### Lists of entries -/

theorem moreEntries_sound (spelled : SpellsEntry front entry) (text : List Char) :
    ∃ whole, front ++ text = whole ++ (moreEntries text).2 ∧ SpellsEntries whole (entry :: (moreEntries text).1) := by
  fun_induction moreEntries text generalizing front entry with
  | case1 rest stopped failed => exact ⟨front, rfl, .one spelled⟩
  | case2 rest next after read more =>
      rename_i ih
      obtain ⟨phrase, rfl, spells⟩ := readEntry_sound read
      obtain ⟨whole, same, others⟩ := ih spells
      exact ⟨front ++ ',' :: whole, by rw [same]; simp [more], .more spelled others⟩
  | case3 text other => exact ⟨front, rfl, .one spelled⟩

theorem readEntries_sound (read : readEntries text = .ok (entries, [])) : SpellsEntries text entries := by
  unfold readEntries at read
  split at read
  · cases read
  · rename_i entry rest first
    obtain ⟨phrase, rfl, spells⟩ := readEntry_sound first
    obtain ⟨whole, same, others⟩ := moreEntries_sound spells rest
    simp only [Except.ok.injEq, Prod.mk.injEq] at read
    obtain ⟨rfl, nothing⟩ := read
    rw [nothing, List.append_nil] at same
    exact same ▸ others

theorem moreEntries_comma (text : List Char) : moreEntries (',' :: text) =
    match readEntries text with
    | .error _ => ([], ',' :: text)
    | .ok (entries, rest) => (entries, rest) := by
  rw [moreEntries, readEntries]
  split <;> rename_i read <;> rw [read]

theorem readEntries_complete (spelled : SpellsEntries text entries) : readEntries text = .ok (entries, []) := by
  unfold readEntries
  induction spelled with
  | one spelled =>
      have read := readEntry_append spelled (show Ends [] from nofun)
      rw [List.append_nil] at read
      rw [read]
      simp [moreEntries]
  | more spelled others ih =>
      rw [readEntry_append spelled (by simp [Ends])]
      simp only [moreEntries_comma, readEntries, ih]

theorem isBlank_of_isDigit {c : Char} (digit : c.isDigit = true) : Text.isBlank c = false := by
  obtain ⟨least, most⟩ : 48 ≤ c.toNat ∧ c.toNat ≤ 57 := by
    simpa [Char.isDigit, UInt32.le_iff_toNat_le] using digit
  simp only [Text.isBlank, Bool.or_eq_false_iff, Bool.and_eq_false_iff, decide_eq_false_iff_not]
  omega

theorem SpellsEntry.hasDigit (spelled : SpellsEntry text entry) : ∃ c ∈ text, c.isDigit = true := by
  cases spelled with
  | numbered leading some numeric =>
      obtain ⟨c, tail, rfl⟩ := List.exists_cons_of_ne_nil some
      exact ⟨c, by simp, numeric c List.mem_cons_self⟩

theorem SpellsEntries.hasDigit (spelled : SpellsEntries text entries) : ∃ c ∈ text, c.isDigit = true := by
  cases spelled with
  | one spelled => exact spelled.hasDigit
  | more spelled others =>
      obtain ⟨c, member, digit⟩ := spelled.hasDigit
      exact ⟨c, List.mem_append_left _ member, digit⟩

theorem SpellsNames.areRoles (named : SpellsNames text names) : AreRoles (.ofList names) := by
  have valid : ∀ name ∈ names, IsRoleName name := by
    induction named with
    | one valid => exact List.forall_mem_singleton.mpr valid
    | more valid _ ih => exact List.forall_mem_cons.mpr ⟨valid, ih⟩
  refine ⟨?_, fun name member => valid name ((SortedSet.mem_ofList _ _).mp member)⟩
  obtain ⟨name, member⟩ : ∃ name, name ∈ names := by cases named <;> exact ⟨_, List.mem_cons_self⟩
  have listed : name ∈ (SortedSet.ofList names).toList := (SortedSet.mem_ofList names name).mpr member
  simpa [SortedSet.isEmpty] using List.ne_nil_of_mem listed

theorem SpellsRoles.areRoles (spelled : SpellsRoles text names) : AreRoles (.ofList names) := by
  cases spelled with
  | padded _ named _ => exact named.areRoles

theorem SpellsEntry.areRoles (spelled : SpellsEntry text entry) : AreRoles entry.2 := by
  cases spelled with
  | numbered _ _ _ _ _ _ named _ => exact named.areRoles

theorem SpellsEntries.areRoles (spelled : SpellsEntries text entries) : ∀ entry ∈ entries, AreRoles entry.2 := by
  induction spelled with
  | one spelled => exact List.forall_mem_singleton.mpr spelled.areRoles
  | more spelled _ ih => exact List.forall_mem_cons.mpr ⟨spelled.areRoles, ih⟩

theorem SpellsEntries.ne_nil (spelled : SpellsEntries text entries) : entries ≠ [] := by
  cases spelled <;> exact List.cons_ne_nil _ _

-- A list of entries is not refused for want of entries: there is a digit in it.
theorem SpellsEntries.not_allBlank {text : String} (spelled : SpellsEntries text.toList entries) :
    Text.allBlank text = false := by
  obtain ⟨c, member, digit⟩ := spelled.hasDigit
  apply Bool.eq_false_iff.mpr
  intro blank
  have white := List.all_eq_true.mp blank c member
  rw [isBlank_of_isDigit digit] at white
  cases white

theorem complete_eq_ok {α : Type} {reading : Reading α} {value : α} :
    complete reading = .ok value ↔ reading = .ok (value, []) := by
  unfold complete
  split
  · simp
  · simp
  · rename_i left
    simpa using fun _ => left

theorem counted_eq_ok_iff (text : String) (entries : List (UInt32 × RoleSet)) :
    counted text = .ok entries ↔ SpellsEntries text.toList entries := by
  constructor
  · intro read
    unfold counted at read
    split at read
    · cases read
    · split at read
      · cases read
      · rename_i accepted
        cases read
        exact readEntries_sound (complete_eq_ok.mp accepted)
  · intro spelled
    simp only [counted, spelled.not_allBlank, complete_eq_ok.mpr (readEntries_complete spelled), Bool.false_eq_true,
      ↓reduceIte]

theorem roles_eq_ok_iff (text : String) (set : RoleSet) :
    roles text = .ok set ↔ ∃ names, SpellsRoles text.toList names ∧ set = .ofList names := by
  constructor
  · intro read
    unfold roles at read
    split at read
    · cases read
    · rename_i accepted
      cases read
      obtain ⟨spelled, names, whole, spells, rfl⟩ := readRoleList_sound (complete_eq_ok.mp accepted)
      rw [whole, List.append_nil]
      exact ⟨names, spells, rfl⟩
  · rintro ⟨names, spelled, rfl⟩
    have read := readRoleList_append spelled (show Ends [] from nofun)
    rw [List.append_nil] at read
    simp only [roles, complete_eq_ok.mpr read]

/-- Reading accepts what the grammar spells and nothing else, and gives what it spells: of a counted list
the number and the set of role names of each entry, in order, and of a role list the set of its names. -/
theorem reads_what_is_spelled (text : String) :
    (∀ entries, counted text = .ok entries ↔ SpellsEntries text.toList entries) ∧
    (∀ set, roles text = .ok set ↔ ∃ names, SpellsRoles text.toList names ∧ set = .ofList names) :=
  ⟨counted_eq_ok_iff text, roles_eq_ok_iff text⟩

end Muster.Template
