import Mathlib.Data.List.Basic
import Mathlib.Data.List.Induction
import Muster.Script

/-!
What a shell reads where a script exports values. A quote in a value comes back, since a backslash is put in front of
it. Backslashes are left as they are, so that a value comes back exactly if each of them stands in front of a character
that is read as it is. Where one does not, the text that is read may go on into the next line.
-/

namespace Muster

variable {value read after rest text : List Char} {c : Char}

/-! ### A shell -/

/-- Reads text up to the double quote that ends it. A backslash in front of a double quote or of a backslash stands for
that character, and all other characters stand for themselves. -/
def readQuoted : List Char → Option (List Char × List Char)
  | [] => none
  | '"' :: rest => some ([], rest)
  | '\\' :: '"' :: rest => (readQuoted rest).map fun (read, after) => ('"' :: read, after)
  | '\\' :: '\\' :: rest => (readQuoted rest).map fun (read, after) => ('\\' :: read, after)
  | c :: rest => (readQuoted rest).map fun (read, after) => (c :: read, after)

def isNameChar (c : Char) : Bool := c.isAlphanum || c == '_'

def IsIdentifier (name : String) : Prop :=
  ∃ first rest, name.toList = first :: rest ∧ (first.isAlpha || first == '_') = true ∧ ∀ c ∈ rest, isNameChar c = true

def readExport (text : List Char) : Option ((String × String) × List Char) := do
  let line ← text.dropPrefix? "export ".toList
  let quoted ← (line.dropWhile isNameChar).dropPrefix? ['=', '"']
  let (value, rest) ← readQuoted quoted
  let rest ← rest.dropPrefix? ['\n']
  return ((.ofList (line.takeWhile isNameChar), .ofList value), rest)

def readExports : Nat → List Char → Option (List (String × String) × List Char)
  | 0, text => some ([], text)
  | n + 1, text => do
      let (entry, rest) ← readExport text
      let (entries, rest) ← readExports n rest
      return (entry :: entries, rest)

/-! ### Values -/

/-- Every backslash has a character after it that is neither a backslash nor a quote. -/
def PlainBackslashes (value : List Char) : Prop :=
  ∀ front back, value = front ++ '\\' :: back → ∃ next rest, back = next :: rest ∧ next ≠ '\\' ∧ next ≠ '"'

theorem plainBackslashes_nil : PlainBackslashes [] := by
  intro front back parts
  cases front <;> cases parts

theorem plainBackslashes_cons : PlainBackslashes (c :: value) ↔
    (c = '\\' → ∃ next rest, value = next :: rest ∧ next ≠ '\\' ∧ next ≠ '"') ∧ PlainBackslashes value := by
  constructor
  · intro plain
    exact ⟨fun same => plain [] value (same ▸ rfl), fun front back parts => plain (c :: front) back (parts ▸ rfl)⟩
  · rintro ⟨first, later⟩ front back parts
    cases front with
    | nil =>
        cases parts
        exact first rfl
    | cons _ front =>
        cases parts
        exact later front back rfl

theorem plainBackslashes_cons_of_ne (other : c ≠ '\\') : PlainBackslashes (c :: value) ↔ PlainBackslashes value := by
  simp [plainBackslashes_cons, other]

/-! ### Quoted values -/

theorem escapeValue_cons (other : c ≠ '"') (value : List Char) : escapeValue (c :: value) = c :: escapeValue value := by
  simp [escapeValue, other]

theorem readQuoted_backslash {next : Char} (noBackslash : next ≠ '\\') (noQuote : next ≠ '"') (text : List Char) :
    readQuoted ('\\' :: next :: text) = (readQuoted (next :: text)).map fun (read, after) => ('\\' :: read, after) := by
  rw [readQuoted] <;> simp_all

-- A quote comes back since it is escaped, and what is not escaped is read as it is.
theorem readQuoted_escapeValue_cons (other : c ≠ '\\') (value rest : List Char) :
    readQuoted (escapeValue (c :: value) ++ rest) =
      (readQuoted (escapeValue value ++ rest)).map fun (read, after) => (c :: read, after) := by
  by_cases quote : c = '"'
  · subst quote
    rfl
  · rw [escapeValue_cons quote, List.cons_append, readQuoted] <;> simp_all

theorem readQuoted_escapeValue (plain : PlainBackslashes value) (rest : List Char) :
    readQuoted (escapeValue value ++ '"' :: rest) = some (value, rest) := by
  induction value with
  | nil => rfl
  | cons c value ih =>
      obtain ⟨ahead, later⟩ := plainBackslashes_cons.mp plain
      have ih := ih later
      by_cases backslash : c = '\\'
      · obtain ⟨next, value, rfl, noBackslash, noQuote⟩ := ahead backslash
        subst backslash
        rw [escapeValue_cons noQuote, List.cons_append] at ih
        rw [escapeValue_cons (by decide), escapeValue_cons noQuote, List.cons_append, List.cons_append,
          readQuoted_backslash noBackslash noQuote, ih]
        rfl
      · rw [readQuoted_escapeValue_cons backslash, ih]
        rfl

theorem replicate_append_cons_self (extra : Nat) (c : Char) (value : List Char) :
    List.replicate extra c ++ c :: value = c :: (List.replicate extra c ++ value) := by
  rw [← List.singleton_append, ← List.append_assoc, ← List.replicate_succ', List.replicate_succ, List.cons_append]

theorem map_push_eq_some {found : Option (List Char × List Char)} {all : List Char} :
    found.map (fun (read, after) => (c :: read, after)) = some (all, after) ↔
      ∃ read, found = some (read, after) ∧ all = c :: read := by
  cases found <;> grind

theorem readQuoted_rest {extra : Nat} (other : c ≠ '\\')
    (reads : readQuoted (escapeValue (c :: value) ++ rest) = some (List.replicate extra '\\' ++ c :: value, after)) :
    extra = 0 ∧ readQuoted (escapeValue value ++ rest) = some (value, after) := by
  rw [readQuoted_escapeValue_cons other] at reads
  obtain ⟨read, reads, starts⟩ := map_push_eq_some.mp reads
  cases extra with
  | zero =>
      cases starts
      exact ⟨rfl, reads⟩
  | succ extra =>
      cases starts
      exact (other rfl).elim

-- Two backslashes are read as one. What is read after them would have to start with one backslash more than there is
-- after them, and so on, so the induction is on values with any number of backslashes too many in what is read.
theorem plain_of_readQuoted (extra : Nat)
    (reads : readQuoted (escapeValue value ++ '"' :: rest) = some (List.replicate extra '\\' ++ value, after)) :
    extra = 0 ∧ PlainBackslashes value := by
  induction value using List.twoStepInduction generalizing extra with
  | nil =>
      cases extra with
      | zero => exact ⟨rfl, plainBackslashes_nil⟩
      | succ => cases reads
  | singleton c =>
      by_cases backslash : c = '\\'
      · subst backslash
        -- The quote that should end the value is read as a part of it.
        obtain ⟨read, _, starts⟩ := map_push_eq_some.mp reads
        rw [replicate_append_cons_self] at starts
        cases starts
      · obtain ⟨rfl, _⟩ := readQuoted_rest backslash reads
        exact ⟨rfl, (plainBackslashes_cons_of_ne backslash).mpr plainBackslashes_nil⟩
  | cons_cons c next value later all =>
      by_cases backslash : c = '\\'
      · subst backslash
        rw [replicate_append_cons_self] at reads
        by_cases doubled : next = '\\'
        · subst doubled
          obtain ⟨read, more, starts⟩ := map_push_eq_some.mp reads
          obtain rfl := (List.cons.inj starts).2
          rw [replicate_append_cons_self, ← List.cons_append, ← List.replicate_succ] at more
          cases (later (extra + 1) more).1
        by_cases quote : next = '"'
        · subst quote
          -- The backslash that escapes the quote is taken for an escaped one itself, and the quote ends the text.
          obtain ⟨read, ends, starts⟩ := map_push_eq_some.mp reads
          cases ends
          cases extra <;> cases starts
        · rw [escapeValue_cons (by decide), escapeValue_cons quote, List.cons_append, List.cons_append,
            readQuoted_backslash doubled quote, ← List.cons_append, ← escapeValue_cons quote] at reads
          obtain ⟨read, more, starts⟩ := map_push_eq_some.mp reads
          obtain rfl := (List.cons.inj starts).2
          obtain ⟨none, plain⟩ := all next extra more
          exact ⟨none, plainBackslashes_cons.mpr ⟨fun _ => ⟨next, value, rfl, doubled, quote⟩, plain⟩⟩
      · obtain ⟨rfl, more⟩ := readQuoted_rest backslash reads
        exact ⟨rfl, (plainBackslashes_cons_of_ne backslash).mpr (all next 0 more).2⟩

/-! ### Exports -/

namespace Script

variable {key : String} {entry : String × String} {exports : List (String × String)}

theorem toList_exportLine (key value : String) : (exportLine key value).toList =
    "export ".toList ++ key.toList ++ ['=', '"'] ++ escapeValue value.toList ++ ['"', '\n'] := by
  simp [exportLine, String.toList_append]

theorem toList_render (script : Script) : script.render.toList =
    (script.exports.flatMap fun entry => (exportLine entry.1 entry.2).toList) ++
      (render ⟨[], script.statements⟩).toList := by
  simp [render, List.flatMap_map]

theorem isNameChar_of_mem (name : IsIdentifier key) : ∀ c ∈ key.toList, isNameChar c = true := by
  obtain ⟨first, rest, parts, letter, others⟩ := name
  rw [parts, List.forall_mem_cons]
  refine ⟨?_, others⟩
  simp only [isNameChar, Char.isAlphanum, Bool.or_eq_true] at letter ⊢
  tauto

theorem readExport_line (name : IsIdentifier key) (value : String) (text : List Char) :
    readExport ((exportLine key value).toList ++ text) = do
      let (read, rest) ← readQuoted (escapeValue value.toList ++ '"' :: '\n' :: text)
      let rest ← rest.dropPrefix? ['\n']
      return ((key, .ofList read), rest) := by
  have letters := isNameChar_of_mem name
  have equals : isNameChar '=' = false := by decide
  have drop (front back : List Char) : (front ++ back).dropPrefix? front = some back :=
    List.dropPrefix?_append_of_beq back BEq.rfl
  have parts : (exportLine key value).toList ++ text =
      "export ".toList ++ (key.toList ++ (['=', '"'] ++ (escapeValue value.toList ++ '"' :: '\n' :: text))) := by
    simp [toList_exportLine]
  rw [parts, readExport, drop, Option.bind_eq_bind, Option.bind_some, List.takeWhile_append_of_pos letters,
    List.dropWhile_append_of_pos letters, List.cons_append, List.takeWhile_cons_of_neg (by simp [equals]),
    List.dropWhile_cons_of_neg (by simp [equals]), ← List.cons_append, drop, List.append_nil,
    String.ofList_toList]
  rfl

theorem readExport_eq_some_iff {rest : List Char} (name : IsIdentifier key) (value : String) (text : List Char) :
    readExport ((exportLine key value).toList ++ text) = some ((key, value), rest) ↔
      PlainBackslashes value.toList ∧ rest = text := by
  rw [readExport_line name]
  constructor
  · intro reads
    obtain ⟨⟨read, after⟩, quoted, reads⟩ := Option.bind_eq_some_iff.mp reads
    obtain ⟨left, ended, reads⟩ := Option.bind_eq_some_iff.mp reads
    cases reads
    rw [String.toList_ofList] at quoted ⊢
    have plain := (plain_of_readQuoted 0 quoted).2
    rw [readQuoted_escapeValue plain] at quoted
    cases quoted
    exact ⟨plain, by simpa [List.dropPrefix?, eq_comm] using ended⟩
  · rintro ⟨plain, rfl⟩
    rw [readQuoted_escapeValue plain]
    simp [List.dropPrefix?]

-- By induction over the exports: as long as all went well, what is left is just what comes after.
theorem readExports_eq_some_iff {rest : List Char} (names : ∀ entry ∈ exports, IsIdentifier entry.1) (text : List Char) :
    readExports exports.length ((exports.flatMap fun entry => (exportLine entry.1 entry.2).toList) ++ text) =
        some (exports, rest) ↔
      (∀ entry ∈ exports, PlainBackslashes entry.2.toList) ∧ rest = text := by
  induction exports with
  | nil => simp [readExports, eq_comm]
  | cons entry exports ih =>
      obtain ⟨name, names⟩ := List.forall_mem_cons.mp names
      rw [List.flatMap_cons, List.append_assoc, List.length_cons, readExports, List.forall_mem_cons, and_assoc, ← ih names]
      constructor
      · intro reads
        obtain ⟨⟨first, left⟩, line, reads⟩ := Option.bind_eq_some_iff.mp reads
        obtain ⟨⟨others, last⟩, more, reads⟩ := Option.bind_eq_some_iff.mp reads
        cases reads
        obtain ⟨plain, rfl⟩ := (readExport_eq_some_iff name entry.2 _).mp line
        exact ⟨plain, more⟩
      · rintro ⟨plain, more⟩
        simp [(readExport_eq_some_iff name entry.2 _).mpr ⟨plain, rfl⟩, more]

/-- With a shell's rules for quotes and backslashes, an exported value is read as it is, from its first to its last
quote, exactly if its backslashes are plain, whatever comes after it in the script; and exactly if those of all values
are, all exports are read one after the other as they were set, up to the first statement. -/
theorem exports_read_iff_plain (script : Script) (names : ∀ entry ∈ script.exports, IsIdentifier entry.1) :
    (∀ front key value back, script.exports = front ++ (key, value) :: back → ∃ following,
      script.render.toList = (render ⟨front, []⟩).toList ++ "export ".toList ++ key.toList ++ ['=', '"'] ++
        escapeValue value.toList ++ '"' :: following ∧
      following = '\n' :: (render ⟨back, script.statements⟩).toList ∧
      (readQuoted (escapeValue value.toList ++ '"' :: following) = some (value.toList, following) ↔
        PlainBackslashes value.toList) ∧
      ((readQuoted (escapeValue value.toList ++ '"' :: following)).map Prod.fst = some value.toList ↔
        PlainBackslashes value.toList)) ∧
    (readExports script.exports.length script.render.toList =
        some (script.exports, (render ⟨[], script.statements⟩).toList) ↔
      ∀ entry ∈ script.exports, PlainBackslashes entry.2.toList) := by
  constructor
  · intro front key value back parts
    refine ⟨_, ?_, rfl, ?_, ?_⟩
    · rw [toList_render, toList_render ⟨front, []⟩, toList_render ⟨back, script.statements⟩, parts]
      simp [toList_exportLine, render]
    · exact ⟨fun reads => (plain_of_readQuoted 0 reads).2, fun plain => readQuoted_escapeValue plain _⟩
    · constructor
      · intro reads
        obtain ⟨⟨_, after⟩, reads, rfl⟩ := Option.map_eq_some_iff.mp reads
        exact (plain_of_readQuoted 0 reads).2
      · intro plain
        rw [readQuoted_escapeValue plain, Option.map_some]
  · rw [toList_render, readExports_eq_some_iff names, and_iff_left rfl]

theorem exports_read_of_plain :
    let script : Script := ⟨[("PATTERN", "say \"\\w\""), ("ROLES", "web")], [.function "start_web"]⟩
    (∀ entry ∈ script.exports, IsIdentifier entry.1) ∧
    readExports 2 script.render.toList = some (script.exports, "start_web\n".toList) := by
  intro script
  have names : ∀ entry ∈ script.exports, IsIdentifier entry.1 := by
    refine List.forall_mem_cons.mpr ⟨?_, List.forall_mem_singleton.mpr ?_⟩
    · exact ⟨'P', "ATTERN".toList, rfl, rfl, List.all_eq_true.mp rfl⟩
    · exact ⟨'R', "OLES".toList, rfl, rfl, List.all_eq_true.mp rfl⟩
  have plain : ∀ entry ∈ script.exports, PlainBackslashes entry.2.toList := by
    simp [script, plainBackslashes_cons, plainBackslashes_nil]
  exact ⟨names, (exports_read_iff_plain script names).2.mpr plain⟩

-- The quote that should end the first value is read as a part of it, and so is most of the next line.
theorem backslash_takes_next_export :
    let script : Script := ⟨[("A", "\\"), ("B", "b")], [.function "start_web"]⟩
    let following := "\nexport B=\"b\"\nstart_web\n".toList
    (∀ entry ∈ script.exports, IsIdentifier entry.1) ∧
    script.render.toList = "export A=\"".toList ++ escapeValue "\\".toList ++ '"' :: following ∧
    readQuoted (escapeValue "\\".toList ++ '"' :: following) =
      some ("\"\nexport B=".toList, "b\"\nstart_web\n".toList) := by
  refine ⟨List.forall_mem_cons.mpr ⟨?_, List.forall_mem_singleton.mpr ?_⟩, by decide, by decide⟩
  · exact ⟨'A', [], rfl, rfl, nofun⟩
  · exact ⟨'B', [], rfl, rfl, nofun⟩

end Script

end Muster
