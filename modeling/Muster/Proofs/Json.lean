import Muster.Json

/-!
What is written is read back. Every value is, whatever is in it: strings with quotes,
backslashes and control characters, strings that stand for no text, and values within
values to any depth.
-/

namespace Muster.Json

/-! ### Strings -/

-- A character is written after a backslash, or as its code, or as it is.
theorem escapedChar_cases (c : Char) :
    (∃ letter, escapedChar c = ['\\', letter] ∧ letter ≠ 'u' ∧ simpleEscape? letter = some c) ∨
    (c.toNat < 0x20 ∧ escapedChar c = '\\' :: 'u' ::
      (List.replicate (4 - (Text.hexDigits c.toNat).length) '0' ++ Text.hexDigits c.toNat)) ∨
    (escapedChar c = [c] ∧ c ≠ '"' ∧ c ≠ '\\' ∧ 0x20 ≤ c.toNat) := by
  by_cases quote : c = '"'
  · subst quote
    exact .inl ⟨'"', rfl, by decide, rfl⟩
  by_cases backslash : c = '\\'
  · subst backslash
    exact .inl ⟨'\\', rfl, by decide, rfl⟩
  by_cases back : c = '\x08'
  · subst back
    exact .inl ⟨'b', rfl, by decide, rfl⟩
  by_cases tab : c = '\t'
  · subst tab
    exact .inl ⟨'t', rfl, by decide, rfl⟩
  by_cases line : c = '\n'
  · subst line
    exact .inl ⟨'n', rfl, by decide, rfl⟩
  by_cases feed : c = '\x0c'
  · subst feed
    exact .inl ⟨'f', rfl, by decide, rfl⟩
  by_cases start : c = '\r'
  · subst start
    exact .inl ⟨'r', rfl, by decide, rfl⟩
  right
  by_cases control : c.toNat < 0x20
  · exact .inl ⟨control, by simp [escapedChar, quote, backslash, back, tab, line, feed, start, control]⟩
  · right
    refine ⟨?_, quote, backslash, Nat.le_of_not_lt control⟩
    simp [escapedChar, quote, backslash, back, tab, line, feed, start, control]

-- The code of a control character takes four digits.
theorem hexNumber?_control : ∀ code < 0x20,
    let digits := List.replicate (4 - (Text.hexDigits code).length) '0' ++ Text.hexDigits code
    digits.length = 4 ∧ Text.hexNumber? 4 digits = some code := by
  decide +kernel

theorem readUnits_escapedChar (c : Char) (rest : List Char) :
    readUnits (escapedChar c ++ rest) =
      (readUnits rest).map fun (units, after) => (c.toNat :: units, after) := by
  rcases escapedChar_cases c with ⟨letter, written, plain, meant⟩ | ⟨control, written⟩ | ⟨written, quote, backslash, shown⟩
  · rw [written, List.cons_append, List.cons_append, List.nil_append, readUnits]
    · rw [meant]
      cases readUnits rest <;> rfl
    · intro _ _ _ _ _ same
      exact (plain same).elim
  · obtain ⟨four, read⟩ := hexNumber?_control c.toNat control
    generalize List.replicate _ _ ++ Text.hexDigits c.toNat = digits at four read written
    match digits, four with
    | [a, b, c', d], _ =>
        rw [written, List.cons_append, List.cons_append, List.cons_append, List.cons_append, List.cons_append,
          List.cons_append, List.nil_append, readUnits, read]
        cases readUnits rest <;> rfl
  · rw [written, List.singleton_append, readUnits]
    · rw [if_neg (Nat.not_lt.mpr shown)]
      cases readUnits rest <;> rfl
    · exact quote
    · intro _ _ _ _ _ same
      exact (backslash same).elim
    · intro _ _ same
      exact (backslash same).elim

theorem readUnits_written (text rest : List Char) :
    readUnits (text.flatMap escapedChar ++ '"' :: rest) = some (text.map Char.toNat, rest) := by
  induction text with
  | nil => rfl
  | cons c text ih =>
      rw [List.flatMap_cons, List.append_assoc, readUnits_escapedChar, ih]
      rfl

-- No character is half of a surrogate pair.
theorem toNat_not_half (c : Char) : isHighHalf c.toNat = false ∧ isLowHalf c.toNat = false := by
  have valid := c.valid
  simp only [isHighHalf, isLowHalf, Bool.and_eq_false_imp, decide_eq_true_eq, decide_eq_false_iff_not, Char.toNat]
  simp only [UInt32.isValidChar, Nat.isValidChar] at valid
  omega

theorem decodeUnits_map (text : List Char) : decodeUnits (text.map Char.toNat) = some text := by
  induction text with
  | nil => rfl
  | cons c text ih =>
      obtain ⟨high, low⟩ := toNat_not_half c
      cases text with
      | nil => simp [decodeUnits, high, low]
      | cons next text => simp [decodeUnits, high, low, List.map_cons ▸ ih]

theorem readString_written (text : Option String) (rest : List Char) :
    ∃ opened, stringChars text ++ rest = '"' :: opened ∧ readString opened = some (text, rest) := by
  cases text with
  | none => exact ⟨_, rfl, by rfl⟩
  | some text =>
      refine ⟨text.toList.flatMap escapedChar ++ '"' :: rest, by simp [stringChars], ?_⟩
      simp only [readString, readUnits_written, Option.map_some, decodeUnits_map, String.ofList_toList]

/-! ### Values -/

theorem skipGap_of_head {c : Char} {rest : List Char} (solid : isGap c = false) :
    skipGap (c :: rest) = c :: rest := by
  simp [skipGap, solid]

theorem skipGap_newLine (level : Nat) (rest : List Char) : skipGap (newLine level ++ rest) = skipGap rest := by
  have blank : ∀ c ∈ newLine level, isGap c = true := by
    intro c member
    rcases List.mem_cons.mp member with rfl | space
    · rfl
    · rw [List.eq_of_mem_replicate space]
      rfl
  exact List.dropWhile_append_of_pos blank

-- The text of a value begins neither with a blank nor with the end of a list.
theorem chars_head (level : Nat) (json : Json) :
    ∃ c rest, chars level json = c :: rest ∧ isGap c = false ∧ c ≠ ']' := by
  cases json with
  | null | number => exact ⟨_, _, rfl, by decide, by decide⟩
  | boolean value => cases value <;> exact ⟨_, _, rfl, by decide, by decide⟩
  | string text => cases text <;> exact ⟨_, _, rfl, by decide, by decide⟩
  | array items => cases items <;> exact ⟨_, _, rfl, by decide, by decide⟩
  | object members => cases members <;> exact ⟨_, _, rfl, by decide, by decide⟩

/-- What may come after a value that was written: nothing, a comma or the end of the line. -/
def Follows (rest : List Char) : Prop := ∀ c ∈ rest.head?, c = ',' ∨ c = '\n'

theorem readNumber_zero {rest : List Char} (follows : Follows rest) : readNumber ('0' :: rest) = some rest := by
  cases rest with
  | nil => rfl
  | cons c rest =>
      rcases follows c rfl with rfl | rfl <;> rfl

theorem follows_newLine (level : Nat) (rest : List Char) : Follows (newLine level ++ rest) := by
  rintro c ⟨⟩
  exact .inr rfl

theorem follows_itemChars (level : Nat) (items : List Json) {rest : List Char} (follows : Follows rest) :
    Follows (itemChars level items ++ rest) := by
  cases items with
  | nil => exact follows
  | cons item items =>
      rintro c ⟨⟩
      exact .inl rfl

theorem follows_memberChars (level : Nat) (members : List (Option String × Json)) {rest : List Char}
    (follows : Follows rest) : Follows (memberChars level members ++ rest) := by
  cases members with
  | nil => exact follows
  | cons member members =>
      rintro c ⟨⟩
      exact .inl rfl

theorem skipGap_item (level : Nat) (item : Json) (rest : List Char) :
    skipGap (newLine level ++ (chars level item ++ rest)) = chars level item ++ rest := by
  obtain ⟨first, others, head, solid, _⟩ := chars_head level item
  rw [skipGap_newLine, head, List.cons_append, skipGap_of_head solid]

theorem skipGap_key (level : Nat) (key : Option String) (rest : List Char) :
    skipGap (newLine level ++ (stringChars key ++ rest)) = stringChars key ++ rest := by
  obtain ⟨opened, written, _⟩ := readString_written key rest
  rw [skipGap_newLine, written, skipGap_of_head (by decide)]

mutual

/-- A value is read back from its text, if there is fuel for the length of the text. -/
theorem readValue_written (fuel level : Nat) (json : Json) {text rest : List Char}
    (starts : skipGap text = chars level json ++ rest) (follows : Follows rest)
    (enough : (chars level json).length ≤ fuel) : readValue fuel text = some (json, rest) := by
  obtain ⟨first, others, head, _⟩ := chars_head level json
  obtain ⟨fuel, rfl⟩ : ∃ less, fuel = less + 1 :=
    Nat.exists_eq_succ_of_ne_zero (by rintro rfl; simp [head] at enough)
  rw [readValue, starts]
  match json with
  | null => rfl
  | boolean true => rfl
  | boolean false => rfl
  | number =>
      change (readNumber ('0' :: rest)).map _ = _
      rw [readNumber_zero follows]
      rfl
  | string text =>
      obtain ⟨opened, written, read⟩ := readString_written text rest
      rw [chars, written]
      change (readString opened).map _ = _
      rw [read]
      rfl
  | array [] => rfl
  | array (item :: items) =>
      have opens := skipGap_item (level + 1) item
        (itemChars (level + 1) items ++ (newLine level ++ ']' :: rest))
      obtain ⟨c, tail, starts, _, goesOn⟩ := chars_head (level + 1) item
      simp only [chars, List.length_cons, List.length_append] at enough
      have read := readItems_written fuel level (level + 1) item items opens (by omega)
      simp only [chars, List.cons_append, List.append_assoc, List.nil_append]
      rw [starts, List.cons_append] at opens read ⊢
      rw [opens]
      -- the first item does not begin with the bracket of an empty list
      split
      · rename_i same
        exact (goesOn (List.cons.inj same).1).elim
      · rw [read]
        rfl
  | object [] => rfl
  | object ((key, value) :: members) =>
      have opens := skipGap_key (level + 1) key
        (':' :: ' ' :: (chars (level + 1) value ++ (memberChars (level + 1) members ++ (newLine level ++ '}' :: rest))))
      simp only [chars, List.length_cons, List.length_append] at enough
      have read := readMembers_written fuel level (level + 1) key value members opens (by omega)
      obtain ⟨opened, written, _⟩ := readString_written key
        (':' :: ' ' :: (chars (level + 1) value ++ (memberChars (level + 1) members ++ (newLine level ++ '}' :: rest))))
      simp only [chars, List.cons_append, List.append_assoc, List.nil_append]
      rw [written] at opens read ⊢
      rw [opens]
      simp only [read]
      rfl

/-- The rest of a list is read back, with the bracket that closes it. -/
theorem readItems_written (fuel outer level : Nat) (item : Json) (items : List Json) {text rest : List Char}
    (starts : skipGap text = chars level item ++ (itemChars level items ++ (newLine outer ++ ']' :: rest)))
    (enough : (chars level item).length + (itemChars level items).length + 1 ≤ fuel) :
    readItems fuel text = some (item :: items, rest) := by
  obtain ⟨fuel, rfl⟩ : ∃ less, fuel = less + 1 := Nat.exists_eq_succ_of_ne_zero (by omega)
  have read := readValue_written fuel level item starts
    (follows_itemChars level items (follows_newLine outer (']' :: rest))) (by omega)
  rw [readItems, read]
  match items with
  | [] =>
      simp only [itemChars, List.nil_append, Option.bind_eq_bind, Option.bind_some]
      rw [skipGap_newLine, skipGap_of_head (by decide)]
      rfl
  | next :: items =>
      simp only [itemChars, List.length_cons, List.length_append] at enough
      have later := readItems_written fuel outer level next items
        (skipGap_item level next (itemChars level items ++ (newLine outer ++ ']' :: rest))) (by omega)
      simp only [itemChars, List.cons_append, List.append_assoc, Option.bind_eq_bind, Option.bind_some]
      rw [skipGap_of_head (by decide)]
      simp only [later]
      rfl

theorem readMembers_written (fuel outer level : Nat) (key : Option String) (value : Json)
    (members : List (Option String × Json)) {text rest : List Char}
    (starts : skipGap text = stringChars key ++ ':' :: ' ' ::
      (chars level value ++ (memberChars level members ++ (newLine outer ++ '}' :: rest))))
    (enough : (chars level value).length + (memberChars level members).length + 1 ≤ fuel) :
    readMembers fuel text = some ((key, value) :: members, rest) := by
  obtain ⟨fuel, rfl⟩ : ∃ less, fuel = less + 1 := Nat.exists_eq_succ_of_ne_zero (by omega)
  obtain ⟨opened, written, named⟩ := readString_written key (':' :: ' ' ::
    (chars level value ++ (memberChars level members ++ (newLine outer ++ '}' :: rest))))
  obtain ⟨first, others, head, solid, _⟩ := chars_head level value
  have after (more : List Char) : skipGap (' ' :: (chars level value ++ more)) = chars level value ++ more := by
    rw [head, List.cons_append]
    exact skipGap_of_head solid
  have read := readValue_written fuel level value (after _)
    (follows_memberChars level members (follows_newLine outer ('}' :: rest))) (by omega)
  rw [readMembers, starts, written]
  simp only [named, Option.bind_eq_bind, Option.bind_some]
  rw [skipGap_of_head (by decide)]
  simp only [read, Option.bind_some]
  match members with
  | [] =>
      simp only [memberChars, List.nil_append]
      rw [skipGap_newLine, skipGap_of_head (by decide)]
      rfl
  | (next, value) :: members =>
      simp only [memberChars, List.length_cons, List.length_append] at enough
      have later := readMembers_written fuel outer level next value members (skipGap_key level next (':' :: ' ' ::
        (chars level value ++ (memberChars level members ++ (newLine outer ++ '}' :: rest))))) (by omega)
      simp only [memberChars, List.cons_append, List.append_assoc, List.nil_append]
      rw [skipGap_of_head (by decide)]
      simp only [later, Option.bind_some]
      rfl

end

/-- Every value is read back from its text, and nothing is left over. -/
theorem read?_text (json : Json) : read? json.text = some json := by
  obtain ⟨first, others, head, solid, _⟩ := chars_head 0 json
  have starts : skipGap (chars 0 json) = chars 0 json ++ [] := by
    rw [List.append_nil, head, skipGap_of_head solid]
  have read := readValue_written ((chars 0 json).length + 1) 0 json starts nofun (Nat.le_succ _)
  simp only [read?, text, String.toList_ofList, read]
  rfl

end Muster.Json
