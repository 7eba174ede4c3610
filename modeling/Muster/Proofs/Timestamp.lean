import Mathlib.Algebra.Group.Nat.Defs
import Muster.Timestamp

/-!
Every moment is read back from its text. Numbers are written with a fixed width, or, where
a year needs a sign, up to the hyphen after it, so a number is read to its last digit and
not beyond; nothing else in the text can be read in two ways.
-/

namespace Muster

namespace Text

theorem isDigit_of_mem_paddedDigits {width n : Nat} {c : Char} (member : c ∈ paddedDigits width n) :
    c.isDigit = true := by
  rcases List.mem_append.mp member with zero | digit
  · rw [List.eq_of_mem_replicate zero]
    rfl
  · exact Nat.isDigit_of_mem_toDigits (by decide) (by decide) digit

theorem length_paddedDigits {width n : Nat} (positive : 0 < width) (fits : n < 10 ^ width) :
    (paddedDigits width n).length = width := by
  have short : (decimalDigits n).length ≤ width := (Nat.length_toDigits_le_iff (by decide) positive).mpr fits
  rw [paddedDigits, List.length_append, List.length_replicate]
  omega

theorem paddedDigits_head (width n : Nat) :
    ∃ digit digits, paddedDigits width n = digit :: digits ∧ digit.isDigit = true := by
  have some : paddedDigits width n ≠ [] := by
    intro none
    exact Nat.toDigits_ne_nil (List.append_eq_nil_iff.mp none).2
  obtain ⟨digit, digits, written⟩ := List.exists_cons_of_ne_nil some
  exact ⟨digit, digits, written, isDigit_of_mem_paddedDigits (written ▸ List.mem_cons_self)⟩

theorem paddedDigits_isEmpty (width n : Nat) : (paddedDigits width n).isEmpty = false := by
  obtain ⟨digit, digits, written, _⟩ := paddedDigits_head width n
  rw [written]
  rfl

theorem not_isBlank_of_isDigit {c : Char} (digit : c.isDigit = true) : isBlank c = false := by
  simp only [Char.isDigit, Bool.and_eq_true, decide_eq_true_eq, ge_iff_le, UInt32.le_iff_toNat_le] at digit
  have low : 48 ≤ c.toNat := digit.1
  have high : c.toNat ≤ 57 := digit.2
  simp only [isBlank, Bool.or_eq_false_iff, Bool.and_eq_false_iff, decide_eq_false_iff_not]
  omega

end Text

namespace Timestamp

open Text

theorem skipBlanks_of_head {c : Char} {rest : List Char} (solid : isBlank c = false) :
    skipBlanks (c :: rest) = c :: rest := by
  simp [skipBlanks, solid]

theorem skipBlanks_digits (width n : Nat) (rest : List Char) :
    skipBlanks (paddedDigits width n ++ rest) = paddedDigits width n ++ rest := by
  obtain ⟨digit, digits, written, isDigit⟩ := paddedDigits_head width n
  rw [written, List.cons_append, skipBlanks_of_head (not_isBlank_of_isDigit isDigit)]

theorem readMark_self (mark : Char) (solid : isBlank mark = false) (rest : List Char) :
    readMark mark (mark :: rest) = some rest := by
  rw [readMark, skipBlanks_of_head solid]
  exact if_pos rfl

-- A number ends where the limit is reached, or where something else than a digit comes.
theorem readNumber_digits {limit width n : Nat} {rest : List Char} (within : (paddedDigits width n).length ≤ limit)
    (ends : (paddedDigits width n).length = limit ∨ ∀ c ∈ rest.head?, c.isDigit = false) :
    readNumber limit (paddedDigits width n ++ rest) = some (n, rest) := by
  have all : ∀ c ∈ paddedDigits width n, c.isDigit = true := fun _ => isDigit_of_mem_paddedDigits
  have none : (rest.take (limit - (paddedDigits width n).length)).takeWhile Char.isDigit = [] := by
    rcases ends with full | stops
    · simp [full]
    · cases rest with
      | nil => simp
      | cons c rest =>
          cases limit - (paddedDigits width n).length with
          | zero => rfl
          | succ more => simp [stops c rfl]
  have digits : ((paddedDigits width n ++ rest).take limit).takeWhile Char.isDigit = paddedDigits width n := by
    rw [List.take_append, List.take_of_length_le within, List.takeWhile_append_of_pos all, none, List.append_nil]
  simp only [readNumber, digits, paddedDigits_isEmpty, Bool.false_eq_true, if_false, decimalValue_paddedDigits,
    List.drop_left]

theorem readShort_digits {n : Nat} (short : n < 100) (rest : List Char) :
    readShort (paddedDigits 2 n ++ rest) = some (n, rest) := by
  have two : (paddedDigits 2 n).length = 2 := length_paddedDigits (by decide) short
  rw [readShort, skipBlanks_digits]
  exact readNumber_digits (Nat.le_of_eq two) (.inl two)

theorem readYear_text (year : Int) (rest : List Char) :
    readYear (Date.yearText year ++ '-' :: rest) = some (year, '-' :: rest) := by
  have read {limit n : Nat} (within : (paddedDigits 4 n).length ≤ limit) :
      readNumber limit (paddedDigits 4 n ++ '-' :: rest) = some (n, '-' :: rest) := by
    refine readNumber_digits within (.inr ?_)
    rintro c ⟨⟩
    rfl
  have within (n : Nat) : (paddedDigits 4 n).length ≤ (paddedDigits 4 n ++ '-' :: rest).length := by simp
  simp only [Date.yearText]
  split
  case isTrue plain =>
    simp only [Bool.and_eq_true, decide_eq_true_eq] at plain
    have four : (paddedDigits 4 year.toNat).length = 4 := length_paddedDigits (by decide) (by omega)
    have value : ((year.toNat : Nat) : Int) = year := Int.toNat_of_nonneg plain.1
    -- a digit is no sign
    obtain ⟨digit, digits, written, isDigit⟩ := paddedDigits_head 4 year.toNat
    have unsigned (sign : Char) (other : sign.isDigit = false) (after : List Char) :
        paddedDigits 4 year.toNat ++ '-' :: rest ≠ sign :: after := by
      rw [written, List.cons_append]
      rintro ⟨⟩
      cases isDigit.symm.trans other
    rw [readYear, skipBlanks_digits]
    split
    · rename_i same
      exact (unsigned '-' rfl _ same).elim
    · rename_i same
      exact (unsigned '+' rfl _ same).elim
    · simp only [read (Nat.le_of_eq four), Option.map_some, value]
  case isFalse far =>
    by_cases before : year < 0
    · have value : -((year.natAbs : Nat) : Int) = year := by omega
      rw [if_pos before, List.cons_append, readYear, skipBlanks_of_head (by decide)]
      simp only [read (within _), Option.map_some, value]
    · have value : ((year.natAbs : Nat) : Int) = year := by omega
      rw [if_neg before, List.cons_append, readYear, skipBlanks_of_head (by decide)]
      simp only [read (within _), Option.map_some, value]

theorem readFraction_text {nanos : Nat} (valid : nanos < 1000000000) :
    readFraction (Clock.fractionText nanos ++ ['Z']) = some (nanos, ['Z']) := by
  have read {width n : Nat} (positive : 0 < width) (short : width ≤ 9) (fits : n < 10 ^ width)
      (value : n * 10 ^ (9 - width) = nanos) :
      readFraction ('.' :: paddedDigits width n ++ ['Z']) = some (nanos, ['Z']) := by
    have all : ∀ c ∈ paddedDigits width n, c.isDigit = true := fun _ => isDigit_of_mem_paddedDigits
    have digits : (paddedDigits width n ++ ['Z']).takeWhile Char.isDigit = paddedDigits width n := by
      rw [List.takeWhile_append_of_pos all]
      simp
    have length := length_paddedDigits positive fits
    have kept : (paddedDigits width n).take 9 = paddedDigits width n :=
      List.take_of_length_le (Nat.le_trans (Nat.le_of_eq length) short)
    simp only [List.cons_append, readFraction, digits, paddedDigits_isEmpty, Bool.false_eq_true, if_false, kept,
      decimalValue_paddedDigits, List.drop_left]
    rw [length, Nat.pow_eq, value]
  simp only [Clock.fractionText]
  split
  case isTrue none =>
    subst none
    rfl
  split
  case isTrue milli => exact read (by decide) (by decide) (by omega) (by omega)
  split
  case isTrue micro => exact read (by decide) (by decide) (by omega) (by omega)
  exact read (by decide) (by decide) valid (by omega)

-- Clocks that are set to universal time show the moment itself.
theorem ofLocal?_universal (moment : Timestamp) : ofLocal? moment.date moment.clock 0 = some moment := by
  obtain ⟨date, ⟨hour, minute, second, nanos⟩, validDate, validClock⟩ := moment
  obtain ⟨hours, minutes, _⟩ := id validClock
  simp only at hours minutes
  have notBefore : ¬ 60 * (hour : Int) + minute - 0 < 0 := by omega
  have notAfter : ¬ 1440 ≤ 60 * (hour : Int) + minute - 0 := by omega
  have rest : ((60 * (hour : Int) + minute - 0) % 1440).toNat = 60 * hour + minute := by omega
  have sameHour : (60 * hour + minute) / 60 = hour := by omega
  have sameMinute : (60 * hour + minute) % 60 = minute := by omega
  simp only [ofLocal?, if_pos (And.intro validDate validClock), if_neg notBefore, if_neg notAfter, rest, sameHour,
    sameMinute, dif_pos (And.intro validDate validClock)]

/-- Every moment is read back from its text. -/
theorem ofText?_text (moment : Timestamp) : ofText? moment.text = some moment := by
  obtain ⟨_, _, _, months, _, days⟩ := moment.validDate
  obtain ⟨hours, minutes, seconds, nanos⟩ := moment.validClock
  have month : Date.daysIn moment.date.year moment.date.month ≤ 31 := by
    simp only [Date.daysIn]
    split
    · split <;> decide
    · split <;> decide
  have hyphen := readMark_self '-' rfl
  have colon := readMark_self ':' rfl
  have universal : readOffset (skipBlanks ['Z']) = some (0, []) := rfl
  rw [ofText?, text, String.toList_ofList, readChars]
  simp only [Date.text, Clock.text, List.append_assoc, List.cons_append]
  -- one step for each part of the text, in its order
  refine Option.bind_eq_some_iff.mpr ⟨_, readYear_text _ _, ?_⟩
  refine Option.bind_eq_some_iff.mpr ⟨_, hyphen _, ?_⟩
  refine Option.bind_eq_some_iff.mpr ⟨_, readShort_digits (by omega) _, ?_⟩
  refine Option.bind_eq_some_iff.mpr ⟨_, hyphen _, ?_⟩
  refine Option.bind_eq_some_iff.mpr ⟨_, readShort_digits (by omega) _, ?_⟩
  refine Option.bind_eq_some_iff.mpr ⟨_, readShort_digits (by omega) _, ?_⟩
  refine Option.bind_eq_some_iff.mpr ⟨_, colon _, ?_⟩
  refine Option.bind_eq_some_iff.mpr ⟨_, readShort_digits (by omega) _, ?_⟩
  refine Option.bind_eq_some_iff.mpr ⟨_, colon _, ?_⟩
  refine Option.bind_eq_some_iff.mpr ⟨_, readShort_digits (by omega) _, ?_⟩
  refine Option.bind_eq_some_iff.mpr ⟨_, readFraction_text nanos, ?_⟩
  refine Option.bind_eq_some_iff.mpr ⟨_, universal, ?_⟩
  exact ofLocal?_universal moment

end Timestamp

end Muster
