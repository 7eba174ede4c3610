/-!
Numbers written with digits of base ten and base sixteen.
-/

namespace Muster.Text

def decimalValue (digits : List Char) : Nat :=
  digits.foldl (fun value digit => 10 * value + (digit.toNat - '0'.toNat)) 0

def decimalDigits (n : Nat) : List Char := Nat.toDigits 10 n

def paddedDigits (width n : Nat) : List Char :=
  let digits := decimalDigits n
  List.replicate (width - digits.length) '0' ++ digits

theorem decimalValue_append_zeros (count : Nat) (digits : List Char) :
    decimalValue (List.replicate count '0' ++ digits) = decimalValue digits := by
  induction count with
  | zero => rfl
  | succ count ih => exact ih

/-- Reading the digits of a number gives the number back, whatever the width. -/
theorem decimalValue_paddedDigits (width n : Nat) : decimalValue (paddedDigits width n) = n := by
  rw [paddedDigits, decimalValue_append_zeros]
  exact Nat.ofDigitChars_ten_toDigits

theorem paddedDigits_injective (width : Nat) {m n : Nat}
    (same : paddedDigits width m = paddedDigits width n) : m = n := by
  rw [← decimalValue_paddedDigits width m, same, decimalValue_paddedDigits]

theorem decimalDigits_injective {m n : Nat} (same : decimalDigits m = decimalDigits n) : m = n := by
  refine paddedDigits_injective 0 ?_
  simpa [paddedDigits] using same

def hexDigits (n : Nat) : List Char := Nat.toDigits 16 n

def hexValue? (c : Char) : Option Nat :=
  if c.isDigit then some (c.toNat - '0'.toNat)
  else if 'a' ≤ c && c ≤ 'f' then some (c.toNat - 'a'.toNat + 10)
  else if 'A' ≤ c && c ≤ 'F' then some (c.toNat - 'A'.toNat + 10)
  else none

def hexNumber? (count : Nat) (text : List Char) : Option Nat :=
  let digits := text.take count
  if digits.length < count then none
  else digits.foldl (fun value digit => do return 16 * (← value) + (← hexValue? digit)) (some 0)

end Muster.Text
