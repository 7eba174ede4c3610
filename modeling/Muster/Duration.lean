/-!
Spans of time in nanoseconds, and their text: the largest unit that gives a whole
part, and as many decimal places as it takes.
-/

namespace Muster

structure Duration where
  nanos : Nat
  deriving DecidableEq, Repr

namespace Duration

def ofMillis (millis : Nat) : Duration := ⟨millis * 1000000⟩

def fraction (places part : Nat) : String :=
  let digits := (Nat.toDigits 10 (Nat.pow 10 places + part)).drop 1
  let shown := (digits.reverse.dropWhile (· = '0')).reverse
  if shown.isEmpty then "" else "." ++ .ofList shown

def textIn (nanos places : Nat) (unit : String) : String :=
  toString (nanos / Nat.pow 10 places) ++ fraction places (nanos % Nat.pow 10 places) ++ unit

def text (duration : Duration) : String :=
  let nanos := duration.nanos
  if 1000000000 ≤ nanos then textIn nanos 9 "s"
  else if 1000000 ≤ nanos then textIn nanos 6 "ms"
  else if 1000 ≤ nanos then textIn nanos 3 "µs"
  else textIn nanos 0 "ns"

end Duration

end Muster
