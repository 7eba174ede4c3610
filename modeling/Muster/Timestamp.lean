import Muster.Text.Blank
import Muster.Text.Digits

/-!
Moments in universal time, to the nanosecond, and their text. A minute may have a
sixty-first second. Texts are read more freely than they are written: numbers may
lack leading zeros, blanks may stand around hyphens and colons, and the moment
may be given at an offset from universal time, which is less than a day.
-/

namespace Muster

structure Date where
  year : Int
  month : Nat
  day : Nat
  deriving DecidableEq, Repr

namespace Date

def isLeapYear (year : Int) : Bool := year % 4 = 0 && (year % 100 ≠ 0 || year % 400 = 0)

def daysIn (year : Int) (month : Nat) : Nat :=
  if month = 2 then if isLeapYear year then 29 else 28
  else if month = 4 || month = 6 || month = 9 || month = 11 then 30
  else 31

def firstYear : Int := -262143

def lastYear : Int := 262142

def Valid (date : Date) : Prop :=
  firstYear ≤ date.year ∧ date.year ≤ lastYear ∧ 1 ≤ date.month ∧ date.month ≤ 12 ∧
    1 ≤ date.day ∧ date.day ≤ daysIn date.year date.month

instance (date : Date) : Decidable date.Valid := by unfold Valid; infer_instance

def next (date : Date) : Date :=
  if date.day < daysIn date.year date.month then { date with day := date.day + 1 }
  else if date.month < 12 then ⟨date.year, date.month + 1, 1⟩
  else ⟨date.year + 1, 1, 1⟩

def previous (date : Date) : Date :=
  if 1 < date.day then { date with day := date.day - 1 }
  else if 1 < date.month then ⟨date.year, date.month - 1, daysIn date.year (date.month - 1)⟩
  else ⟨date.year - 1, 12, 31⟩

def yearText (year : Int) : List Char :=
  if 0 ≤ year && year ≤ 9999 then Text.paddedDigits 4 year.toNat
  else (if year < 0 then '-' else '+') :: Text.paddedDigits 4 year.natAbs

def text (date : Date) : List Char :=
  yearText date.year ++ '-' :: Text.paddedDigits 2 date.month ++ '-' :: Text.paddedDigits 2 date.day

end Date

/-- A time of day; second 60 is the sixty-first of its minute. -/
structure Clock where
  hour : Nat
  minute : Nat
  second : Nat
  nanos : Nat
  deriving DecidableEq, Repr

namespace Clock

def Valid (clock : Clock) : Prop :=
  clock.hour < 24 ∧ clock.minute < 60 ∧ clock.second ≤ 60 ∧ clock.nanos < 1000000000

instance (clock : Clock) : Decidable clock.Valid := by unfold Valid; infer_instance

def fractionText (nanos : Nat) : List Char :=
  if nanos = 0 then []
  else if nanos % 1000000 = 0 then '.' :: Text.paddedDigits 3 (nanos / 1000000)
  else if nanos % 1000 = 0 then '.' :: Text.paddedDigits 6 (nanos / 1000)
  else '.' :: Text.paddedDigits 9 nanos

def text (clock : Clock) : List Char :=
  Text.paddedDigits 2 clock.hour ++ ':' :: Text.paddedDigits 2 clock.minute ++
    ':' :: Text.paddedDigits 2 clock.second ++ fractionText clock.nanos

end Clock

structure Timestamp where
  date : Date
  clock : Clock
  validDate : date.Valid
  validClock : clock.Valid
  deriving DecidableEq

namespace Timestamp

def epoch : Timestamp := ⟨⟨1970, 1, 1⟩, ⟨0, 0, 0, 0⟩, by decide, by decide⟩

/-- The day that comes so many days after the first of March of the year 0. Years are
counted from March, so that a leap day is the last of its year. -/
def dayAfterMarch (days : Int) : Date :=
  let era := days.fdiv 146097
  let rest := days.fmod 146097
  let yearOfEra := (rest - rest / 1460 + rest / 36524 - rest / 146096) / 365
  let dayOfYear := rest - (365 * yearOfEra + yearOfEra / 4 - yearOfEra / 100)
  let monthFromMarch := (5 * dayOfYear + 2) / 153
  let day := (dayOfYear - (153 * monthFromMarch + 2) / 5 + 1).toNat
  let month := if monthFromMarch < 10 then monthFromMarch.toNat + 3 else monthFromMarch.toNat - 9
  ⟨yearOfEra + era * 400 + if month ≤ 2 then 1 else 0, month, day⟩

def ofSeconds? (seconds : Int) (nanos : Nat) : Option Timestamp :=
  let date := dayAfterMarch (seconds.fdiv 86400 + 719468)
  let rest := (seconds.fmod 86400).toNat
  let clock : Clock := ⟨rest / 3600, rest / 60 % 60, rest % 60, nanos⟩
  if valid : date.Valid ∧ clock.Valid then some ⟨date, clock, valid.1, valid.2⟩ else none

def text (moment : Timestamp) : String :=
  .ofList (moment.date.text ++ 'T' :: moment.clock.text ++ ['Z'])

/-- The moment at which clocks set `offset` minutes ahead of universal time show
this date and time. -/
def ofLocal? (date : Date) (clock : Clock) (offset : Int) : Option Timestamp :=
  if date.Valid ∧ clock.Valid then
    let minutes : Int := 60 * clock.hour + clock.minute - offset
    let moved := if minutes < 0 then date.previous else if 1440 ≤ minutes then date.next else date
    let rest := (minutes % 1440).toNat
    let shifted : Clock := { clock with hour := rest / 60, minute := rest % 60 }
    if valid : moved.Valid ∧ shifted.Valid then some ⟨moved, shifted, valid.1, valid.2⟩ else none
  else none

/-! ### Reading -/

def skipBlanks (text : List Char) : List Char := text.dropWhile Text.isBlank

def readNumber (limit : Nat) (text : List Char) : Option (Nat × List Char) :=
  let digits := (text.take limit).takeWhile Char.isDigit
  if digits.isEmpty then none else some (Text.decimalValue digits, text.drop digits.length)

def readShort (text : List Char) : Option (Nat × List Char) := readNumber 2 (skipBlanks text)

def readYear (text : List Char) : Option (Int × List Char) :=
  match skipBlanks text with
  | '-' :: rest => (readNumber rest.length rest).map fun (year, after) => (-(year : Int), after)
  | '+' :: rest => (readNumber rest.length rest).map fun (year, after) => ((year : Int), after)
  | rest => (readNumber 4 rest).map fun (year, after) => ((year : Int), after)

def readMark (mark : Char) (text : List Char) : Option (List Char) :=
  match skipBlanks text with
  | c :: rest => if c = mark then some rest else none
  | [] => none

/-- The fraction of a second: nine digits count and further ones do not. -/
def readFraction (text : List Char) : Option (Nat × List Char) :=
  match text with
  | '.' :: rest =>
      let digits := rest.takeWhile Char.isDigit
      if digits.isEmpty then none
      else
        let kept := digits.take 9
        some (Text.decimalValue kept * Nat.pow 10 (9 - kept.length), rest.drop digits.length)
  | _ => some (0, text)

def readOffset (text : List Char) : Option (Int × List Char) :=
  if (text.take 3).map Char.toUpper = ['U', 'T', 'C'] then some (0, text.drop 3)
  else
    match text with
    | [] => none
    | c :: rest =>
        if c = 'Z' || c = 'z' then some (0, rest)
        else if c = '+' || c = '-' || c = '\u2212' then
          match rest with
          | h :: h' :: rest =>
              match rest.dropWhile fun c => c = ':' || Text.isBlank c with
              | m :: m' :: rest =>
                  if [h, h', m, m'].all Char.isDigit && Text.decimalValue [m, m'] < 60 &&
                      Text.decimalValue [h, h'] < 24 then
                    let minutes : Int := 60 * Text.decimalValue [h, h'] + Text.decimalValue [m, m']
                    some (if c = '+' then minutes else -minutes, rest)
                  else none
              | _ => none
          | _ => none
        else none

def readChars (text : List Char) : Option Timestamp := do
  let (year, text) ← readYear text
  let text ← readMark '-' text
  let (month, text) ← readShort text
  let text ← readMark '-' text
  let (day, text) ← readShort text
  let text ← match text with
    | c :: rest => if c = 'T' || c = 't' || c = ' ' then some rest else none
    | [] => none
  let (hour, text) ← readShort text
  let text ← readMark ':' text
  let (minute, text) ← readShort text
  let text ← readMark ':' text
  let (second, text) ← readShort text
  let (nanos, text) ← readFraction text
  let (offset, text) ← readOffset (skipBlanks text)
  if (skipBlanks text).isEmpty then
    ofLocal? ⟨year, month, day⟩ ⟨hour, minute, second, nanos⟩ offset
  else none

def ofText? (text : String) : Option Timestamp := readChars text.toList

end Timestamp

end Muster
