import Muster.Text.Digits

/-!
JSON values and their text. Texts are written over several lines with two spaces
for each level. Reading keeps what the manifests of clusters are made of: the
value of a number is not kept, and a string with half of a surrogate pair in it
stands for no text.
-/

namespace Muster

inductive Json where
  | null
  | boolean (value : Bool)
  | number
  | string (text : Option String)
  | array (items : List Json)
  | object (members : List (Option String × Json))
  deriving Inhabited

namespace Json

def ofText (text : String) : Json := string (some text)

def ofText? : Option String → Json
  | none => null
  | some text => ofText text

def ofMembers (members : List (String × Json)) : Json :=
  object (members.map fun (key, value) => (some key, value))

/-! ### Writing -/

def escapedChar (c : Char) : List Char :=
  if c = '"' then ['\\', '"']
  else if c = '\\' then ['\\', '\\']
  else if c = '\x08' then ['\\', 'b']
  else if c = '\t' then ['\\', 't']
  else if c = '\n' then ['\\', 'n']
  else if c = '\x0c' then ['\\', 'f']
  else if c = '\r' then ['\\', 'r']
  else if c.toNat < 0x20 then
    let digits := Text.hexDigits c.toNat
    ['\\', 'u'] ++ List.replicate (4 - digits.length) '0' ++ digits
  else [c]

/-- What a string is written as; one that stands for no text is written as half of
a surrogate pair. -/
def stringChars : Option String → List Char
  | some text => '"' :: text.toList.flatMap escapedChar ++ ['"']
  | none => ['"', '\\', 'u', 'd', '8', '0', '0', '"']

def newLine (level : Nat) : List Char := '\n' :: List.replicate (2 * level) ' '

mutual

/-- The text of a value that starts on a line of the given level. -/
def chars (level : Nat) : Json → List Char
  | null => ['n', 'u', 'l', 'l']
  | boolean true => ['t', 'r', 'u', 'e']
  | boolean false => ['f', 'a', 'l', 's', 'e']
  | number => ['0']
  | string text => stringChars text
  | array [] => ['[', ']']
  | array (item :: items) =>
      '[' :: newLine (level + 1) ++ chars (level + 1) item ++ itemChars (level + 1) items ++
        newLine level ++ [']']
  | object [] => ['{', '}']
  | object ((key, value) :: members) =>
      '{' :: newLine (level + 1) ++ stringChars key ++ [':', ' '] ++ chars (level + 1) value ++
        memberChars (level + 1) members ++ newLine level ++ ['}']

def itemChars (level : Nat) : List Json → List Char
  | [] => []
  | item :: items => ',' :: newLine level ++ chars level item ++ itemChars level items

def memberChars (level : Nat) : List (Option String × Json) → List Char
  | [] => []
  | (key, value) :: members =>
      ',' :: newLine level ++ stringChars key ++ [':', ' '] ++ chars level value ++
        memberChars level members

end

def text (json : Json) : String := .ofList (json.chars 0)

/-! ### Reading -/

def isGap (c : Char) : Bool := c = ' ' || c = '\t' || c = '\n' || c = '\r'

def skipGap (text : List Char) : List Char := text.dropWhile isGap

def simpleEscape? (c : Char) : Option Char :=
  [('"', '"'), ('\\', '\\'), ('/', '/'), ('b', '\x08'), ('f', '\x0c'), ('n', '\n'), ('r', '\r'),
    ('t', '\t')].lookup c

def readUnits : List Char → Option (List Nat × List Char)
  | [] => none
  | '"' :: rest => some ([], rest)
  | '\\' :: 'u' :: a :: b :: c :: d :: rest => do
      let unit ← Text.hexNumber? 4 [a, b, c, d]
      let (units, after) ← readUnits rest
      return (unit :: units, after)
  | '\\' :: c :: rest => do
      let meant ← simpleEscape? c
      let (units, after) ← readUnits rest
      return (meant.toNat :: units, after)
  | c :: rest =>
      if c.toNat < 0x20 then none
      else do
        let (units, after) ← readUnits rest
        return (c.toNat :: units, after)

def isHighHalf (unit : Nat) : Bool := 0xD800 ≤ unit && unit < 0xDC00

def isLowHalf (unit : Nat) : Bool := 0xDC00 ≤ unit && unit < 0xE000

def decodeUnits : List Nat → Option (List Char)
  | [] => some []
  | high :: low :: rest =>
      if isHighHalf high then
        if isLowHalf low then
          (decodeUnits rest).map (.ofNat (0x10000 + (high - 0xD800) * 0x400 + (low - 0xDC00)) :: ·)
        else none
      else if isLowHalf high then none
      else (decodeUnits (low :: rest)).map (.ofNat high :: ·)
  | [unit] => if isHighHalf unit || isLowHalf unit then none else some [.ofNat unit]

def readString (text : List Char) : Option (Option String × List Char) :=
  (readUnits text).map fun (units, rest) => ((decodeUnits units).map String.ofList, rest)

def skipDigits (text : List Char) : Option (List Char) :=
  if text.head?.any Char.isDigit then some (text.dropWhile Char.isDigit) else none

def skipExponent (text : List Char) : Option (List Char) :=
  match text with
  | c :: rest =>
      if c = 'e' || c = 'E' then
        skipDigits (if rest.head? = some '+' || rest.head? = some '-' then rest.tail else rest)
      else some text
  | [] => some []

def skipFraction (text : List Char) : Option (List Char) :=
  match text with
  | '.' :: rest => skipDigits rest
  | _ => some text

def readNumber (text : List Char) : Option (List Char) := do
  let unsigned := if text.head? = some '-' then text.tail else text
  let whole ← match unsigned with
    | '0' :: rest => if rest.head?.any Char.isDigit then none else some rest
    | _ => skipDigits unsigned
  skipExponent (← skipFraction whole)

def skipWord (word text : List Char) : Option (List Char) :=
  if text.take word.length = word then some (text.drop word.length) else none

mutual

def readValue : Nat → List Char → Option (Json × List Char)
  | 0, _ => none
  | fuel + 1, text =>
      match skipGap text with
      | [] => none
      | '"' :: rest => (readString rest).map fun (read, after) => (string read, after)
      | '[' :: rest =>
          match skipGap rest with
          | ']' :: after => some (array [], after)
          | _ => (readItems fuel rest).map fun (items, after) => (array items, after)
      | '{' :: rest =>
          match skipGap rest with
          | '}' :: after => some (object [], after)
          | _ => (readMembers fuel rest).map fun (members, after) => (object members, after)
      | 'n' :: rest => (skipWord ['u', 'l', 'l'] rest).map fun after => (null, after)
      | 't' :: rest => (skipWord ['r', 'u', 'e'] rest).map fun after => (boolean true, after)
      | 'f' :: rest => (skipWord ['a', 'l', 's', 'e'] rest).map fun after => (boolean false, after)
      | text => (readNumber text).map fun after => (number, after)

def readItems : Nat → List Char → Option (List Json × List Char)
  | 0, _ => none
  | fuel + 1, text => do
      let (item, after) ← readValue fuel text
      match skipGap after with
      | ',' :: rest => do
          let (items, after) ← readItems fuel rest
          return (item :: items, after)
      | ']' :: rest => return ([item], rest)
      | _ => none

def readMembers : Nat → List Char → Option (List (Option String × Json) × List Char)
  | 0, _ => none
  | fuel + 1, text =>
      match skipGap text with
      | '"' :: rest => do
          let (key, after) ← readString rest
          match skipGap after with
          | ':' :: rest => do
              let (value, after) ← readValue fuel rest
              match skipGap after with
              | ',' :: rest => do
                  let (members, after) ← readMembers fuel rest
                  return ((key, value) :: members, after)
              | '}' :: rest => return ([(key, value)], rest)
              | _ => none
          | _ => none
      | _ => none

end

def read? (text : String) : Option Json :=
  let chars := text.toList
  match readValue (chars.length + 1) chars with
  | some (json, rest) => if (skipGap rest).isEmpty then some json else none
  | none => none

/-! ### Values of a known shape -/

def asText? : Json → Option String
  | string text => text
  | _ => none

def asOptionalText? : Json → Option (Option String)
  | null => some none
  | string (some text) => some (some text)
  | _ => none

def asItems? : Json → Option (List Json)
  | array items => some items
  | _ => none

def asMembers? : Json → Option (List (String × Json))
  | object members => members.mapM fun (key, value) => key.map fun key => (key, value)
  | _ => none

/-- The values of a record with the given fields, in their order: from an object,
in which each field occurs at most once and other members are passed over, or from
an array that starts with the values in order. What an object lacks is `none`;
an array may end early but holds nothing more. -/
def asRecord? (fields : List String) : Json → Option (List (Option Json))
  | array items =>
      if items.length ≤ fields.length then
        some (items.map some ++ List.replicate (fields.length - items.length) none)
      else none
  | object members => do
      let members ← asMembers? (object members)
      if (members.filter fun member => member.1 ∈ fields).map Prod.fst |>.Nodup then
        return fields.map fun field => List.lookup field members
      else none
  | _ => none

def isArray : Json → Bool
  | array _ => true
  | _ => false

end Json

end Muster
