/-!
A place in a YAML text: what is still to be read, with the position that
indentation and one-line keys are judged by. Line breaks are carriage return,
line feed, next line, line separator and paragraph separator; a carriage return
with a line feed is one break.
-/

namespace Muster.Yaml

def isBreak (c : Char) : Bool :=
  c = '\n' || c = '\r' || c = '\u0085' || c = '\u2028' || c = '\u2029'

def isSpaceOrTab (c : Char) : Bool := c = ' ' || c = '\t'

def isNameChar (c : Char) : Bool := c.isAlphanum || c = '_' || c = '-'

def isAllowed (c : Char) : Bool :=
  let code := c.toNat
  code = 0x9 || code = 0xA || code = 0xD || (0x20 ≤ code && code ≤ 0x7E) || code = 0x85 ||
    (0xA0 ≤ code && code ≤ 0xD7FF) || (0xE000 ≤ code && code ≤ 0xFFFD) || 0x10000 ≤ code

structure Cursor where
  rest : List Char
  index : Nat
  line : Nat
  column : Nat

namespace Cursor

def ofText (text : List Char) : Cursor := ⟨text, 0, 0, 0⟩

def peek (cursor : Cursor) (ahead : Nat) : Option Char := cursor.rest[ahead]?

def sees (cursor : Cursor) (c : Char) : Bool := cursor.peek 0 = some c

def gapAt (cursor : Cursor) (ahead : Nat) : Bool :=
  (cursor.peek ahead).all fun c => isSpaceOrTab c || isBreak c

def atGap (cursor : Cursor) : Bool := cursor.gapAt 0

def atLineEnd (cursor : Cursor) : Bool := (cursor.peek 0).all isBreak

def seesWhere (cursor : Cursor) (p : Char → Bool) : Bool := (cursor.peek 0).any p

def skip (cursor : Cursor) : Cursor :=
  match cursor.rest with
  | [] => cursor
  | _ :: rest => ⟨rest, cursor.index + 1, cursor.line, cursor.column + 1⟩

def skipBy (cursor : Cursor) : Nat → Cursor
  | 0 => cursor
  | count + 1 => cursor.skip.skipBy count

/-- Moves over a line break and tells how it counts in a text: every break is a
line feed but the line and the paragraph separator, which stand for themselves. -/
def takeBreak (cursor : Cursor) : List Char × Cursor :=
  match cursor.rest with
  | '\r' :: '\n' :: rest => (['\n'], ⟨rest, cursor.index + 2, cursor.line + 1, 0⟩)
  | c :: rest =>
      if isBreak c then
        (if c = '\u2028' || c = '\u2029' then [c] else ['\n'],
          ⟨rest, cursor.index + 1, cursor.line + 1, 0⟩)
      else ([], cursor)
  | [] => ([], cursor)

def takeWhile (p : Char → Bool) (cursor : Cursor) : List Char × Cursor :=
  let taken := cursor.rest.takeWhile p
  (taken, cursor.skipBy taken.length)

def skipWhile (p : Char → Bool) (cursor : Cursor) : Cursor := (cursor.takeWhile p).2

def skipComment (cursor : Cursor) : Cursor :=
  if cursor.sees '#' then cursor.skipWhile fun c => !isBreak c else cursor

def finishLine (cursor : Cursor) : Option Cursor :=
  let last := (cursor.skipWhile isSpaceOrTab).skipComment
  if last.atLineEnd then some last.takeBreak.2 else none

def atDocumentMarker (cursor : Cursor) : Bool :=
  cursor.column = 0 && cursor.gapAt 3 &&
    (cursor.rest.take 3 = ['-', '-', '-'] || cursor.rest.take 3 = ['.', '.', '.'])

end Cursor

end Muster.Yaml
