import Muster.Text.Digits
import Muster.Yaml.Cursor

/-!
The four ways to write a scalar: plain, in quotes, and as a block of lines.
Each reader takes the place where the scalar starts and gives its text and the
place after it; a scalar that breaks a rule of its form has no reading.

Blanks and line breaks inside plain and quoted text fold: a single break counts
as a space, and of more breaks all but the first are kept.
-/

namespace Muster.Yaml

inductive ScalarStyle where
  | plain
  | singleQuoted
  | doubleQuoted
  | literal
  | folded
  deriving DecidableEq, Repr

structure Gap where
  blanks : List Char
  firstBreak : List Char
  moreBreaks : List Char
  broken : Bool

namespace Gap

def empty : Gap := ⟨[], [], [], false⟩

def continued : Gap := ⟨[], [], [], true⟩

def text (gap : Gap) : List Char :=
  if !gap.broken then gap.blanks
  else if gap.firstBreak = ['\n'] then
    if gap.moreBreaks.isEmpty then [' '] else gap.moreBreaks
  else gap.firstBreak ++ gap.moreBreaks

/-- Reads on to the next character that is neither blank nor break. A tab may not
stand in the indentation, which is what lies left of column `indent`. -/
def scan (indent : Int) : Nat → Gap → Cursor → Option (Gap × Cursor)
  | 0, gap, cursor => some (gap, cursor)
  | fuel + 1, gap, cursor =>
      match cursor.peek 0 with
      | none => some (gap, cursor)
      | some c =>
          if isSpaceOrTab c then
            if gap.broken && (cursor.column : Int) < indent && c = '\t' then none
            else if gap.broken then scan indent fuel gap cursor.skip
            else scan indent fuel { gap with blanks := gap.blanks ++ [c] } cursor.skip
          else if isBreak c then
            let (lineBreak, next) := cursor.takeBreak
            if gap.broken then
              scan indent fuel { gap with moreBreaks := gap.moreBreaks ++ lineBreak } next
            else scan indent fuel ⟨[], lineBreak, [], true⟩ next
          else some (gap, cursor)

end Gap

/-! ### Plain scalars -/

def isFlowIndicator (c : Char) : Bool :=
  c = ',' || c = '[' || c = ']' || c = '{' || c = '}'

def plainRun (inFlow : Bool) : Nat → List Char → Cursor → Option (List Char × Cursor)
  | 0, run, cursor => some (run.reverse, cursor)
  | fuel + 1, run, cursor =>
      match cursor.peek 0 with
      | none => some (run.reverse, cursor)
      | some c =>
          if cursor.atGap then some (run.reverse, cursor)
          else if inFlow && c = ':' && (cursor.peek 1).any (fun n => isFlowIndicator n || n = '?') then
            none
          else if (c = ':' && cursor.gapAt 1) || (inFlow && isFlowIndicator c) then
            some (run.reverse, cursor)
          else plainRun inFlow fuel (c :: run) cursor.skip

def scanPlain (inFlow : Bool) (indent : Int) :
    Nat → List Char → Gap → Cursor → Option (List Char × Bool × Cursor)
  | 0, text, gap, cursor => some (text, gap.broken, cursor)
  | fuel + 1, text, gap, cursor =>
      if cursor.atDocumentMarker || cursor.sees '#' then some (text, gap.broken, cursor)
      else
        match plainRun inFlow cursor.rest.length [] cursor with
        | none => none
        | some ([], _) => some (text, gap.broken, cursor)
        | some (run, next) =>
            let text := text ++ gap.text ++ run
            if !next.seesWhere (fun c => isSpaceOrTab c || isBreak c) then some (text, false, next)
            else
              match Gap.scan indent next.rest.length .empty next with
              | none => none
              | some (after, place) =>
                  if !inFlow && (place.column : Int) < indent then some (text, after.broken, place)
                  else scanPlain inFlow indent fuel text after place

/-! ### Quoted scalars -/

def simpleEscape? (c : Char) : Option Char :=
  [('0', '\x00'), ('a', '\x07'), ('b', '\x08'), ('t', '\t'), ('\t', '\t'), ('n', '\n'),
    ('v', '\x0b'), ('f', '\x0c'), ('r', '\r'), ('e', '\x1b'), (' ', ' '), ('"', '"'),
    ('/', '/'), ('\\', '\\'), ('N', '\u0085'), ('_', '\u00a0'), ('L', '\u2028'),
    ('P', '\u2029')].lookup c

def numericEscape? (c : Char) : Option Nat := [('x', 2), ('u', 4), ('U', 8)].lookup c

def scanEscape (cursor : Cursor) : Option (Char × Cursor) :=
  match cursor.peek 1 with
  | none => none
  | some c =>
      match simpleEscape? c with
      | some meant => some (meant, cursor.skipBy 2)
      | none =>
          match numericEscape? c with
          | none => none
          | some count =>
              match Text.hexNumber? count (cursor.rest.drop 2) with
              | none => none
              | some code =>
                  if (0xD800 ≤ code && code ≤ 0xDFFF) || 0x10FFFF < code then none
                  else some (.ofNat code, cursor.skipBy (2 + count))

def quoteOf (single : Bool) : Char := if single then '\'' else '"'

def quotedRun (single : Bool) : Nat → List Char → Cursor → Option (List Char × Bool × Cursor)
  | 0, run, cursor => some (run.reverse, false, cursor)
  | fuel + 1, run, cursor =>
      match cursor.peek 0 with
      | none => some (run.reverse, false, cursor)
      | some c =>
          if cursor.atGap then some (run.reverse, false, cursor)
          else if single && c = '\'' && cursor.peek 1 = some '\'' then
            quotedRun single fuel ('\'' :: run) (cursor.skipBy 2)
          else if c = quoteOf single then some (run.reverse, false, cursor)
          else if !single && c = '\\' then
            if (cursor.peek 1).any isBreak then
              some (run.reverse, true, cursor.skip.takeBreak.2)
            else
              match scanEscape cursor with
              | none => none
              | some (meant, next) => quotedRun single fuel (meant :: run) next
          else quotedRun single fuel (c :: run) cursor.skip

def scanQuoted (single : Bool) : Nat → List Char → Cursor → Option (List Char × Cursor)
  | 0, _, _ => none
  | fuel + 1, text, cursor =>
      if cursor.atDocumentMarker || cursor.rest.isEmpty then none
      else
        match quotedRun single cursor.rest.length [] cursor with
        | none => none
        | some (run, continued, next) =>
            let text := text ++ run
            if next.sees (quoteOf single) then some (text, next.skip)
            else
              match Gap.scan 0 next.rest.length (if continued then .continued else .empty) next with
              | none => none
              | some (gap, place) => scanQuoted single fuel (text ++ gap.text) place

/-! ### Block scalars -/

inductive Chomping where
  | strip
  | clip
  | keep
  deriving DecidableEq

def chompingOf? (c : Char) : Option Chomping :=
  if c = '+' then some .keep else if c = '-' then some .strip else none

def blockHeader (cursor : Cursor) : Option (Chomping × Nat × Cursor) :=
  let digit (cursor : Cursor) : Option (Nat × Cursor) :=
    match cursor.peek 0 with
    | some c =>
        if c.isDigit then
          if c = '0' then none else some (c.toNat - '0'.toNat, cursor.skip)
        else some (0, cursor)
    | none => some (0, cursor)
  match (cursor.peek 0).bind chompingOf? with
  | some chomping => (digit cursor.skip).map fun (indent, next) => (chomping, indent, next)
  | none =>
      match digit cursor with
      | none => none
      | some (0, next) => some (.clip, 0, next)
      | some (indent, next) =>
          match (next.peek 0).bind chompingOf? with
          | some chomping => some (chomping, indent, next.skip)
          | none => some (.clip, indent, next)

/-- Moves over empty lines and the indentation of the next line that is not
empty. Where `indent` is 0 the indentation is still to be found: the deepest one
met is given back. -/
def blockBreaks (indent : Nat) : Nat → Nat → List Char → Cursor → Option (Nat × List Char × Cursor)
  | 0, deepest, breaks, cursor => some (deepest, breaks, cursor)
  | fuel + 1, deepest, breaks, cursor =>
      let open? (place : Cursor) : Bool := indent = 0 || place.column < indent
      let spaces := (cursor.rest.takeWhile (· = ' ')).length
      let place := cursor.skipBy (if indent = 0 then spaces else min spaces (indent - cursor.column))
      let deepest := max deepest place.column
      if open? place && place.sees '\t' then none
      else if place.seesWhere isBreak then
        let (lineBreak, next) := place.takeBreak
        blockBreaks indent fuel deepest (breaks ++ lineBreak) next
      else some (deepest, breaks, place)

structure BlockText where
  text : List Char
  lastBreak : List Char
  emptyLines : List Char
  blankStart : Bool

def blockLines (literal : Bool) (indent : Nat) :
    Nat → BlockText → Cursor → Option (BlockText × Cursor)
  | 0, block, cursor => some (block, cursor)
  | fuel + 1, block, cursor =>
      if cursor.column = indent && !cursor.rest.isEmpty then
        let blank := cursor.seesWhere isSpaceOrTab
        let joined : List Char :=
          if !literal && block.lastBreak = ['\n'] && !block.blankStart && !blank then
            if block.emptyLines.isEmpty then [' '] else []
          else block.lastBreak
        let (line, ending) := cursor.takeWhile fun c => !isBreak c
        let (lineBreak, next) := ending.takeBreak
        match blockBreaks indent (next.rest.length + 1) 0 [] next with
        | none => none
        | some (_, emptyLines, place) =>
            blockLines literal indent fuel
              ⟨block.text ++ joined ++ block.emptyLines ++ line, lineBreak, emptyLines, blank⟩ place
      else some (block, cursor)

def scanBlock (literal : Bool) (parent : Int) (cursor : Cursor) : Option (List Char × Cursor) := do
  let (chomping, increment, header) ← blockHeader cursor.skip
  let start ← header.finishLine
  let given := if increment = 0 then 0 else (max parent 0).toNat + increment
  let (deepest, emptyLines, place) ← blockBreaks given (start.rest.length + 1) 0 [] start
  let indent := if given = 0 then max (max deepest (parent + 1).toNat) 1 else given
  let (block, after) ←
    blockLines literal indent (place.rest.length + 1) ⟨[], [], emptyLines, false⟩ place
  let ending := match chomping with
    | .strip => []
    | .clip => block.lastBreak
    | .keep => block.lastBreak ++ block.emptyLines
  return (block.text ++ ending, after)

end Muster.Yaml
