import Muster.Yaml.Scalar

/-!
The tokens of a YAML text. Indentation becomes tokens of its own: a collection
that starts left of nothing opens where its first entry stands and closes where
a line starts further left. A key is recognised only at the colon after it, so
the place of everything that may turn out to be a key is kept: it may span one
line and 1024 characters.
-/

namespace Muster.Yaml

inductive Token where
  | version (major minor : Nat)
  | tagHandle (handle expansion : String)
  | documentStart
  | documentEnd
  | blockSequenceStart
  | blockMappingStart
  | blockEnd
  | flowSequenceStart
  | flowSequenceEnd
  | flowMappingStart
  | flowMappingEnd
  | blockEntry
  | flowEntry
  | key
  | value
  | alias (name : String)
  | anchor (name : String)
  | tag (handle suffix : String)
  | scalar (text : String) (style : ScalarStyle)
  deriving DecidableEq, Repr

structure KeyPlace where
  required : Bool
  token : Nat
  index : Nat
  line : Nat
  column : Nat

structure Lexer where
  cursor : Cursor
  tokens : Array Token
  keys : List (Option KeyPlace)
  indent : Int
  outer : List Int
  keyAllowed : Bool

namespace Lexer

def ofText (text : List Char) : Lexer := ⟨.ofText text, #[], [none], -1, [], true⟩

def inFlow (lexer : Lexer) : Bool := 1 < lexer.keys.length

def push (lexer : Lexer) (token : Token) : Lexer := { lexer with tokens := lexer.tokens.push token }

def setKey (lexer : Lexer) (place : Option KeyPlace) : Lexer :=
  { lexer with keys := place :: lexer.keys.tail }

def dropKey (lexer : Lexer) : Option Lexer :=
  match lexer.keys.head? with
  | some (some place) => if place.required then none else some (lexer.setKey none)
  | _ => some (lexer.setKey none)

def dropStaleKeys (lexer : Lexer) : Option Lexer :=
  let stale (place : KeyPlace) : Bool :=
    place.line < lexer.cursor.line || place.index + 1024 < lexer.cursor.index
  if lexer.keys.any fun key => key.any fun place => stale place && place.required then none
  else some { lexer with keys := lexer.keys.map fun key => key.filter fun place => !stale place }

def noteKey (lexer : Lexer) : Option Lexer :=
  if lexer.keyAllowed then
    let cursor := lexer.cursor
    lexer.dropKey.map fun lexer => lexer.setKey (some
      ⟨!lexer.inFlow && lexer.indent = cursor.column, lexer.tokens.size, cursor.index, cursor.line,
        cursor.column⟩)
  else some lexer

def openBlock (lexer : Lexer) (column : Nat) (position : Nat) (token : Token) : Lexer :=
  if lexer.inFlow || (column : Int) ≤ lexer.indent then lexer
  else { lexer with
    outer := lexer.indent :: lexer.outer
    indent := column
    tokens := lexer.tokens.insertIdxIfInBounds position token }

def openBlockHere (lexer : Lexer) (token : Token) : Lexer :=
  lexer.openBlock lexer.cursor.column lexer.tokens.size token

def closeBlocks (column : Int) : Nat → Lexer → Lexer
  | 0, lexer => lexer
  | fuel + 1, lexer =>
      if lexer.inFlow || lexer.indent ≤ column then lexer
      else closeBlocks column fuel { lexer with
        tokens := lexer.tokens.push .blockEnd
        indent := lexer.outer.head?.getD (-1)
        outer := lexer.outer.tail }

def closeTo (lexer : Lexer) (column : Int) : Lexer :=
  closeBlocks column (lexer.outer.length + 1) lexer

/-- Moves over blanks, comments and line breaks. A tab may stand where no key can. -/
def skipGap : Nat → Lexer → Lexer
  | 0, lexer => lexer
  | fuel + 1, lexer =>
      let cursor := lexer.cursor
      let cursor := if cursor.index = 0 && cursor.sees '\ufeff' then cursor.skip else cursor
      let tabs := lexer.inFlow || !lexer.keyAllowed
      let cursor := (cursor.skipWhile fun c => c = ' ' || (tabs && c = '\t')).skipComment
      if cursor.seesWhere isBreak then
        skipGap fuel { lexer with
          cursor := cursor.takeBreak.2, keyAllowed := lexer.keyAllowed || !lexer.inFlow }
      else { lexer with cursor }

/-! ### Names, tags and directives -/

def isUriChar (inBrackets : Bool) (c : Char) : Bool :=
  isNameChar c || c ∈ [';', '/', '?', ':', '@', '&', '=', '+', '$', '.', '%', '!', '~', '*', '\'',
    '(', ')'] || (inBrackets && (c = ',' || c = '[' || c = ']'))

def uriEscapes : Nat → List Char → Option (List Char × List Char)
  | 0, text => some ([], text)
  | width + 1, text =>
      match text with
      | '%' :: digits =>
          match Text.hexNumber? 2 digits with
          | none => none
          | some octet =>
              if 0x80 ≤ octet && octet < 0xC0 then
                (uriEscapes width (digits.drop 2)).map fun (octets, rest) =>
                  (.ofNat octet :: octets, rest)
              else none
      | _ => none

def octetWidth (octet : Nat) : Nat :=
  if octet < 0x80 then 1 else if octet < 0xC0 then 0 else if octet < 0xE0 then 2
  else if octet < 0xF0 then 3 else if octet < 0xF8 then 4 else 0

def uriText (inBrackets : Bool) : Nat → List Char → Cursor → Option (List Char × Cursor)
  | 0, text, cursor => some (text.reverse, cursor)
  | fuel + 1, text, cursor =>
      match cursor.peek 0 with
      | none => some (text.reverse, cursor)
      | some c =>
          if c = '%' then
            match Text.hexNumber? 2 (cursor.rest.drop 1) with
            | none => none
            | some octet =>
                match octetWidth octet with
                | 0 => none
                | more + 1 =>
                    match uriEscapes more (cursor.rest.drop 3) with
                    | none => none
                    | some (octets, _) =>
                        uriText inBrackets fuel (octets.reverse ++ .ofNat octet :: text)
                          (cursor.skipBy (3 * (more + 1)))
          else if isUriChar inBrackets c then uriText inBrackets fuel (c :: text) cursor.skip
          else some (text.reverse, cursor)

def handleText (cursor : Cursor) : Option (List Char × Cursor) :=
  if cursor.sees '!' then
    let (name, next) := cursor.skip.takeWhile isNameChar
    if next.sees '!' then some ('!' :: name ++ ['!'], next.skip) else some ('!' :: name, next)
  else none

def scanTag (inFlow : Bool) (cursor : Cursor) : Option (Token × Cursor) := do
  let (handle, suffix, next) ←
    if cursor.peek 1 = some '<' then do
      let (suffix, next) ← uriText true cursor.rest.length [] (cursor.skipBy 2)
      if suffix.isEmpty || !next.sees '>' then none
      else pure ([], suffix, next.skip)
    else do
      let (handle, next) ← handleText cursor
      let (rest, next) ← uriText false cursor.rest.length [] next
      if 2 ≤ handle.length && handle.getLast? = some '!' then
        if rest.isEmpty then none else pure (handle, rest, next)
      else
        let suffix := handle.drop 1 ++ rest
        if suffix.isEmpty then pure ([], ['!'], next) else pure (['!'], suffix, next)
  if next.atGap || (inFlow && next.sees ',') then
    some (.tag (.ofList handle) (.ofList suffix), next)
  else none

def scanName (cursor : Cursor) : Option (String × Cursor) :=
  let (name, next) := cursor.skip.takeWhile isNameChar
  if name.isEmpty then none
  else if next.atGap || next.seesWhere (· ∈ ['?', ':', ',', ']', '}', '%', '@', '\x60']) then
    some (.ofList name, next)
  else none

def versionNumber (cursor : Cursor) : Option (Nat × Cursor) :=
  let (digits, next) := cursor.takeWhile Char.isDigit
  if digits.isEmpty || 9 < digits.length then none
  else some (Text.decimalValue digits, next)

def scanDirective (cursor : Cursor) : Option (Token × Cursor) := do
  let (name, next) := cursor.skip.takeWhile isNameChar
  if name.isEmpty || !next.atGap then none
  else
    let next := next.skipWhile isSpaceOrTab
    if name = ['Y', 'A', 'M', 'L'] then
      let (major, next) ← versionNumber next
      if !next.sees '.' then none
      else
        let (minor, next) ← versionNumber next.skip
        let next ← next.finishLine
        some (.version major minor, next)
    else if name = ['T', 'A', 'G'] then
      let (handle, next) ← handleText next
      if (handle ≠ ['!'] && (handle.length < 2 || handle.getLast? ≠ some '!')) ||
          !next.seesWhere isSpaceOrTab then none
      else
        let (expansion, next) ←
          uriText true next.rest.length [] (next.skipWhile isSpaceOrTab)
        if expansion.isEmpty || !next.atGap then none
        else
          let next ← next.finishLine
          some (.tagHandle (.ofList handle) (.ofList expansion), next)
    else none

/-! ### One token at a time -/

def endBlocks (lexer : Lexer) : Option Lexer :=
  (lexer.closeTo (-1)).dropKey.map fun lexer => { lexer with keyAllowed := false }

def take (lexer : Lexer) (width : Nat) (token : Token) : Lexer :=
  { lexer.push token with cursor := lexer.cursor.skipBy width }

def accept (lexer : Lexer) (token : Token) (next : Cursor) : Lexer :=
  { lexer.push token with cursor := next }

def openFlow (lexer : Lexer) (token : Token) : Option Lexer :=
  lexer.noteKey.map fun lexer =>
    { lexer.take 1 token with keys := none :: lexer.keys, keyAllowed := true }

def closeFlow (lexer : Lexer) (token : Token) : Option Lexer :=
  lexer.dropKey.map fun lexer =>
    { lexer.take 1 token with
      keys := if lexer.inFlow then lexer.keys.tail else lexer.keys, keyAllowed := false }

def flowEntry (lexer : Lexer) : Option Lexer :=
  lexer.dropKey.map fun lexer => { lexer.take 1 .flowEntry with keyAllowed := true }

def blockEntry (lexer : Lexer) : Option Lexer :=
  if !lexer.inFlow && !lexer.keyAllowed then none
  else (lexer.openBlockHere .blockSequenceStart).dropKey.map fun lexer =>
    { lexer.take 1 .blockEntry with keyAllowed := true }

def explicitKey (lexer : Lexer) : Option Lexer :=
  if !lexer.inFlow && !lexer.keyAllowed then none
  else (lexer.openBlockHere .blockMappingStart).dropKey.map fun lexer =>
    { lexer.take 1 .key with keyAllowed := !lexer.inFlow }

def valueIndicator (lexer : Lexer) : Option Lexer :=
  match lexer.keys.head? with
  | some (some place) =>
      let keyed := { lexer with
        tokens := lexer.tokens.insertIdxIfInBounds place.token .key
        keyAllowed := false }
      some (((keyed.openBlock place.column place.token .blockMappingStart).setKey none).take 1 .value)
  | _ =>
      if !lexer.inFlow && !lexer.keyAllowed then none
      else
        let opened := lexer.openBlockHere .blockMappingStart
        some { opened.take 1 .value with keyAllowed := !lexer.inFlow }

def named (lexer : Lexer) (token : String → Token) : Option Lexer := do
  let lexer ← lexer.noteKey
  let (name, next) ← scanName lexer.cursor
  some { lexer.accept (token name) next with keyAllowed := false }

def tagged (lexer : Lexer) : Option Lexer := do
  let lexer ← lexer.noteKey
  let (token, next) ← scanTag lexer.inFlow lexer.cursor
  some { lexer.accept token next with keyAllowed := false }

def quotedScalar (lexer : Lexer) (single : Bool) : Option Lexer := do
  let lexer ← lexer.noteKey
  let (text, next) ← scanQuoted single lexer.cursor.rest.length [] lexer.cursor.skip
  let style := if single then ScalarStyle.singleQuoted else .doubleQuoted
  some { lexer.accept (.scalar (.ofList text) style) next with keyAllowed := false }

def blockScalar (lexer : Lexer) (literal : Bool) : Option Lexer := do
  let lexer ← lexer.dropKey
  let (text, next) ← scanBlock literal lexer.indent lexer.cursor
  let style := if literal then ScalarStyle.literal else .folded
  some { lexer.accept (.scalar (.ofList text) style) next with keyAllowed := true }

def plainScalar (lexer : Lexer) : Option Lexer := do
  let lexer ← lexer.noteKey
  let (text, atLineStart, next) ←
    scanPlain lexer.inFlow (lexer.indent + 1) lexer.cursor.rest.length [] .empty lexer.cursor
  some { lexer.accept (.scalar (.ofList text) .plain) next with keyAllowed := atLineStart }

def isIndicator (c : Char) : Bool :=
  c ∈ ['-', '?', ':', ',', '[', ']', '{', '}', '#', '&', '*', '!', '|', '>', '\'', '"', '%', '@',
    '\x60']

def step (lexer : Lexer) (c : Char) : Option Lexer :=
  let cursor := lexer.cursor
  let flow := lexer.inFlow
  if cursor.column = 0 && c = '%' then do
    let lexer ← lexer.endBlocks
    let (token, next) ← scanDirective cursor
    some (lexer.accept token next)
  else if cursor.atDocumentMarker then
    lexer.endBlocks.map fun lexer =>
      lexer.take 3 (if c = '-' then .documentStart else .documentEnd)
  else if c = '[' then lexer.openFlow .flowSequenceStart
  else if c = '{' then lexer.openFlow .flowMappingStart
  else if c = ']' then lexer.closeFlow .flowSequenceEnd
  else if c = '}' then lexer.closeFlow .flowMappingEnd
  else if c = ',' then lexer.flowEntry
  else if c = '-' && cursor.gapAt 1 then lexer.blockEntry
  else if c = '?' && (flow || cursor.gapAt 1) then lexer.explicitKey
  else if c = ':' && (flow || cursor.gapAt 1) then lexer.valueIndicator
  else if c = '*' then lexer.named .alias
  else if c = '&' then lexer.named .anchor
  else if c = '!' then lexer.tagged
  else if c = '|' && !flow then lexer.blockScalar true
  else if c = '>' && !flow then lexer.blockScalar false
  else if c = '\'' then lexer.quotedScalar true
  else if c = '"' then lexer.quotedScalar false
  else if (!cursor.atGap && !isIndicator c) ||
      (c = '-' && !(cursor.peek 1).any isSpaceOrTab) ||
      (!flow && (c = '?' || c = ':') && !cursor.gapAt 1) then lexer.plainScalar
  else none

def run : Nat → Lexer → Option (Array Token)
  | 0, _ => none
  | fuel + 1, lexer => do
      let lexer ← (skipGap (lexer.cursor.rest.length + 1) lexer).dropStaleKeys
      let lexer := lexer.closeTo lexer.cursor.column
      match lexer.cursor.peek 0 with
      | none => lexer.endBlocks.map Lexer.tokens
      | some c => run fuel (← lexer.step c)

end Lexer

def Token.ofText? (text : String) : Option (List Token) :=
  let chars := text.toList
  if chars.all isAllowed then
    let body := if chars.head? = some '\ufeff' then chars.tail else chars
    (Lexer.run (body.length + 1) (.ofText body)).map Array.toList
  else none

end Muster.Yaml
