import Muster.Yaml.Node

/-!
Reading a document as a value of a known shape. A reader looks at one node and
has no answer when the node is of another shape. Aliases are followed where a
value is wanted and nowhere else, and a document may be unfolded by them to no
more than a hundred times its marks.
-/

namespace Muster.Yaml

abbrev Reader (α : Type) := ReaderT Document (StateT Nat Option) α

namespace Reader

def fail {α : Type} : Reader α := fun _ _ => none

def follow (node : Node) : Reader Node := fun document followed =>
  match node with
  | .alias number =>
      if followed + 1 ≤ document.marks * 100 then
        (document.anchors.lookup number).map fun target => (target, followed + 1)
      else none
  | other => some (other, followed)

def tagPrefix : String := "tag:yaml.org,2002:"

def isNullText (text : String) : Bool := text ∈ ["null", "Null", "NULL", "~"]

def text (node : Node) : Reader String := do
  match ← follow node with
  | .scalar _ _ text => pure text
  | _ => fail

/-- A value that may be absent. A plain scalar without a tag is absent when it is
empty or null; one tagged as null must be null; all else is present. -/
def optional {α : Type} (present : Node → Reader α) (node : Node) : Reader (Option α) := do
  let node ← follow node
  match node with
  | .scalar tag .plain text =>
      match tag with
      | none => if text = "" || isNullText text then pure none else some <$> present node
      | some tag =>
          if tag = tagPrefix ++ "null" then if isNullText text then pure none else fail
          else some <$> present node
  | _ => some <$> present node

/-- The text of a scalar that may be read as a number or a truth value: a plain
one, or a literal block with the tag of the type. -/
def word (type : String) (node : Node) : Reader String := do
  match ← follow node with
  | .scalar _ .plain text => pure text
  | .scalar (some tag) .literal text => if tag = tagPrefix ++ type then pure text else fail
  | _ => fail

def flag (node : Node) : Reader Bool := do
  let text ← word "bool" node
  if text ∈ ["true", "True", "TRUE"] then pure true
  else if text ∈ ["false", "False", "FALSE"] then pure false
  else fail

def digitValue? (base : Nat) (c : Char) : Option Nat :=
  (Text.hexValue? c).filter fun value => value < base

def digitsValue? (base : Nat) (digits : List Char) : Option Nat :=
  if digits.isEmpty then none
  else digits.foldl (fun value digit => do return base * (← value) + (← digitValue? base digit)) (some 0)

/-- A number written with digits of base ten, or of base sixteen, eight or two after
`0x`, `0o` or `0b`. One plus sign may stand in front. In base ten a zero does not
stand in front of other digits. -/
def naturalValue? (text : String) : Option Nat :=
  let chars := text.toList
  let unsigned := if chars.head? = some '+' then chars.tail else chars
  let based := match unsigned with
    | '0' :: 'x' :: digits => digitsValue? 16 digits
    | '0' :: 'o' :: digits => digitsValue? 8 digits
    | '0' :: 'b' :: digits => digitsValue? 2 digits
    | _ => none
  match based with
  | some value => some value
  | none =>
      if unsigned.head? = some '0' && 1 < unsigned.length then none
      else digitsValue? 10 unsigned

def natural (bits : Nat) (node : Node) : Reader Nat := do
  match naturalValue? (← word "int" node) with
  | some value => if value < Nat.pow 2 bits then pure value else fail
  | none => fail

def isAbsent : Node → Bool
  | .scalar _ .plain text => text = ""
  | _ => false

def items {α : Type} (item : Node → Reader α) (node : Node) : Reader (List α) := do
  let node ← follow node
  match node with
  | .sequence _ items => items.mapM item
  | other => if isAbsent other then pure [] else fail

def entries (node : Node) : Reader (List (String × Node)) := do
  let node ← follow node
  match node with
  | .mapping _ pairs => pairs.mapM fun (key, value) => do return (← text key, value)
  | other => if isAbsent other then pure [] else fail

def table {α : Type} (value : Node → Reader α) (node : Node) : Reader (List (String × α)) := do
  (← entries node).mapM fun (key, node) => do return (key, ← value node)

/-- The entries of a mapping with known keys, each at most once. A key may have
other names; entries with unknown keys are passed over. -/
def record (known : List String) (otherNames : List (String × String)) (node : Node) :
    Reader (List (String × Node)) := do
  let named := (← entries node).map fun (key, value) => ((otherNames.lookup key).getD key, value)
  let found := named.filter fun (key, _) => key ∈ known
  if (found.map Prod.fst).Nodup then pure found else fail

def fieldD {α : Type} (fields : List (String × Node)) (key : String) (fallback : α)
    (value : Node → Reader α) : Reader α :=
  match fields.lookup key with
  | none => pure fallback
  | some node => value node

def field {α : Type} (fields : List (String × Node)) (key : String) (value : Node → Reader α) :
    Reader (Option α) :=
  fieldD fields key none (optional value)

def choice {α : Type} (named : String → Option α) (node : Node) : Reader α := do
  let chosen (name : String) : Reader α := match named name with
    | some value => pure value
    | none => fail
  let tagName (tag : Option String) : Option String := tag.bind fun tag =>
    match tag.toList with
    | '!' :: name => some (.ofList name)
    | _ => none
  match ← follow node with
  | .scalar tag style text =>
      match tagName tag with
      | none => chosen text
      | some name =>
          if style = .plain && (text = "" || isNullText text) then chosen name else fail
  | _ => fail

end Reader

def Document.read {α : Type} (document : Document) (whenEmpty : α) (reader : Node → Reader α) :
    Option α :=
  match document.root with
  | none => some whenEmpty
  | some root => (reader root document 0).map Prod.fst

end Muster.Yaml
