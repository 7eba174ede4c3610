import Muster.Yaml.Token

/-!
The tree of a YAML document. An alias stays in the tree as the number of the
anchor it names, and the document keeps the node of every anchor, so a node may
contain an alias of itself.
-/

namespace Muster.Yaml

inductive Node where
  | scalar (tag : Option String) (style : ScalarStyle) (text : String)
  | sequence (tag : Option String) (items : List Node)
  | mapping (tag : Option String) (entries : List (Node × Node))
  | alias (anchor : Nat)
  deriving Inhabited

/-- The root of a document, if there is one, the nodes of its anchors by number,
and how many marks it is written with: one for a scalar or an alias, two for the
ends of a collection. -/
structure Document where
  root : Option Node
  anchors : List (Nat × Node)
  marks : Nat

namespace Node

def absent : Node := .scalar none .plain ""

structure Builder where
  tokens : List Token
  handles : List (String × String)
  names : List (String × Nat)
  anchored : List (Nat × Nat × Node)
  begun : Nat
  marks : Nat

namespace Builder

def next (builder : Builder) : Option Token := builder.tokens.head?

def drop (builder : Builder) : Builder := { builder with tokens := builder.tokens.tail }

def mark (builder : Builder) (count : Nat) : Builder := { builder with marks := builder.marks + count }

def nextIn (builder : Builder) (tokens : List Token) : Bool := builder.next.any (· ∈ tokens)

def absent (builder : Builder) : Option (Node × Builder) := some (.absent, builder.mark 1)

end Builder

def properties (builder : Builder) : Option String × Option (String × String) × Builder :=
  match builder.tokens with
  | .anchor name :: .tag handle suffix :: rest =>
      (some name, some (handle, suffix), { builder with tokens := rest })
  | .tag handle suffix :: .anchor name :: rest =>
      (some name, some (handle, suffix), { builder with tokens := rest })
  | .anchor name :: rest => (some name, none, { builder with tokens := rest })
  | .tag handle suffix :: rest => (none, some (handle, suffix), { builder with tokens := rest })
  | _ => (none, none, builder)

def resolveTag (builder : Builder) (handle suffix : String) : Option String :=
  if handle = "" then some suffix
  else (builder.handles.lookup handle).map fun expansion => expansion ++ suffix

/-- Starts an anchor. Its number is the count of the names met so far; a name that
is met again takes a new number, which the next new name then shares. -/
def beginAnchor (builder : Builder) (name : String) : Nat × Nat × Builder :=
  let number := builder.names.length
  let names := (name, number) :: builder.names.filter fun known => known.1 ≠ name
  (number, builder.begun, { builder with names, begun := builder.begun + 1 })

def endAnchor (builder : Builder) (anchor : Option (Nat × Nat)) (node : Node) : Builder :=
  match anchor with
  | none => builder
  | some (number, order) =>
      { builder with anchored := (number, order, node) :: builder.anchored }

mutual

/-- Reads one node. A block collection may start where `block` holds, and a
sequence that is not indented where `flush` does. -/
def build (block flush : Bool) : Nat → Builder → Option (Node × Builder)
  | 0, _ => none
  | fuel + 1, builder =>
      match builder.next with
      | some (.alias name) =>
          match builder.names.lookup name with
          | none => none
          | some number => some (.alias number, builder.drop.mark 1)
      | _ => do
          let (anchor, tag, builder) := properties builder
          let tag ← match tag with
            | none => some none
            | some (handle, suffix) => (resolveTag builder handle suffix).map some
          let (anchor, builder) := match anchor with
            | none => (none, builder)
            | some name =>
                let (number, order, builder) := beginAnchor builder name
                (some (number, order), builder)
          let (node, builder) ← buildContent block flush (anchor.isSome || tag.isSome) tag fuel builder
          some (node, endAnchor builder anchor node)

def buildContent (block flush described : Bool) (tag : Option String) :
    Nat → Builder → Option (Node × Builder)
  | 0, _ => none
  | fuel + 1, builder =>
      match builder.next with
      | some (.scalar text style) =>
          some (.scalar (if tag = some "!" then none else tag) style text, builder.drop.mark 1)
      | some .flowSequenceStart =>
          (flowItems true fuel builder.drop).map fun (items, builder) =>
            (.sequence tag items, builder.mark 2)
      | some .flowMappingStart =>
          (flowEntries true fuel builder.drop).map fun (entries, builder) =>
            (.mapping tag entries, builder.mark 2)
      | token =>
          if flush && token = some .blockEntry then
            (flushItems fuel builder).map fun (items, builder) =>
              (.sequence tag items, builder.mark 2)
          else if block && token = some .blockSequenceStart then
            (blockItems fuel builder.drop).map fun (items, builder) =>
              (.sequence tag items, builder.mark 2)
          else if block && token = some .blockMappingStart then
            (blockEntries fuel builder.drop).map fun (entries, builder) =>
              (.mapping tag entries, builder.mark 2)
          else if described then some (.scalar tag .plain "", builder.mark 1)
          else none

def blockItems : Nat → Builder → Option (List Node × Builder)
  | 0, _ => none
  | fuel + 1, builder =>
      match builder.next with
      | some .blockEntry => do
          let builder := builder.drop
          let (item, builder) ←
            if builder.nextIn [.blockEntry, .blockEnd] then builder.absent
            else build true false fuel builder
          let (items, builder) ← blockItems fuel builder
          some (item :: items, builder)
      | some .blockEnd => some ([], builder.drop)
      | _ => none

def flushItems : Nat → Builder → Option (List Node × Builder)
  | 0, _ => none
  | fuel + 1, builder =>
      match builder.next with
      | some .blockEntry => do
          let builder := builder.drop
          let (item, builder) ←
            if builder.nextIn [.blockEntry, .key, .value, .blockEnd] then builder.absent
            else build true false fuel builder
          let (items, builder) ← flushItems fuel builder
          some (item :: items, builder)
      | _ => some ([], builder)

def blockEntries : Nat → Builder → Option (List (Node × Node) × Builder)
  | 0, _ => none
  | fuel + 1, builder =>
      match builder.next with
      | some .key => do
          let builder := builder.drop
          let (key, builder) ←
            if builder.nextIn [.key, .value, .blockEnd] then builder.absent
            else build true true fuel builder
          let (value, builder) ←
            if builder.nextIn [.value] then
              let builder := builder.drop
              if builder.nextIn [.key, .value, .blockEnd] then builder.absent
              else build true true fuel builder
            else builder.absent
          let (entries, builder) ← blockEntries fuel builder
          some ((key, value) :: entries, builder)
      | some .blockEnd => some ([], builder.drop)
      | _ => none

def flowItems (first : Bool) : Nat → Builder → Option (List Node × Builder)
  | 0, _ => none
  | fuel + 1, builder =>
      match builder.next with
      | none => none
      | some .flowSequenceEnd => some ([], builder.drop)
      | some token => do
          let builder ←
            if first then some builder
            else if token = .flowEntry then some builder.drop
            else none
          match builder.next with
          | some .flowSequenceEnd => some ([], builder.drop)
          | some .key =>
              let (pair, builder) ← flowPair fuel builder.drop
              let (items, builder) ← flowItems false fuel builder
              some (.mapping none [pair] :: items, builder.mark 2)
          | _ =>
              let (item, builder) ← build false false fuel builder
              let (items, builder) ← flowItems false fuel builder
              some (item :: items, builder)

/-- The entry of a mapping written as an item. A key that is not written takes the
token after it. -/
def flowPair : Nat → Builder → Option ((Node × Node) × Builder)
  | 0, _ => none
  | fuel + 1, builder => do
      let (key, builder) ←
        if builder.nextIn [.value, .flowEntry, .flowSequenceEnd] then builder.drop.absent
        else build false false fuel builder
      let (value, builder) ←
        if builder.nextIn [.value] then
          let builder := builder.drop
          if builder.nextIn [.flowEntry, .flowSequenceEnd] then builder.absent
          else build false false fuel builder
        else builder.absent
      some ((key, value), builder)

def flowEntries (first : Bool) : Nat → Builder → Option (List (Node × Node) × Builder)
  | 0, _ => none
  | fuel + 1, builder =>
      match builder.next with
      | none => none
      | some .flowMappingEnd => some ([], builder.drop)
      | some token => do
          let builder ←
            if first then some builder
            else if token = .flowEntry then some builder.drop
            else none
          match builder.next with
          | some .flowMappingEnd => some ([], builder.drop)
          | some .key =>
              let builder := builder.drop
              let (key, builder) ←
                if builder.nextIn [.value, .flowEntry, .flowMappingEnd] then builder.absent
                else build false false fuel builder
              let (value, builder) ←
                if builder.nextIn [.value] then
                  let builder := builder.drop
                  if builder.nextIn [.flowEntry, .flowMappingEnd] then builder.absent
                  else build false false fuel builder
                else builder.absent
              let (entries, builder) ← flowEntries false fuel builder
              some ((key, value) :: entries, builder)
          | _ =>
              let (key, builder) ← build false false fuel builder
              let (value, builder) ← builder.absent
              let (entries, builder) ← flowEntries false fuel builder
              some ((key, value) :: entries, builder)

end

/-- Directives before a document: at most one version, which is 1.1 or 1.2, and at
most one meaning for each tag handle. -/
def directives : Bool → List (String × String) → List Token →
    Option (List (String × String) × List Token)
  | versioned, handles, .version major minor :: rest =>
      if versioned || major ≠ 1 || (minor ≠ 1 && minor ≠ 2) then none
      else directives true handles rest
  | versioned, handles, .tagHandle handle expansion :: rest =>
      if (handles.lookup handle).isSome then none
      else directives versioned ((handle, expansion) :: handles) rest
  | _, handles, tokens => some (handles, tokens)

def standardHandles : List (String × String) := [("!", "!"), ("!!", "tag:yaml.org,2002:")]

def opensDirectives : Token → Bool
  | .version .. | .tagHandle .. | .documentStart => true
  | _ => false

def endsDocument : Token → Bool
  | .version .. | .tagHandle .. | .documentStart | .documentEnd => true
  | _ => false

end Node

def anchorTable (anchored : List (Nat × Nat × Node)) : List (Nat × Node) :=
  let later := anchored.mergeSort fun left right => right.2.1 ≤ left.2.1
  later.map fun (number, _, node) => (number, node)

def Document.ofTokens? (tokens : List Token) : Option Document := do
  let (handles, body) ←
    if tokens.head?.any Node.opensDirectives then
      match Node.directives false [] tokens with
      | some (handles, .documentStart :: body) => some (handles, body)
      | _ => none
    else some ([], tokens)
  if tokens.isEmpty then some ⟨none, [], 1⟩
  else
    let builder : Node.Builder := ⟨body, handles ++ Node.standardHandles, [], [], 0, 0⟩
    let explicit := tokens.head?.any Node.opensDirectives
    let (root, builder) ←
      if explicit && body.head?.all Node.endsDocument then builder.absent
      else Node.build true false (4 * body.length + 8) builder
    let rest := builder.tokens.dropWhile (· = .documentEnd)
    if rest.isEmpty then some ⟨some root, anchorTable builder.anchored, builder.marks⟩ else none

def Document.ofText? (text : String) : Option Document := (Token.ofText? text).bind ofTokens?

end Muster.Yaml
