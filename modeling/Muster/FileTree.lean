import Muster.SortedMap

/-!
Directories and files, and the paths that lead to them. A path is a text of names
between slashes. It is followed name by name from the root: every name but the last
must lead to a directory, `.` stays in it and `..` goes back to the one above.

A tree lists its entries by the names on the way to them. The root is a directory
that is always there.
-/

namespace Muster

inductive Content where
  | text (value : String)
  | binary
  deriving DecidableEq

def Content.ofBytes (bytes : ByteArray) : Content :=
  match String.fromUTF8? bytes with
  | some value => .text value
  | none => .binary

inductive FileFault where
  | missing
  | notDirectory
  | isDirectory
  | occupied
  | notEmpty
  | badName
  | outage
  deriving DecidableEq, Repr

inductive FileEntry where
  | directory
  | file (content : Content)
  deriving DecidableEq

namespace Path

/-- The path that `name` leads to from `base`. A name that begins with a slash leads
there from anywhere. -/
def join (base name : String) : String :=
  if name.toList.head? = some '/' then name
  else if base = "" || base.toList.getLast? = some '/' then base ++ name
  else base ++ "/" ++ name

def names (path : String) : List String :=
  ((path.toList.splitOn '/').filter fun name => !name.isEmpty).map String.ofList

/-- The names on the way to the directory above; none above the root. -/
def parent? (names : List String) : Option (List String) :=
  match names.filter (· ≠ ".") with
  | [] => none
  | proper => some proper.dropLast

def maxNameSize : Nat := 255

end Path

structure FileTree where
  entries : SortedMap (List String) FileEntry

namespace FileTree

def empty : FileTree := ⟨.empty⟩

def entry? (tree : FileTree) (place : List String) : Option FileEntry :=
  if place = [] then some .directory else tree.entries.get? place

def isDirectory (tree : FileTree) (place : List String) : Bool :=
  tree.entry? place = some .directory

def put (tree : FileTree) (place : List String) (entry : FileEntry) : FileTree :=
  ⟨tree.entries.insert place entry⟩

def erase (tree : FileTree) (place : List String) : FileTree := ⟨tree.entries.erase place⟩

def hasEntriesBelow (tree : FileTree) (place : List String) : Bool :=
  tree.entries.keys.any fun other => place.isPrefixOf other && other ≠ place

/-! ### Following paths -/

def enter (tree : FileTree) (place : List String) (name : String) : Except FileFault (List String) :=
  match tree.entry? place with
  | none => .error .missing
  | some (.file _) => .error .notDirectory
  | some .directory =>
      if name = "." then .ok place
      else if name = ".." then .ok place.dropLast
      else if Path.maxNameSize < name.utf8ByteSize then .error .badName
      else .ok (place ++ [name])

def follow (tree : FileTree) (place : List String) : List String → Except FileFault (List String)
  | [] => .ok place
  | name :: rest =>
      match tree.enter place name with
      | .error fault => .error fault
      | .ok next => tree.follow next rest

def locate (tree : FileTree) (names : List String) : Except FileFault (List String) :=
  if names.any fun name => '\x00' ∈ name.toList then .error .badName else tree.follow [] names

def leadsToDirectory (tree : FileTree) (names : List String) : Bool :=
  match tree.locate names with
  | .ok place => tree.isDirectory place
  | .error _ => false

/-! ### Files -/

def read (tree : FileTree) (names : List String) : Except FileFault Content :=
  match tree.locate names with
  | .error fault => .error fault
  | .ok place =>
      match tree.entry? place with
      | none => .error .missing
      | some .directory => .error .isDirectory
      | some (.file content) => .ok content

def write (tree : FileTree) (names : List String) (content : Content) :
    Except FileFault FileTree :=
  match tree.locate names with
  | .error fault => .error fault
  | .ok place =>
      if tree.isDirectory place then .error .isDirectory else .ok (tree.put place (.file content))

def append (tree : FileTree) (names : List String) (added : String) : Except FileFault FileTree :=
  match tree.read names with
  | .error fault => .error fault
  | .ok (.text value) => tree.write names (.text (value ++ added))
  | .ok .binary => .ok tree

def removeFile (tree : FileTree) (names : List String) : Except FileFault FileTree :=
  match tree.locate names with
  | .error fault => .error fault
  | .ok place =>
      match tree.entry? place with
      | none => .error .missing
      | some .directory => .error .isDirectory
      | some (.file _) => .ok (tree.erase place)

def rename (tree : FileTree) (source target : List String) : Except FileFault FileTree :=
  match tree.read source, tree.locate source, tree.locate target with
  | .error fault, _, _ | _, .error fault, _ | _, _, .error fault => .error fault
  | .ok content, .ok origin, .ok place =>
      if tree.isDirectory place then .error .isDirectory
      else .ok ((tree.erase origin).put place (.file content))

/-! ### Directories -/

def makeDirectory (tree : FileTree) (names : List String) : Except FileFault FileTree :=
  match tree.locate names with
  | .error fault => .error fault
  | .ok place =>
      match tree.entry? place with
      | some _ => .error .occupied
      | none => .ok (tree.put place .directory)

/-- Makes a directory with those above it, as far as they are missing, looking at
`depth` of them at most. Here `make` makes one directory, and `isThere` tells whether
a path leads to one. What was made before a fault stays. -/
def makeDirectoriesBy {σ : Type} (make : List String → σ → Except FileFault Unit × σ)
    (isThere : List String → σ → Bool) : Nat → List String → σ → Except FileFault Unit × σ
  | 0, _, state => (.error .missing, state)
  | depth + 1, names, state =>
      match make names state with
      | (.ok (), made) => (.ok (), made)
      | (.error .missing, missed) =>
          match Path.parent? names with
          | none => (.error .missing, missed)
          | some above =>
              match makeDirectoriesBy make isThere depth above missed with
              | (.error fault, left) => (.error fault, left)
              | (.ok (), ready) =>
                  match make names ready with
                  | (.ok (), made) => (.ok (), made)
                  | (.error fault, left) =>
                      if isThere names left then (.ok (), left) else (.error fault, left)
      | (.error fault, left) => if isThere names left then (.ok (), left) else (.error fault, left)

/-- What every request for a directory keeps is kept, however many of them are made. -/
theorem makeDirectoriesBy_keeps {σ : Type} {make : List String → σ → Except FileFault Unit × σ}
    {isThere : List String → σ → Bool} (asked : List String → Prop) (kept : σ → Prop)
    (closed : ∀ names above, asked names → Path.parent? names = some above → asked above)
    (keeps : ∀ names, asked names → ∀ state, kept state → kept (make names state).2) (depth : Nat)
    {names : List String} {state : σ} (begins : asked names) (start : kept state) :
    kept (makeDirectoriesBy make isThere depth names state).2 := by
  induction depth generalizing names state with
  | zero => exact start
  | succ depth ih =>
      have once := keeps names begins state start
      simp only [makeDirectoriesBy]
      split
      · rename_i answer
        exact answer ▸ once
      · rename_i missed answer
        rw [answer] at once
        split
        · exact once
        · rename_i above found
          have climbed := ih (closed names above begins found) once
          split
          · rename_i answer
            exact answer ▸ climbed
          · rename_i ready answer
            rw [answer] at climbed
            have again := keeps names begins ready climbed
            split
            · rename_i answer
              exact answer ▸ again
            · rename_i answer
              rw [answer] at again
              split <;> exact again
      · rename_i answer
        rw [answer] at once
        split <;> exact once

def makeDirectories (tree : FileTree) (names : List String) : Except FileFault FileTree :=
  let make (names : List String) (tree : FileTree) : Except FileFault Unit × FileTree :=
    match tree.makeDirectory names with
    | .ok made => (.ok (), made)
    | .error fault => (.error fault, tree)
  match makeDirectoriesBy make (fun names tree => tree.leadsToDirectory names) (names.length + 1) names tree with
  | (.ok (), made) => .ok made
  | (.error fault, _) => .error fault

def removeDirectory (tree : FileTree) (names : List String) : Except FileFault FileTree :=
  match tree.locate names with
  | .error fault => .error fault
  | .ok place =>
      if names.getLast? = some "." then .error .badName
      else
        match tree.entry? place with
        | none => .error .missing
        | some (.file _) => .error .notDirectory
        | some .directory =>
            if place = [] || names.getLast? = some ".." || tree.hasEntriesBelow place then
              .error .notEmpty
            else .ok (tree.erase place)

def removeAll (tree : FileTree) (names : List String) : FileTree :=
  match tree.locate names with
  | .error _ => tree
  | .ok place =>
      (tree.entries.keys.filter fun other => place.isPrefixOf other).foldl erase tree

def listing (tree : FileTree) (place : List String) : List String :=
  let below := tree.entries.toList.filter fun (other, _) => place.isPrefixOf other && other ≠ place
  (SortedSet.ofList (below.map fun (other, entry) =>
    "/".intercalate (other.drop place.length) ++ if entry = .directory then "/" else "")).toList

end FileTree

/-! ### Steps -/

inductive FileStep where
  | makeDirectories (names : List String)
  | create (names : List String)
  | append (names : List String) (text : String)
  | sync (names : List String)
  | rename (source target : List String)
  | removeFile (names : List String)
  | removeDirectory (names : List String)
  deriving DecidableEq, Repr

def FileStep.perform (step : FileStep) (tree : FileTree) : Except FileFault FileTree :=
  match step with
  | makeDirectories names => tree.makeDirectories names
  | create names => tree.write names (.text "")
  | append names text => tree.append names text
  | sync _ => .ok tree
  | rename source target => tree.rename source target
  | removeFile names => tree.removeFile names
  | removeDirectory names => tree.removeDirectory names

/-- A tree on a disk whose requests may fail for reasons of their own. -/
structure Disk where
  tree : FileTree
  requests : Nat
  outage : Nat → Bool

namespace Disk

def ofTree (tree : FileTree) : Disk := ⟨tree, 0, fun _ => false⟩

def fails (disk : Disk) : Bool := disk.outage disk.requests

def count (disk : Disk) : Disk := { disk with requests := disk.requests + 1 }

def ask (change : FileTree → Except FileFault FileTree) (disk : Disk) : Except FileFault Unit × Disk :=
  if disk.fails then (.error .outage, disk.count)
  else
    match change disk.tree with
    | .error fault => (.error fault, disk.count)
    | .ok tree => (.ok (), { disk.count with tree })

/-- Takes a step. Directories are asked for one at a time, so that some of them may have
been made when the step fails. -/
def take (step : FileStep) (disk : Disk) : Except FileFault Unit × Disk :=
  match step with
  | .makeDirectories names =>
      FileTree.makeDirectoriesBy (fun names disk => disk.ask fun tree => tree.makeDirectory names)
        (fun names disk => disk.tree.leadsToDirectory names) (names.length + 1) names disk
  | step => disk.ask step.perform

def read (names : List String) (disk : Disk) : Except FileFault Content × Disk :=
  if disk.fails then (.error .outage, disk.count) else (disk.tree.read names, disk.count)

end Disk

end Muster
