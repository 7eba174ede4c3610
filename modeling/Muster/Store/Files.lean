import Muster.FileTree
import Muster.InOrder
import Muster.Manifest

/-!
Manifests in files, one directory for each cluster below a home directory. A
manifest is prepared in a file of its own, and takes the place of the one before it
in a single step, so that a reader never finds half of one.
-/

namespace Muster.Store.Files

def manifestFile : String := "manifest.json"

abbrev DraftNumber := BitVec 128

def hexDigits (width number : Nat) : List Char :=
  ((List.range width).map fun place => Nat.digitChar ((number >>> (4 * place)) % 16)).reverse

def draftTag (number : DraftNumber) : List Char :=
  let digits (width rest : Nat) := hexDigits width (number.toNat >>> (4 * rest))
  digits 8 24 ++ '-' :: digits 4 20 ++ '-' :: digits 4 16 ++ '-' :: digits 4 12 ++ '-' :: digits 12 0

/-- The file in which a manifest is prepared. A number is drawn for it at every save. -/
@[irreducible]
def draftFile (number : DraftNumber) : String :=
  "." ++ manifestFile ++ "." ++ String.ofList (draftTag number) ++ ".tmp"

def clusterDirectory (home name : String) : String := Path.join home name

def manifestPath (home name : String) : String := Path.join (clusterDirectory home name) manifestFile

def draftPath (home name : String) (number : DraftNumber) : String :=
  Path.join (clusterDirectory home name) (draftFile number)

def saveSteps (home name : String) (number : DraftNumber) (pieces : List String) : List FileStep :=
  let draft := Path.names (draftPath home name number)
  [.makeDirectories (Path.names (clusterDirectory home name)), .create draft] ++
    pieces.map (.append draft) ++
    [.sync draft, .rename draft (Path.names (manifestPath home name))]

def discardDraft (home name : String) (number : DraftNumber) (disk : Disk) : Disk :=
  (disk.take (.removeFile (Path.names (draftPath home name number)))).2

def save (home name : String) (number : DraftNumber) (text : String) (disk : Disk) :
    Except StoreError Unit × Disk :=
  match inOrder Disk.take (saveSteps home name number [text]) disk with
  | (.ok (), saved) => (.ok (), saved)
  | (.error _, tried) => (.error (.writeFailed name ""), discardDraft home name number tried)

def load (home name : String) (disk : Disk) : Except StoreError Manifest × Disk :=
  match disk.read (Path.names (manifestPath home name)) with
  | (.ok (.text text), disk) => (Manifest.decode name text, disk)
  | (.ok .binary, disk) => (.error (.corrupt name ""), disk)
  | (.error .missing, disk) => (.error (.notFound name), disk)
  | (.error _, disk) => (.error (.corrupt name ""), disk)

def discardDirectory (home name : String) (disk : Disk) : Disk :=
  (disk.take (.removeDirectory (Path.names (clusterDirectory home name)))).2

def delete (home name : String) (disk : Disk) : Except StoreError Unit × Disk :=
  match disk.take (.removeFile (Path.names (manifestPath home name))) with
  | (.ok (), disk) | (.error .missing, disk) => (.ok (), discardDirectory home name disk)
  | (.error _, disk) => (.error (.writeFailed name ""), disk)

end Muster.Store.Files
