import Muster.Session

/-!
The program: it reads the files that a command line is about, carries the line out,
writes back the manifest, and shows what came of it.
-/

namespace Muster.Terminal

def usage : String :=
  "usage: stratus [-v] <" ++ "|".intercalate (Operation.all.map Operation.subcommand) ++
    "> --config <topology> [--cluster-name <name>] [-v]\n"

def complaint : UsageError → String
  | .helpWanted | .nothingWanted => ""
  | .versionWanted => "stratus\n"
  | .missingSubcommand => "error: a subcommand is required\n"
  | .invalidSubcommand => "error: there is no such subcommand\n"
  | .unknownArgument => "error: unexpected argument\n"
  | .missingArgument => "error: --config is required\n"
  | .invalidValue => "error: an option lacks its value\n"
  | .repeatedOption => "error: an option was given twice\n"
  | .unwantedValue => "error: a flag was given a value\n"

def withFile (tree : FileTree) (path : String) : IO FileTree := do
  try
    let bytes ← IO.FS.readBinFile path
    let names := Path.names path
    let made := (tree.makeDirectories names.dropLast).toOption.getD tree
    return (made.write names (.ofBytes bytes)).toOption.getD made
  catch _ => return tree

/-- The present moment, by the time stamp of a file that was just made. -/
def now : IO Timestamp := do
  let (_, path) ← IO.FS.createTempFile
  let modified := (← path.metadata).modified
  IO.FS.removeFile path
  return (Timestamp.ofSeconds? modified.sec modified.nsec.toNat).getD .epoch

def homeDirectory : IO String := do
  match ← IO.getEnv "STRATUS_HOME" with
  | some home => return home
  | none => return (← IO.getEnv "HOME").getD "." ++ "/.stratus"

def writeBack (home name : String) (before after : FileTree) : IO Unit := do
  let directory := Store.Files.clusterDirectory home name
  let path := Store.Files.manifestPath home name
  let content (tree : FileTree) := (tree.read (Path.names path)).toOption
  if content before = content after then return
  match content after with
  | some (.text text) =>
      let number ← IO.rand 0 (BitVec.allOnes 128).toNat
      let draft := Store.Files.draftPath home name (.ofNat 128 number)
      IO.FS.createDirAll directory
      IO.FS.writeFile draft text
      IO.FS.rename draft path
  | some .binary => return
  | none =>
      IO.FS.removeFile path
      try IO.FS.removeDir directory catch _ => return

def carryOut (line : CommandLine) : IO UInt32 := do
  let directory := (← IO.currentDir).toString
  let home := Path.join directory (← homeDirectory)
  let colours ← (← IO.getStdout).isTty
  let tree ← withFile .empty (Path.join directory line.config)
  let workplace : Workplace := ⟨tree, directory, home, colours, ← now⟩
  let name := (Session.topology workplace line).toOption.map Topology.clusterName
  let tree ← match name with
    | some name => withFile tree (Store.Files.manifestPath home name)
    | none => pure tree
  let ended := Session.run { workplace with tree } line
  match name with
  | some name => writeBack home name tree ended.tree
  | none => pure ()
  IO.print ended.output
  match ended.result with
  | .ok () => return 0
  | .error error =>
      IO.eprint (Console.errorText colours error)
      return error.exitCode.toUInt32

end Muster.Terminal

open Muster in
def main (args : List String) : IO UInt32 := do
  match CommandLine.read args with
  | .ok line => Terminal.carryOut line
  | .error .helpWanted => IO.print Terminal.usage; return 0
  | .error .versionWanted => IO.print (Terminal.complaint .versionWanted); return 0
  | .error error => IO.eprint (Terminal.complaint error ++ Terminal.usage); return 2
