import Muster.CommandLine
import Muster.Console
import Muster.Topology.Draft

/-!
Carrying out a command line: the topology is read from its file, a controller is made
for it on a simulated provider of its own, and what comes of the operation is shown.
-/

namespace Muster

structure Workplace where
  tree : FileTree
  directory : String
  home : String
  colours : Bool
  moment : Timestamp

structure SessionEnd where
  result : Except Error Unit
  output : String
  tree : FileTree

namespace Session

def configKey : String := "--config"

/-- The text of a file. A path that ends with a slash leads to no file. -/
def readText (workplace : Workplace) (path : String) : Except FileFault String :=
  let names := Path.names (Path.join workplace.directory path) ++
    if path.toList.getLast? = some '/' then ["."] else []
  match workplace.tree.read names with
  | .error fault => .error fault
  | .ok (.text text) => .ok text
  | .ok .binary => .error .isDirectory

def topology (workplace : Workplace) (line : CommandLine) : Except ConfigError Topology :=
  match readText workplace line.config with
  | .error _ => .error (.invalid configKey (line.config ++ ": cannot be read"))
  | .ok yaml =>
      match Topology.parse yaml with
      | .error error => .error error
      | .ok topology =>
          match line.clusterName with
          | none => .ok topology
          | some name => topology.withClusterName name

def shown (colours : Bool) (operation : Operation) (cluster : Cluster) : String :=
  match operation with
  | .launch | .list => Console.clusterText colours cluster
  | .destroy => Console.styled colours .green "destroyed" ++ "\n"
  | .configure | .start | .stop => ""

def run (workplace : Workplace) (line : CommandLine) : SessionEnd :=
  let made := do
    let topology ← topology workplace line
    Controller.create topology workplace.home
  match made with
  | .error error => ⟨.error (.config error), "", workplace.tree⟩
  | .ok controller =>
      let (result, ended) := controller.execute line.operation
        ⟨.new, .ofTree workplace.tree, 0, workplace.moment⟩
      let tree := ended.site.storage.disk.tree
      match result with
      | .error error => ⟨.error error, "", tree⟩
      | .ok cluster => ⟨.ok (), shown workplace.colours line.operation cluster, tree⟩

end Session

end Muster
