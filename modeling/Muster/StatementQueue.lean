import Muster.Firewall
import Muster.Script

/-!
The statements that handlers contribute to a phase, by role, and the variables
they export on single machines. A machine runs the statements of its roles, in
role order, each statement once.
-/

namespace Muster

abbrev Exports := List (String × String)

namespace Exports

/-- Sets a variable; one that is set already keeps its place. -/
def put (exports : Exports) (key value : String) : Exports :=
  match exports with
  | [] => [(key, value)]
  | entry :: rest => if entry.1 = key then (key, value) :: rest else entry :: put rest key value

def putAll (exports entries : Exports) : Exports :=
  entries.foldl (fun exports entry => exports.put entry.1 entry.2) exports

end Exports

structure StatementQueue where
  byRole : SortedMap String (List Statement)
  exports : SortedMap String Exports

namespace StatementQueue

def empty : StatementQueue := ⟨.empty, .empty⟩

def add (queue : StatementQueue) (role : String) (statement : Statement) : StatementQueue :=
  { queue with byRole := queue.byRole.modify role [] (· ++ [statement]) }

def setExport (queue : StatementQueue) (id key value : String) : StatementQueue :=
  { queue with exports := queue.exports.modify id [] fun exports => exports.put key value }

def isEmpty (queue : StatementQueue) : Bool :=
  queue.byRole.toList.all fun entry => entry.2.isEmpty

def forRole (queue : StatementQueue) (role : String) : List Statement := queue.byRole.getD role []

def forRoles (queue : StatementQueue) (roles : RoleSet) : List Statement :=
  firstOccurrences (roles.toList.flatMap queue.forRole)

def exportsFor (queue : StatementQueue) (id : String) : Option Exports := queue.exports.get? id

end StatementQueue

end Muster
