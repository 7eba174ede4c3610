import Muster.SortedSet

/-!
Sets of role names. The text of a set is its names in ascending order with a
plus sign between neighbours.
-/

namespace Muster

abbrev RoleSet := SortedSet String

namespace RoleSet

def text (roles : RoleSet) : String := "+".intercalate roles.toList

def ofPieces (text : String) : RoleSet :=
  .ofList ((text.toList.splitOn '+').map String.ofList)

end RoleSet

def rolesOf (sets : List RoleSet) : RoleSet := .ofList (sets.flatMap SortedSet.toList)

theorem mem_rolesOf (sets : List RoleSet) (role : String) :
    role ∈ rolesOf sets ↔ ∃ set ∈ sets, role ∈ set := by
  simp [rolesOf, SortedSet.mem_toList]

end Muster
