import Muster.Order

/-!
Finite sets kept as strictly ascending lists. Order and repetition of what a
set is made from leave no trace: two sets with the same members are equal.
-/

namespace Muster

open Sortable

def insertSorted {α : Type} [Sortable α] (key : α) : List α → List α
  | [] => [key]
  | head :: rest =>
      match cmp key head with
      | .lt => key :: head :: rest
      | .eq => head :: rest
      | .gt => head :: insertSorted key rest

theorem mem_insertSorted {α : Type} [Sortable α] (key other : α) (keys : List α) :
    other ∈ insertSorted key keys ↔ other = key ∨ other ∈ keys := by
  induction keys with
  | nil => simp [insertSorted]
  | cons head rest ih =>
      simp only [insertSorted]
      split
      · simp
      · rename_i equal
        have same := (cmp_eq key head).mp equal
        subst same
        simp
      · simp [ih, or_left_comm]

theorem insertSorted_ascending {α : Type} [Sortable α] (key : α) (keys : List α)
    (ascending : keys.Pairwise Before) : (insertSorted key keys).Pairwise Before := by
  induction keys with
  | nil => simp [insertSorted]
  | cons head rest ih =>
      have tail := List.pairwise_cons.mp ascending
      simp only [insertSorted]
      split
      · rename_i less
        refine List.pairwise_cons.mpr ⟨?_, ascending⟩
        intro other member
        rcases List.mem_cons.mp member with same | later
        · exact same ▸ less
        · exact before_trans less (tail.1 other later)
      · exact ascending
      · rename_i greater
        refine List.pairwise_cons.mpr ⟨?_, ih tail.2⟩
        intro other member
        rcases (mem_insertSorted key other rest).mp member with same | later
        · exact same ▸ before_of_cmp_gt greater
        · exact tail.1 other later

theorem ascending_nil {α : Type} [Sortable α] : ([] : List α).Pairwise Before := .nil

/-- Ascending lists with the same members are the same list. -/
theorem ascending_ext {α : Type} [Sortable α] {left right : List α}
    (ascendingLeft : left.Pairwise Before) (ascendingRight : right.Pairwise Before)
    (same : ∀ key, key ∈ left ↔ key ∈ right) : left = right := by
  induction left generalizing right with
  | nil =>
      cases right with
      | nil => rfl
      | cons head rest => exact absurd ((same head).mpr (by simp)) (by simp)
  | cons head rest ih =>
      cases right with
      | nil => exact absurd ((same head).mp (by simp)) (by simp)
      | cons other others =>
          have leftTail := List.pairwise_cons.mp ascendingLeft
          have rightTail := List.pairwise_cons.mp ascendingRight
          have heads : head = other := by
            rcases List.mem_cons.mp ((same head).mp (by simp)) with equal | later
            · exact equal
            · rcases List.mem_cons.mp ((same other).mpr (by simp)) with equal | after
              · exact equal.symm
              · exact absurd (before_trans (rightTail.1 head later) (leftTail.1 other after))
                  (before_irrefl other)
          subst heads
          refine congrArg (head :: ·) (ih leftTail.2 rightTail.2 fun key => ?_)
          have both := same key
          simp only [List.mem_cons] at both
          constructor
          · intro member
            rcases both.mp (Or.inr member) with equal | found
            · exact absurd (equal ▸ leftTail.1 key member) (before_irrefl _)
            · exact found
          · intro member
            rcases both.mpr (Or.inr member) with equal | found
            · exact absurd (equal ▸ rightTail.1 key member) (before_irrefl _)
            · exact found

structure SortedSet (α : Type) [Sortable α] where
  toList : List α
  ascending : toList.Pairwise Before

namespace SortedSet

variable {α : Type} [Sortable α]

theorem toList_injective {left right : SortedSet α} (same : left.toList = right.toList) :
    left = right := by
  cases left; cases right; cases same; rfl

instance [DecidableEq α] : DecidableEq (SortedSet α) := fun left right =>
  if same : left.toList = right.toList then isTrue (toList_injective same)
  else isFalse fun equal => same (congrArg toList equal)

def empty : SortedSet α := ⟨[], ascending_nil⟩

instance : Inhabited (SortedSet α) := ⟨empty⟩

def insert (key : α) (set : SortedSet α) : SortedSet α :=
  ⟨insertSorted key set.toList, insertSorted_ascending key _ set.ascending⟩

def ofList (keys : List α) : SortedSet α :=
  keys.foldl (fun set key => set.insert key) empty

instance : Membership α (SortedSet α) := ⟨fun set key => key ∈ set.toList⟩

theorem mem_toList {key : α} {set : SortedSet α} : key ∈ set.toList ↔ key ∈ set := Iff.rfl

theorem ext {left right : SortedSet α} (same : ∀ key, key ∈ left ↔ key ∈ right) : left = right :=
  toList_injective (ascending_ext left.ascending right.ascending same)

@[simp] theorem not_mem_empty (key : α) : ¬ key ∈ (empty : SortedSet α) :=
  List.not_mem_nil

@[simp] theorem mem_insert (key other : α) (set : SortedSet α) :
    other ∈ set.insert key ↔ other = key ∨ other ∈ set :=
  mem_insertSorted key other set.toList

theorem mem_foldl_insert (keys : List α) (set : SortedSet α) (key : α) :
    key ∈ keys.foldl (fun set key => set.insert key) set ↔ key ∈ set ∨ key ∈ keys := by
  induction keys generalizing set with
  | nil => simp
  | cons head rest ih => simp [ih, or_assoc, or_comm, or_left_comm]

@[simp] theorem mem_ofList (keys : List α) (key : α) : key ∈ ofList keys ↔ key ∈ keys := by
  simp [ofList, mem_foldl_insert]

@[simp] theorem ofList_toList (set : SortedSet α) : ofList set.toList = set :=
  ext fun key => by simp [mem_toList]

def size (set : SortedSet α) : Nat := set.toList.length

def isEmpty (set : SortedSet α) : Bool := set.toList.isEmpty

instance : Sortable (SortedSet α) :=
  Sortable.byRank toList fun _ _ same => toList_injective same

section
variable [DecidableEq α]

instance (key : α) (set : SortedSet α) : Decidable (key ∈ set) :=
  inferInstanceAs (Decidable (key ∈ set.toList))

def contains (set : SortedSet α) (key : α) : Bool := set.toList.contains key

@[simp] theorem contains_eq_true (set : SortedSet α) (key : α) :
    set.contains key = true ↔ key ∈ set := by
  simp [contains, mem_toList]

def intersects (set other : SortedSet α) : Bool := set.toList.any other.contains

theorem intersects_eq_true (set other : SortedSet α) :
    set.intersects other = true ↔ ∃ key, key ∈ set ∧ key ∈ other := by
  simp [intersects, mem_toList]

end

end SortedSet

end Muster
