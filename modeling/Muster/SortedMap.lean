import Muster.SortedSet

/-!
Finite maps kept as lists of entries with strictly ascending keys. Listing a
map gives its entries in key order, and two maps that answer every look-up
alike are equal.
-/

namespace Muster

open Sortable

def insertEntry {κ ν : Type} [Sortable κ] (key : κ) (value : ν) : List (κ × ν) → List (κ × ν)
  | [] => [(key, value)]
  | head :: rest =>
      match cmp key head.1 with
      | .lt => (key, value) :: head :: rest
      | .eq => (key, value) :: rest
      | .gt => head :: insertEntry key value rest

theorem insertEntry_keys {κ ν : Type} [Sortable κ] (key : κ) (value : ν) (entries : List (κ × ν)) :
    (insertEntry key value entries).map Prod.fst = insertSorted key (entries.map Prod.fst) := by
  induction entries with
  | nil => rfl
  | cons head rest ih =>
      simp only [insertEntry, List.map_cons, insertSorted]
      cases decided : cmp key head.1 with
      | lt => rfl
      | eq => simp [(cmp_eq key head.1).mp decided]
      | gt => simp [ih]

-- A key behind all others goes to the end.
theorem insertEntry_last {κ ν : Type} [Sortable κ] {key : κ} {value : ν} {entries : List (κ × ν)}
    (last : ∀ entry ∈ entries, Before entry.1 key) :
    insertEntry key value entries = entries ++ [(key, value)] := by
  induction entries with
  | nil => rfl
  | cons head rest ih =>
      have greater : cmp key head.1 = .gt := by
        rw [cmp_swap head.1 key, show cmp head.1 key = .lt from last head List.mem_cons_self]
        rfl
      simp only [insertEntry, greater, List.cons_append]
      rw [ih fun entry member => last entry (List.mem_cons_of_mem _ member)]

structure SortedMap (κ ν : Type) [Sortable κ] where
  toList : List (κ × ν)
  ascending : (toList.map Prod.fst).Pairwise Before

namespace SortedMap

variable {κ ν : Type} [Sortable κ]

theorem toList_injective {left right : SortedMap κ ν} (same : left.toList = right.toList) :
    left = right := by
  cases left; cases right; cases same; rfl

instance [DecidableEq κ] [DecidableEq ν] : DecidableEq (SortedMap κ ν) := fun left right =>
  if same : left.toList = right.toList then isTrue (toList_injective same)
  else isFalse fun equal => same (congrArg toList equal)

def empty : SortedMap κ ν := ⟨[], ascending_nil⟩

instance : Inhabited (SortedMap κ ν) := ⟨empty⟩

def insert (map : SortedMap κ ν) (key : κ) (value : ν) : SortedMap κ ν :=
  ⟨insertEntry key value map.toList, by
    rw [insertEntry_keys]; exact insertSorted_ascending key _ map.ascending⟩

/-- Later entries of the list win over earlier ones with the same key. -/
def ofList (entries : List (κ × ν)) : SortedMap κ ν :=
  entries.foldl (fun map entry => map.insert entry.1 entry.2) empty

theorem ofList_toList (map : SortedMap κ ν) : ofList map.toList = map := by
  have added (entries : List (κ × ν)) (begun : SortedMap κ ν)
      (ascending : ((begun.toList ++ entries).map Prod.fst).Pairwise Before) :
      (entries.foldl (fun map entry => map.insert entry.1 entry.2) begun).toList = begun.toList ++ entries := by
    induction entries generalizing begun with
    | nil => simp
    | cons entry rest ih =>
        have inserted : (begun.insert entry.1 entry.2).toList = begun.toList ++ [entry] := by
          apply insertEntry_last
          intro other member
          rw [List.map_append, List.pairwise_append] at ascending
          exact ascending.2.2 _ (List.mem_map_of_mem member) _ (by simp)
        rw [List.foldl_cons, ih, inserted, List.append_assoc]
        · rfl
        · rw [inserted, List.append_assoc]
          exact ascending
  exact toList_injective (added map.toList empty map.ascending)

def keys (map : SortedMap κ ν) : List κ := map.toList.map Prod.fst

def size (map : SortedMap κ ν) : Nat := map.toList.length

def isEmpty (map : SortedMap κ ν) : Bool := map.toList.isEmpty

section
variable [DecidableEq κ]

def get? (map : SortedMap κ ν) (key : κ) : Option ν :=
  (map.toList.find? fun entry => entry.1 = key).map Prod.snd

def getD (map : SortedMap κ ν) (key : κ) (fallback : ν) : ν := (map.get? key).getD fallback

def contains (map : SortedMap κ ν) (key : κ) : Bool := (map.get? key).isSome

def erase (map : SortedMap κ ν) (key : κ) : SortedMap κ ν :=
  ⟨map.toList.filter fun entry => entry.1 ≠ key,
    List.Pairwise.sublist (List.Sublist.map _ List.filter_sublist) map.ascending⟩

def modify (map : SortedMap κ ν) (key : κ) (fallback : ν) (change : ν → ν) : SortedMap κ ν :=
  map.insert key (change (map.getD key fallback))

@[simp] theorem get?_empty (key : κ) : (empty : SortedMap κ ν).get? key = none := rfl

theorem mem_keys {map : SortedMap κ ν} {key : κ} : key ∈ map.keys ↔ map.get? key ≠ none := by
  simp [keys, get?]

theorem find_insertEntry (entries : List (κ × ν)) (key other : κ) (value : ν) :
    ((insertEntry key value entries).find? fun entry => entry.1 = other).map Prod.snd =
      if other = key then some value
      else (entries.find? fun entry => entry.1 = other).map Prod.snd := by
  induction entries with
  | nil =>
      by_cases same : key = other
      · subst same; simp [insertEntry]
      · simp [insertEntry, same, Ne.symm same]
  | cons head rest ih =>
      simp only [insertEntry]
      cases decided : cmp key head.1 with
      | lt =>
          by_cases same : key = other
          · subst same; simp
          · simp [List.find?_cons, same, Ne.symm same]
      | eq =>
          have heads := (cmp_eq key head.1).mp decided
          by_cases same : key = other
          · subst same; simp
          · simp [same, Ne.symm same, ← heads]
      | gt =>
          have different : head.1 ≠ key := fun equal => by
            simp [equal, cmp_self] at decided
          by_cases hit : head.1 = other
          · subst hit; simp [different]
          · simp [hit, ih]

@[simp] theorem get?_insert (map : SortedMap κ ν) (key other : κ) (value : ν) :
    (map.insert key value).get? other = if other = key then some value else map.get? other :=
  find_insertEntry map.toList key other value

@[simp] theorem get?_erase (map : SortedMap κ ν) (key other : κ) :
    (map.erase key).get? other = if other = key then none else map.get? other := by
  simp only [get?, erase, List.find?_filter]
  by_cases same : other = key
  · subst same
    simp only [↓reduceIte, Option.map_eq_none_iff, List.find?_eq_none]
    intro entry _
    simp
  · simp only [same, ↓reduceIte]
    congr 2
    funext entry
    by_cases hit : entry.1 = other
    · simp [hit, same]
    · simp [hit]

end

end SortedMap

end Muster
