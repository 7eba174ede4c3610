/-!
Total orders on the keys of sets and maps. An order is one comparison
function with its laws, so that a sorted list of keys has one spelling.
Text is ordered by code point, and lists are ordered word by word: the first
difference decides and a proper initial part comes first.
-/

namespace Muster

/-- A comparison that tells equal keys from different ones and ranks the
different ones in a line. -/
class Sortable (α : Type) where
  cmp : α → α → Ordering
  cmp_eq : ∀ a b, cmp a b = .eq ↔ a = b
  cmp_swap : ∀ a b, cmp b a = (cmp a b).swap
  cmp_lt_trans : ∀ a b c, cmp a b = .lt → cmp b c = .lt → cmp a c = .lt

namespace Sortable

variable {α : Type} [Sortable α]

def Before (a b : α) : Prop := cmp a b = .lt

instance (a b : α) : Decidable (Before a b) :=
  inferInstanceAs (Decidable (cmp a b = .lt))

theorem cmp_self (a : α) : cmp a a = .eq := (cmp_eq a a).mpr rfl

theorem before_irrefl (a : α) : ¬ Before a a := by
  simp [Before, cmp_self]

theorem before_trans {a b c : α} (first : Before a b) (second : Before b c) : Before a c :=
  cmp_lt_trans a b c first second

theorem before_of_cmp_gt {a b : α} (greater : cmp a b = .gt) : Before b a := by
  simp [Before, cmp_swap a b, greater]

@[reducible] def byRank {β : Type} (rank : β → α) (injective : ∀ a b, rank a = rank b → a = b) :
    Sortable β where
  cmp a b := cmp (rank a) (rank b)
  cmp_eq a b := ⟨fun equal => injective a b ((cmp_eq _ _).mp equal), fun same => by
    subst same; exact cmp_self _⟩
  cmp_swap a b := cmp_swap _ _
  cmp_lt_trans a b c := cmp_lt_trans _ _ _

end Sortable

def compareNumbers (a b : Nat) : Ordering :=
  if a < b then .lt else if a = b then .eq else .gt

theorem compareNumbers_eq (a b : Nat) : compareNumbers a b = .eq ↔ a = b := by
  unfold compareNumbers
  split
  · simp; omega
  · split <;> simp_all

theorem compareNumbers_swap (a b : Nat) : compareNumbers b a = (compareNumbers a b).swap := by
  unfold compareNumbers
  split <;> split <;> (try split) <;> (try split) <;> first | rfl | omega

theorem compareNumbers_lt (a b : Nat) : compareNumbers a b = .lt ↔ a < b := by
  unfold compareNumbers
  split
  · simp_all
  · split <;> simp_all

instance : Sortable Nat where
  cmp := compareNumbers
  cmp_eq := compareNumbers_eq
  cmp_swap := compareNumbers_swap
  cmp_lt_trans a b c := by
    simp only [compareNumbers_lt]
    omega

instance : Sortable Char :=
  Sortable.byRank Char.toNat fun _ _ same => Char.toNat_inj.mp same

instance : Sortable UInt16 :=
  Sortable.byRank UInt16.toNat fun _ _ same => UInt16.toNat_inj.mp same

def compareLists {α : Type} [Sortable α] : List α → List α → Ordering
  | [], [] => .eq
  | [], _ :: _ => .lt
  | _ :: _, [] => .gt
  | a :: as, b :: bs =>
      match Sortable.cmp a b with
      | .eq => compareLists as bs
      | decided => decided

section
variable {α : Type} [Sortable α]

theorem compareLists_eq (as bs : List α) : compareLists as bs = .eq ↔ as = bs := by
  induction as generalizing bs with
  | nil => cases bs <;> simp [compareLists]
  | cons a as ih =>
      cases bs with
      | nil => simp [compareLists]
      | cons b bs =>
          have equal := Sortable.cmp_eq a b
          cases decided : Sortable.cmp a b <;> simp_all [compareLists]

theorem compareLists_swap (as bs : List α) :
    compareLists bs as = (compareLists as bs).swap := by
  induction as generalizing bs with
  | nil => cases bs <;> rfl
  | cons a as ih =>
      cases bs with
      | nil => rfl
      | cons b bs =>
          simp only [compareLists, Sortable.cmp_swap a b]
          cases Sortable.cmp a b <;> simp [ih]

theorem compareLists_lt_trans (as bs cs : List α) (first : compareLists as bs = .lt)
    (second : compareLists bs cs = .lt) : compareLists as cs = .lt := by
  induction as generalizing bs cs with
  | nil =>
      cases cs with
      | nil => cases bs <;> simp [compareLists] at first second
      | cons _ _ => rfl
  | cons a as ih =>
      cases bs with
      | nil => simp [compareLists] at first
      | cons b bs =>
          cases cs with
          | nil => simp [compareLists] at second
          | cons c cs =>
              simp only [compareLists] at first second ⊢
              cases left : Sortable.cmp a b with
              | lt =>
                  cases right : Sortable.cmp b c with
                  | lt => simp [Sortable.cmp_lt_trans a b c left right]
                  | eq =>
                      have same := (Sortable.cmp_eq b c).mp right
                      subst same
                      simp [left]
                  | gt => simp [right] at second
              | eq =>
                  have same := (Sortable.cmp_eq a b).mp left
                  subst same
                  simp only [left] at first
                  cases right : Sortable.cmp a c with
                  | lt => rfl
                  | eq => simp only [right] at second ⊢; exact ih bs cs first second
                  | gt => simp [right] at second
              | gt => simp [left] at first

end

instance {α : Type} [Sortable α] : Sortable (List α) where
  cmp := compareLists
  cmp_eq := compareLists_eq
  cmp_swap := compareLists_swap
  cmp_lt_trans := compareLists_lt_trans

/-- Text by code point. -/
instance : Sortable String :=
  Sortable.byRank String.toList fun _ _ same => String.toList_inj.mp same

end Muster
