import Mathlib.Data.List.Induction
import Muster.Proofs.Firewall

/-!
What is kept of a list with repetitions. One more item at its end is kept if it is new, so what is
kept of a part stands in front of what is kept of the whole, and items stand in the order in which they
come up first, wherever they come up again.
-/

namespace Muster

variable {α κ : Type}

/-! ### Places -/

def Precedes [LT κ] (found : List (κ × α)) (earlier later : α) : Prop :=
  ∃ place, (place, earlier) ∈ found ∧ ∀ other, (other, later) ∈ found → place < other

variable [LT κ] {found : List (κ × α)} {earlier later item : α} {place : κ}

theorem Precedes.concat (precedes : Precedes found earlier later) (last : ∀ one ∈ found, one.1 < place) (item : α) :
    Precedes (found ++ [(place, item)]) earlier later := by
  obtain ⟨first, there, before⟩ := precedes
  refine ⟨first, List.mem_append_left _ there, fun other among => ?_⟩
  rcases List.mem_append.mp among with among | among
  · exact before other among
  · cases List.mem_singleton.mp among
    exact last _ there

theorem precedes_last (member : earlier ∈ found.map Prod.snd) (last : ∀ one ∈ found, one.1 < place)
    (fresh : item ∉ found.map Prod.snd) : Precedes (found ++ [(place, item)]) earlier item := by
  obtain ⟨⟨first, _⟩, there, rfl⟩ := List.mem_map.mp member
  refine ⟨first, List.mem_append_left _ there, fun other among => ?_⟩
  rcases List.mem_append.mp among with among | among
  · exact (fresh (List.mem_map_of_mem among)).elim
  · cases List.mem_singleton.mp among
    exact last _ there

section
variable {items : List α} {n : Nat} {item : α}

def numbered (items : List α) : List (Nat × α) := items.zipIdx.map Prod.swap

theorem mem_numbered : (n, item) ∈ numbered items ↔ items[n]? = some item := by
  rw [← List.mk_mem_zipIdx_iff_getElem?]
  simp [numbered]

theorem numbered_ordered (items : List α) : (numbered items).Pairwise fun one next => one.1 < next.1 := by
  have positions : (numbered items).map Prod.fst = List.range' 0 items.length := by
    rw [numbered, List.map_map, ← List.zipIdx_map_snd 0 items]
    rfl
  rw [← List.pairwise_map (f := Prod.fst) (R := fun one next => one < next), positions]
  exact List.pairwise_lt_range' 1

theorem map_snd_numbered (items : List α) : (numbered items).map Prod.snd = items := by
  simp [numbered, Function.comp_def]

end

/-! ### What is kept -/

variable [DecidableEq α] {items others more : List α}

theorem firstOccurrences_concat (items : List α) (item : α) : firstOccurrences (items ++ [item]) =
    if item ∈ items then firstOccurrences items else firstOccurrences items ++ [item] := by
  have known : item ∈ items ↔ item ∈ firstOccurrences items := mem_firstOccurrences.symm
  simp only [known]
  rw [firstOccurrences, List.foldl_append]
  rfl

-- What is kept of a part is all that the rest of the list is compared to.
theorem firstOccurrences_append_of_eq (same : firstOccurrences items = firstOccurrences others) (more : List α) :
    firstOccurrences (items ++ more) = firstOccurrences (others ++ more) := by
  rw [firstOccurrences] at same
  rw [firstOccurrences, firstOccurrences, List.foldl_append, List.foldl_append, same]
  rfl

theorem firstOccurrences_append_of_known (known : ∀ item ∈ more, item ∈ items) :
    firstOccurrences (items ++ more) = firstOccurrences items := by
  induction more using List.reverseRecOn with
  | nil => rw [List.append_nil]
  | append_singleton more item ih =>
      obtain ⟨known, last⟩ := List.forall_mem_append.mp known
      have again : item ∈ items ++ more := List.mem_append_left _ (last item List.mem_cons_self)
      rw [← List.append_assoc, firstOccurrences_concat, if_pos again, ih known]

-- To keep what is kept anyway of a part at the end makes no difference.
theorem firstOccurrences_append_self (items more : List α) :
    firstOccurrences (items ++ firstOccurrences more) = firstOccurrences (items ++ more) := by
  induction more using List.reverseRecOn with
  | nil => rfl
  | append_singleton more item ih =>
      rw [firstOccurrences_concat, ← List.append_assoc, firstOccurrences_concat]
      by_cases known : item ∈ more
      · rw [if_pos known, ih, if_pos (List.mem_append_right _ known)]
      · rw [if_neg known, ← List.append_assoc, firstOccurrences_concat, ih]
        simp only [List.mem_append, mem_firstOccurrences]

theorem firstOccurrences_isPrefix (items more : List α) :
    firstOccurrences items <+: firstOccurrences (items ++ more) := by
  induction more using List.reverseRecOn with
  | nil => simp
  | append_singleton more item ih =>
      rw [← List.append_assoc, firstOccurrences_concat]
      split
      · exact ih
      · exact ih.trans (List.prefix_append _ _)

-- By induction from the front: what is found last is found after all places that there are.
theorem firstOccurrences_pairwise (ordered : found.Pairwise fun one next => one.1 < next.1) :
    (firstOccurrences (found.map Prod.snd)).Pairwise (Precedes found) := by
  induction found using List.reverseRecOn with
  | nil => exact .nil
  | append_singleton found entry ih =>
      obtain ⟨place, item⟩ := entry
      obtain ⟨ordered, _, last⟩ := List.pairwise_append.mp ordered
      have last : ∀ one ∈ found, one.1 < place := fun one member => last one member _ List.mem_cons_self
      have kept := (ih ordered).imp fun precedes => precedes.concat last item
      rw [List.map_append, List.map_singleton, firstOccurrences_concat]
      split
      · exact kept
      · rename_i fresh
        refine List.pairwise_append.mpr ⟨kept, List.pairwise_singleton _ _, ?_⟩
        intro earlier member _ same
        cases List.mem_singleton.mp same
        exact precedes_last (mem_firstOccurrences.mp member) last fresh

theorem firstOccurrences_ordered (items : List α) : (firstOccurrences items).Pairwise fun earlier later =>
    ∃ n : Nat, items[n]? = some earlier ∧ ∀ m : Nat, items[m]? = some later → n < m := by
  have ordered := firstOccurrences_pairwise (numbered_ordered items)
  rw [map_snd_numbered] at ordered
  refine ordered.imp ?_
  rintro earlier later ⟨n, there, before⟩
  exact ⟨n, mem_numbered.mp there, fun m again => before m (mem_numbered.mpr again)⟩

end Muster
