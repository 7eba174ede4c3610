import Muster.Topology

/-!
What validation promises of the groups of a topology: there are some, no two have the same
roles, and each asks for at least one machine and requires no more than it asks for.
-/

namespace Muster

-- A computation succeeds when its first part does and, with what that gives, the rest.
theorem bind_eq_ok_iff {ε α β : Type} {first : Except ε α} {next : α → Except ε β} {result : β} :
    (first >>= next) = .ok result ↔ ∃ value, first = .ok value ∧ next value = .ok result := by
  cases first <;> simp [bind, Except.bind]

theorem check_eq_ok_iff {ε β : Type} {check : Except ε Unit} {next : Unit → Except ε β} {result : β} :
    (check >>= next) = .ok result ↔ check = .ok () ∧ next () = .ok result := by
  cases check <;> simp [bind, Except.bind]

-- The product fits into 64 bits, and what is narrowed is no more than the count.
theorem toNat_ceilPercent (count : UInt32) {percent : UInt8} (within : percent ≤ 100) :
    (ceilPercent count percent).toNat = (count.toNat * percent.toNat + 99) / 100 := by
  have small := count.toNat_lt
  have within : percent.toNat ≤ 100 := within
  have product : count.toNat * percent.toNat ≤ count.toNat * 100 := Nat.mul_le_mul_left _ within
  simp only [ceilPercent, UInt64.toNat_toUInt32, UInt64.toNat_div, UInt64.toNat_add, UInt64.toNat_mul,
    UInt32.toNat_toUInt64, UInt8.toNat_toUInt64, UInt64.reduceToNat]
  omega

-- A share of a count, rounded up, is no more than the count.
theorem ceilPercent_le (count : UInt32) {percent : UInt8} (within : percent ≤ 100) :
    (ceilPercent count percent).toNat ≤ count.toNat := by
  have product : count.toNat * percent.toNat ≤ count.toNat * 100 := Nat.mul_le_mul_left _ within
  rw [toNat_ceilPercent count within]
  omega

namespace InstanceGroup

structure Feasible (group : InstanceGroup) : Prop where
  some : 1 ≤ group.target.toNat
  enough : group.required.toNat ≤ group.target.toNat

theorem validate_eq_ok_iff {group : InstanceGroup} : group.validate = .ok () ↔
    group.roles.isEmpty = false ∧ 1 ≤ group.target ∧ group.minPercent ≤ 100 ∧ group.minInstances ≤ group.target := by
  unfold validate
  split
  · rename_i bare
    simp [bare]
  · rename_i bare
    split
    · rename_i none
      simp [UInt32.not_le.mpr none]
    · rename_i some
      split
      · rename_i percent
        simp [UInt8.not_le.mpr percent]
      · rename_i percent
        split
        · rename_i minimum
          simp [UInt32.not_le.mpr minimum]
        · rename_i minimum
          simpa using ⟨by simpa using bare, UInt32.not_lt.mp some, UInt8.not_lt.mp percent, UInt32.not_lt.mp minimum⟩

theorem feasible_of_validate {group : InstanceGroup} (valid : group.validate = .ok ()) : group.Feasible := by
  obtain ⟨_, some, percent, minimum⟩ := validate_eq_ok_iff.mp valid
  refine ⟨some, ?_⟩
  unfold required
  dsimp only
  split
  · exact minimum
  · exact ceilPercent_le group.target percent

end InstanceGroup

theorem validateGroups_eq_ok_iff {seen : List RoleSet} {groups : List InstanceGroup} :
    validateGroups seen groups = .ok () ↔ (∀ group ∈ groups, group.validate = .ok ()) ∧
      (groups.map InstanceGroup.roles).Nodup ∧ ∀ group ∈ groups, group.roles ∉ seen := by
  induction groups generalizing seen with
  | nil => simp [validateGroups]
  | cons group rest ih =>
      unfold validateGroups
      split
      · rename_i refused
        simp [refused]
      · rename_i accepted
        split
        · rename_i known
          simp [known]
        · rename_i fresh
          rw [ih]
          constructor
          · rintro ⟨valid, distinct, unseen⟩
            refine ⟨List.forall_mem_cons.mpr ⟨accepted, valid⟩, List.nodup_cons.mpr ⟨fun again => ?_, distinct⟩, ?_⟩
            · obtain ⟨other, member, same⟩ := List.mem_map.mp again
              exact unseen other member (same ▸ List.mem_cons_self)
            · refine List.forall_mem_cons.mpr ⟨fresh, fun other member known => ?_⟩
              exact unseen other member (List.mem_cons_of_mem _ known)
          · rintro ⟨valid, distinct, unseen⟩
            obtain ⟨first, distinct⟩ := List.nodup_cons.mp distinct
            refine ⟨(List.forall_mem_cons.mp valid).2, distinct, fun other member known => ?_⟩
            rcases List.mem_cons.mp known with same | known
            · exact first (same ▸ List.mem_map_of_mem member)
            · exact (List.forall_mem_cons.mp unseen).2 other member known

namespace Topology

structure Feasible (topology : Topology) : Prop where
  some : topology.groups ≠ []
  groups : ∀ group ∈ topology.groups, group.Feasible
  distinct : (topology.groups.map InstanceGroup.roles).Nodup

theorem validate_eq_ok_iff {topology : Topology} : topology.validate = .ok () ↔
    topology.validateName = .ok () ∧ topology.validateUser = .ok () ∧ topology.groups ≠ [] ∧
      validateGroups [] topology.groups = .ok () ∧ topology.validateLimits = .ok () ∧ topology.validateStore = .ok () := by
  by_cases none : topology.groups = []
  · simp [validate, check_eq_ok_iff, none, throw, throwThe, MonadExceptOf.throw]
  · simp [validate, check_eq_ok_iff, none]

theorem feasible_of_validate {topology : Topology} (valid : topology.validate = .ok ()) : topology.Feasible := by
  obtain ⟨_, _, some, accepted, _⟩ := validate_eq_ok_iff.mp valid
  obtain ⟨valid, distinct, _⟩ := validateGroups_eq_ok_iff.mp accepted
  exact ⟨some, fun group member => InstanceGroup.feasible_of_validate (valid group member), distinct⟩

end Topology

end Muster
