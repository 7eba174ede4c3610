import Mathlib.Order.Bounds.Basic
import Muster.Proofs.Topology.Groups

/-!
The number of healthy machines at which a group counts as launched. A percentage of a count is
rounded up to the least number that reaches it, by arithmetic of fixed width that is exact for all
counts there are and all percentages up to a hundred. So what a group that was accepted requires is
the least number that meets both of its demands, and it has that many machines.
-/

namespace Muster

variable {count more : UInt32} {percent higher : UInt8}

/-! ### The share of a count -/

-- A count has 32 bits and a percentage 7, which leaves room in 64 for their product and the round-up.
theorem product_exact (count : UInt32) (percent : UInt8) :
    (count.toUInt64 * percent.toUInt64).toNat = count.toNat * percent.toNat ∧
      (count.toUInt64 * percent.toUInt64 + 99).toNat = count.toNat * percent.toNat + 99 := by
  have small : count.toNat < 2 ^ 32 := count.toNat_lt
  have byte : percent.toNat ≤ 255 := Nat.le_of_lt_succ percent.toNat_lt
  have product : count.toNat * percent.toNat ≤ count.toNat * 255 := Nat.mul_le_mul_left _ byte
  have whole : (count.toUInt64 * percent.toUInt64).toNat = count.toNat * percent.toNat := by
    rw [UInt64.toNat_mul, UInt32.toNat_toUInt64, UInt8.toNat_toUInt64]
    omega
  refine ⟨whole, ?_⟩
  rw [UInt64.toNat_add, whole]
  simp only [UInt64.reduceToNat]
  omega

/-- What is narrowed to 32 bits had no more of them. -/
theorem ceilPercent_widened (count : UInt32) (within : percent ≤ 100) :
    (ceilPercent count percent).toUInt64 = (count.toUInt64 * percent.toUInt64 + 99) / 100 := by
  rw [← UInt64.toNat_inj, UInt32.toNat_toUInt64, toNat_ceilPercent count within, UInt64.toNat_div,
    (product_exact count percent).2]
  rfl

/-- The least number that reaches a percentage of a count. -/
theorem ceilPercent_isLeast (count : UInt32) (within : percent ≤ 100) :
    IsLeast {n : ℕ | count.toNat * percent.toNat ≤ 100 * n} (ceilPercent count percent).toNat := by
  rw [toNat_ceilPercent count within]
  constructor
  · change count.toNat * percent.toNat ≤ 100 * ((count.toNat * percent.toNat + 99) / 100)
    omega
  · intro n reached
    have reached : count.toNat * percent.toNat ≤ 100 * n := reached
    omega

theorem ceilPercent_eq_zero_iff (count : UInt32) (within : percent ≤ 100) :
    ceilPercent count percent = 0 ↔ count.toNat * percent.toNat = 0 := by
  rw [← UInt32.toNat_inj, toNat_ceilPercent count within, UInt32.toNat_zero]
  omega

-- A number that reaches the greater share reaches the lesser.
theorem ceilPercent_mono (counts : count ≤ more) (percents : percent ≤ higher) (within : higher ≤ 100) :
    ceilPercent count percent ≤ ceilPercent more higher := by
  have product : count.toNat * percent.toNat ≤ more.toNat * higher.toNat :=
    Nat.mul_le_mul (UInt32.le_iff_toNat_le.mp counts) (UInt8.le_iff_toNat_le.mp percents)
  have reached : more.toNat * higher.toNat ≤ 100 * (ceilPercent more higher).toNat :=
    (ceilPercent_isLeast more within).1
  have least := (ceilPercent_isLeast count (UInt8.le_trans percents within)).2
  exact UInt32.le_iff_toNat_le.mpr (least (product.trans reached))

/-! ### What a group requires -/

namespace InstanceGroup

theorem toNat_required (group : InstanceGroup) :
    group.required.toNat = max group.minInstances.toNat (ceilPercent group.target group.minPercent).toNat := by
  unfold required
  dsimp only
  split
  · rename_i enough
    exact (max_eq_left (UInt32.le_iff_toNat_le.mp enough)).symm
  · rename_i short
    exact (max_eq_right (UInt32.le_iff_toNat_le.mp (UInt32.le_of_lt (UInt32.not_le.mp short)))).symm

-- Of the least numbers that meet one of two demands, the greater is the least that meets both.
theorem required_isLeast {group : InstanceGroup} (within : group.minPercent ≤ 100) :
    IsLeast {n : ℕ | group.minInstances.toNat ≤ n ∧ group.target.toNat * group.minPercent.toNat ≤ 100 * n}
      group.required.toNat := by
  obtain ⟨reached, least⟩ := ceilPercent_isLeast group.target within
  rw [toNat_required]
  constructor
  · refine ⟨le_max_left _ _, le_trans reached ?_⟩
    exact Nat.mul_le_mul_left _ (le_max_right _ _)
  · rintro n ⟨minimum, share⟩
    exact max_le minimum (least share)

/-- For all counts and all percentages up to a hundred, the share of a count is computed in 64 bits
without overflow and narrowed without loss, and it is the least number that reaches the percentage. It
is no more than the count, nothing exactly if there is nothing to have a share of, and grows with the
count and with the percentage. What a group that passes validation requires is the least number
that is no less than its minimum and reaches its percentage, and the group has as many machines. -/
theorem thresholds_are_least :
    (∀ (count : UInt32) (percent : UInt8), percent ≤ 100 →
      (count.toUInt64 * percent.toUInt64).toNat = count.toNat * percent.toNat ∧
      (count.toUInt64 * percent.toUInt64 + 99).toNat = count.toNat * percent.toNat + 99 ∧
      (ceilPercent count percent).toUInt64 = (count.toUInt64 * percent.toUInt64 + 99) / 100 ∧
      IsLeast {n : ℕ | count.toNat * percent.toNat ≤ 100 * n} (ceilPercent count percent).toNat ∧
      ceilPercent count percent ≤ count ∧
      (ceilPercent count percent = 0 ↔ count.toNat * percent.toNat = 0) ∧
      ∀ more higher, count ≤ more → percent ≤ higher → higher ≤ 100 →
        ceilPercent count percent ≤ ceilPercent more higher) ∧
    ∀ group : InstanceGroup, group.validate = .ok () →
      IsLeast {n : ℕ | group.minInstances.toNat ≤ n ∧ group.target.toNat * group.minPercent.toNat ≤ 100 * n}
        group.required.toNat ∧
      group.required ≤ group.target := by
  constructor
  · intro count percent within
    obtain ⟨product, sum⟩ := product_exact count percent
    refine ⟨product, sum, ceilPercent_widened count within, ceilPercent_isLeast count within, ?_,
      ceilPercent_eq_zero_iff count within, ?_⟩
    · exact UInt32.le_iff_toNat_le.mpr (ceilPercent_le count within)
    · intro more higher counts percents within
      exact ceilPercent_mono counts percents within
  · intro group valid
    obtain ⟨_, _, within, _⟩ := validate_eq_ok_iff.mp valid
    exact ⟨required_isLeast within, UInt32.le_iff_toNat_le.mpr (feasible_of_validate valid).enough⟩

-- The share of the largest count, of which the product needs 39 bits, and a group whose share is more than its minimum.
theorem thresholds_are_least_of_largest :
    let workers : InstanceGroup := ⟨.ofList ["worker"], 10, 65, 6⟩
    ((99 : UInt8) ≤ 100 ∧ workers.validate = .ok ()) ∧
    IsLeast {n : ℕ | 4294967295 * 99 ≤ 100 * n} 4252017623 ∧
    ceilPercent 4294967295 99 ≤ ceilPercent 4294967295 100 ∧
    IsLeast {n : ℕ | 6 ≤ n ∧ 10 * 65 ≤ 100 * n} 7 ∧ workers.required ≤ 10 := by
  intro workers
  have within : (99 : UInt8) ≤ 100 := by decide
  have valid : workers.validate = .ok () := by decide +kernel
  obtain ⟨shares, groups⟩ := thresholds_are_least
  obtain ⟨_, _, _, least, _, _, grows⟩ := shares 4294967295 99 within
  obtain ⟨required, reachable⟩ := groups workers valid
  have seven : workers.required.toNat = 7 := by decide +kernel
  rw [seven] at required
  exact ⟨⟨within, valid⟩, least, grows 4294967295 100 (by decide) (by decide) (by decide), required, reachable⟩

end InstanceGroup

end Muster
