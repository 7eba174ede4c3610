import Muster.Launch.State
import Muster.Provider.Simulated

/-!
What becomes of a group if its creations come one after the other: the ones that are due to
fail come first, and so do the machines that are due not to be ready. Taking a creation or
a check out of those to come, and letting it end as it is due to, leaves the end the same.
-/

namespace Muster.Launch

structure Forecast where
  attempts : Nat
  attempted : Nat
  succeeded : Nat
  failed : Nat
  unready : Nat
  due : DueFailures
  deriving DecidableEq

namespace Forecast

def start (due : DueFailures) : Forecast := ⟨0, 0, 0, 0, 0, due⟩

def attempt (slots : Nat) (forecast : Forecast) : Forecast :=
  let due := forecast.due
  let refused := if due.createAlways then slots else min due.create slots
  let created := slots - refused
  let unready := min due.ready created
  { attempts := forecast.attempts + 1
    attempted := forecast.attempted + slots
    succeeded := forecast.succeeded + (created - unready)
    failed := forecast.failed + refused + unready
    unready := forecast.unready + unready
    due := { due with
      create := if due.createAlways then due.create else due.create - refused
      ready := due.ready - unready } }

def isDue (group : InstanceGroup) (forecast : Forecast) : Bool :=
  forecast.succeeded < group.target.toNat &&
    (forecast.attempts = 0 || forecast.succeeded < group.required.toNat)

def next (group : InstanceGroup) (forecast : Forecast) : Forecast :=
  if forecast.isDue group then forecast.attempt (group.target.toNat - forecast.succeeded) else forecast

def after (group : InstanceGroup) (forecast : Forecast) : Nat → Forecast
  | 0 => forecast
  | attempts + 1 => (forecast.after group attempts).next group

def settle (creations checks : Nat) (forecast : Forecast) : Forecast :=
  let due := forecast.due
  let refused := if due.createAlways then creations else min due.create creations
  let created := creations - refused
  let unready := min due.ready (checks + created)
  { forecast with
    succeeded := forecast.succeeded + (checks + created - unready)
    failed := forecast.failed + refused + unready
    unready := forecast.unready + unready
    due := { due with
      create := if due.createAlways then due.create else due.create - refused
      ready := due.ready - unready } }

variable (forecast : Forecast) (creations checks : Nat)

theorem attempt_eq_settle (slots : Nat) : forecast.attempt slots =
    { forecast with attempts := forecast.attempts + 1, attempted := forecast.attempted + slots }.settle
      slots 0 := by
  simp [attempt, settle]

theorem settle_nothing : forecast.settle 0 0 = forecast := by
  cases forecast
  simp [settle]

/-! One creation, or one check, before the others. What it spends of the failures that are
due is what the others are then short of. -/

theorem min_succ_of_pos {due count : Nat} (some : 0 < due) :
    min due (count + 1) = min (due - 1) count + 1 := by omega

theorem settle_refused_always (always : forecast.due.createAlways = true) :
    { forecast with failed := forecast.failed + 1 }.settle creations checks =
      forecast.settle (creations + 1) checks := by
  simp only [settle, always, if_pos, Nat.sub_self, Nat.add_right_comm, Nat.add_assoc]

theorem settle_refused (sometimes : forecast.due.createAlways = false) (some : 0 < forecast.due.create) :
    { forecast with
        failed := forecast.failed + 1
        due := { forecast.due with create := forecast.due.create - 1 } }.settle creations checks =
      forecast.settle (creations + 1) checks := by
  simp only [settle, sometimes, Bool.false_eq_true, if_false, min_succ_of_pos some, Nat.add_sub_add_right,
    Nat.sub_sub, Nat.add_assoc, Nat.add_comm 1]

theorem settle_created (sometimes : forecast.due.createAlways = false) (none : forecast.due.create = 0) :
    forecast.settle creations (checks + 1) = forecast.settle (creations + 1) checks := by
  simp only [settle, sometimes, Bool.false_eq_true, if_false, none, Nat.zero_min, Nat.sub_zero,
    Nat.add_assoc, Nat.add_comm 1]

theorem settle_ready (none : forecast.due.ready = 0) :
    { forecast with succeeded := forecast.succeeded + 1 }.settle creations checks =
      forecast.settle creations (checks + 1) := by
  simp only [settle, none, Nat.zero_min, Nat.sub_zero, Nat.add_zero, Nat.add_assoc, Nat.add_left_comm 1,
    Nat.add_comm 1]

theorem settle_unready (some : 0 < forecast.due.ready) :
    { forecast with
        failed := forecast.failed + 1
        unready := forecast.unready + 1
        due := { forecast.due with ready := forecast.due.ready - 1 } }.settle creations checks =
      forecast.settle creations (checks + 1) := by
  simp only [settle, Nat.add_right_comm checks 1, min_succ_of_pos some, Nat.add_sub_add_right]
  simp only [Nat.sub_sub, Nat.add_assoc, Nat.add_comm 1]

-- A group that is not launched any more stays as it is.
theorem after_of_settled {group : InstanceGroup} {attempts : Nat}
    (settled : (forecast.after group attempts).isDue group = false) (more : Nat) :
    forecast.after group (attempts + more) = forecast.after group attempts := by
  induction more with
  | zero => rfl
  | succ more ih =>
      rw [← Nat.add_assoc, after, ih, next, settled]
      rfl

end Forecast

end Muster.Launch
