import Muster.Proofs.Simulation.Faults

/-!
How creations for one role set end. A provider has some failures left for them, which is changed by the
faults that are asked for and spent by creations. How creations end is told by what was asked for and
by nothing else.
-/

namespace Muster.Simulation

structure Refusals where
  count : Nat
  always : Bool

inductive Signal where
  | failNext (count : Nat)
  | failAlways
  | completion
  deriving DecidableEq

namespace Refusals

def none : Refusals := ⟨0, false⟩

def accepts (left : Refusals) : Bool := !left.always && left.count = 0

def next (left : Refusals) : Signal → Refusals
  | .failNext count => { left with count }
  | .failAlways => { left with always := true }
  | .completion => if left.always then left else { left with count := left.count - 1 }

def outcomes : Refusals → List Signal → List Bool
  | _, [] => []
  | left, .completion :: rest => left.accepts :: (left.next .completion).outcomes rest
  | left, .failNext count :: rest => (left.next (.failNext count)).outcomes rest
  | left, .failAlways :: rest => (left.next .failAlways).outcomes rest

theorem outcomes_append (left : Refusals) (signals more : List Signal) :
    left.outcomes (signals ++ more) = left.outcomes signals ++ (signals.foldl next left).outcomes more := by
  induction signals generalizing left with
  | nil => rfl
  | cons signal rest ih => cases signal <;> simp [outcomes, ih]

-- As many as were told to fail do, and those behind them succeed.
theorem outcomes_completions (count completions : Nat) :
    outcomes ⟨count, false⟩ (List.replicate completions .completion) =
      List.replicate (min count completions) false ++ List.replicate (completions - count) true := by
  induction completions generalizing count with
  | zero => simp [outcomes]
  | succ completions ih =>
      rw [List.replicate_succ, outcomes]
      cases count with
      | zero => simp [accepts, next, ih, List.replicate_succ]
      | succ count => simp [accepts, next, ih, Nat.succ_min_succ, List.replicate_succ]

theorem next_of_always {left : Refusals} (always : left.always = true) : left.next .completion = left := if_pos always

theorem next_of_spent {left : Refusals} (spent : left.count = 0) : left.next .completion = left := by
  cases left
  cases spent
  exact ite_self _

theorem always_next {left : Refusals} (always : left.always = true) (signal : Signal) :
    (left.next signal).always = true := by
  cases signal <;> simp [next, always]

theorem outcomes_always {left : Refusals} (always : left.always = true) (signals : List Signal) :
    ∀ outcome ∈ left.outcomes signals, outcome = false := by
  induction signals generalizing left with
  | nil => exact fun _ member => nomatch member
  | cons signal rest ih =>
      have rest := ih (always_next always signal)
      cases signal with
      | completion => exact List.forall_mem_cons.mpr ⟨by simp [accepts, always], rest⟩
      | failNext _ => exact rest
      | failAlways => exact rest

theorem sometimes_foldl {left : Refusals} (sometimes : left.always = false) {signals : List Signal}
    (unset : .failAlways ∉ signals) : (signals.foldl next left).always = false := by
  induction signals generalizing left with
  | nil => exact sometimes
  | cons signal rest ih =>
      obtain ⟨other, unset⟩ := not_or.mp (mt List.mem_cons.mpr unset)
      refine ih ?_ unset
      cases signal with
      | failNext _ => exact sometimes
      | failAlways => exact absurd rfl other
      | completion => simp [next, sometimes]

theorem length_outcomes (left : Refusals) (signals : List Signal) :
    (left.outcomes signals).length = signals.count .completion := by
  induction signals generalizing left with
  | nil => rfl
  | cons signal rest ih => cases signal <;> simp [outcomes, ih]

end Refusals

def refusalsFor (simulation : Simulation) (roles : RoleSet) : Refusals :=
  ⟨(simulation.dueFor roles).create, (simulation.dueFor roles).createAlways⟩

theorem refusalsFor_new (roles : RoleSet) : new.refusalsFor roles = .none := rfl

theorem refusalsFor_setDue (simulation : Simulation) (roles other : RoleSet) (due : DueFailures) :
    (simulation.setDue roles due).refusalsFor other =
      if other = roles then ⟨due.create, due.createAlways⟩ else simulation.refusalsFor other := by
  simp only [refusalsFor, dueFor_setDue]
  split <;> rfl

end Muster.Simulation
