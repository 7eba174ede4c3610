/-!
Doing things one after the other until one of them fails.
-/

namespace Muster

variable {α σ ε : Type}

/-- Performs steps in order; the first that fails is the last that is performed. -/
def inOrder (perform : α → σ → Except ε Unit × σ) : List α → σ → Except ε Unit × σ
  | [], state => (.ok (), state)
  | step :: rest, state =>
      match perform step state with
      | (.ok (), after) => inOrder perform rest after
      | (.error error, after) => (.error error, after)

theorem inOrder_cons_ok {perform : α → σ → Except ε Unit × σ} {step : α} {rest : List α} {state final : σ}
    (succeeds : inOrder perform (step :: rest) state = (.ok (), final)) :
    ∃ after, perform step state = (.ok (), after) ∧ inOrder perform rest after = (.ok (), final) := by
  unfold inOrder at succeeds
  split at succeeds
  · rename_i after done
    exact ⟨after, done, succeeds⟩
  · cases succeeds

/-- What every step keeps is kept however far the steps get. -/
theorem inOrder_keeps {perform : α → σ → Except ε Unit × σ} (kept : σ → Prop) {steps : List α} {state : σ}
    (keeps : ∀ step ∈ steps, ∀ state, kept state → kept (perform step state).2) (start : kept state) :
    kept (inOrder perform steps state).2 := by
  induction steps generalizing state with
  | nil => exact start
  | cons step rest ih =>
      have first := keeps step List.mem_cons_self state start
      unfold inOrder
      split
      · rename_i after done
        rw [done] at first
        exact ih (fun other member => keeps other (List.mem_cons_of_mem _ member)) first
      · rename_i failed
        rw [failed] at first
        exact first

def reached (perform : α → σ → Except ε Unit × σ) : List α → σ → List α
  | [], _ => []
  | step :: rest, state =>
      step ::
        match perform step state with
        | (.ok (), after) => reached perform rest after
        | (.error _, _) => []

/-- What is performed is an initial part of what is to be done. -/
theorem reached_isPrefix (perform : α → σ → Except ε Unit × σ) (steps : List α) (state : σ) :
    reached perform steps state <+: steps := by
  induction steps generalizing state with
  | nil => exact List.prefix_refl []
  | cons step rest ih =>
      rw [reached, List.cons_prefix_cons]
      refine ⟨rfl, ?_⟩
      split
      · exact ih _
      · exact List.nil_prefix

/-- Steps that succeed leave the ones after them to be done. -/
theorem inOrder_append (perform : α → σ → Except ε Unit × σ) (first second : List α) (state : σ) :
    inOrder perform (first ++ second) state =
      match inOrder perform first state with
      | (.ok (), after) => inOrder perform second after
      | (.error error, after) => (.error error, after) := by
  induction first generalizing state with
  | nil => rfl
  | cons step rest ih =>
      simp only [List.cons_append, inOrder]
      split
      · exact ih _
      · rfl

end Muster
