import Muster.InOrder

/-!
What was done, step by step. A history lists the steps that were performed, each with
what it found, what came of it and what it left. It ends with the last step, or with the
first one that fails.
-/

namespace Muster

variable {α σ ε : Type}

structure Performed (α σ ε : Type) where
  step : α
  found : σ
  result : Except ε Unit
  left : σ

def history (perform : α → σ → Except ε Unit × σ) : List α → σ → List (Performed α σ ε)
  | [], _ => []
  | step :: rest, state =>
      match perform step state with
      | (.ok (), after) => ⟨step, state, .ok (), after⟩ :: history perform rest after
      | (.error error, after) => [⟨step, state, .error error, after⟩]

variable {perform : α → σ → Except ε Unit × σ} {step : α} {rest steps : List α} {state after : σ}

theorem inOrder_of_ok (succeeds : perform step state = (.ok (), after)) :
    inOrder perform (step :: rest) state = inOrder perform rest after := by
  simp only [inOrder, succeeds]

theorem inOrder_of_error {error : ε} (fails : perform step state = (.error error, after)) :
    inOrder perform (step :: rest) state = (.error error, after) := by
  simp only [inOrder, fails]

theorem history_of_ok (succeeds : perform step state = (.ok (), after)) :
    history perform (step :: rest) state = ⟨step, state, .ok (), after⟩ :: history perform rest after := by
  simp only [history, succeeds]

theorem history_of_error {error : ε} (fails : perform step state = (.error error, after)) :
    history perform (step :: rest) state = [⟨step, state, .error error, after⟩] := by
  simp only [history, fails]

theorem history_ne_nil (perform : α → σ → Except ε Unit × σ) (step : α) (rest : List α) (state : σ) :
    history perform (step :: rest) state ≠ [] := by
  rcases performed : perform step state with ⟨error | ⟨⟩, after⟩
  · simp [history_of_error performed]
  · simp [history_of_ok performed]

theorem exists_history_head (perform : α → σ → Except ε Unit × σ) (step : α) (rest : List α) (state : σ) :
    ∃ entry ∈ history perform (step :: rest) state, entry.step = step := by
  rcases performed : perform step state with ⟨error | ⟨⟩, after⟩
  · rw [history_of_error performed]
    exact ⟨_, List.mem_cons_self, rfl⟩
  · rw [history_of_ok performed]
    exact ⟨_, List.mem_cons_self, rfl⟩

theorem performed_of_mem {entry : Performed α σ ε} (member : entry ∈ history perform steps state) :
    entry.step ∈ steps ∧ perform entry.step entry.found = (entry.result, entry.left) := by
  induction steps generalizing state with
  | nil => cases member
  | cons step rest ih =>
      rcases performed : perform step state with ⟨error | ⟨⟩, after⟩
      · rw [history_of_error performed] at member
        obtain rfl := List.mem_singleton.mp member
        exact ⟨List.mem_cons_self, performed⟩
      · rw [history_of_ok performed] at member
        rcases List.mem_cons.mp member with rfl | later
        · exact ⟨List.mem_cons_self, performed⟩
        · obtain ⟨among, same⟩ := ih later
          exact ⟨List.mem_cons_of_mem step among, same⟩

-- Steps that succeed together were all performed, and each of them succeeded.
theorem history_complete (succeeds : (inOrder perform steps state).1 = .ok ()) :
    (history perform steps state).map (fun entry => (entry.step, entry.result)) =
      steps.map fun step => (step, .ok ()) := by
  induction steps generalizing state with
  | nil => rfl
  | cons step rest ih =>
      rcases performed : perform step state with ⟨error | ⟨⟩, after⟩
      · rw [inOrder_of_error performed] at succeeds
        cases succeeds
      · rw [inOrder_of_ok performed] at succeeds
        rw [history_of_ok performed, List.map_cons, List.map_cons, ih succeeds]

theorem mem_history_of_ok (succeeds : (inOrder perform steps state).1 = .ok ()) (member : step ∈ steps) :
    ∃ entry ∈ history perform steps state, entry.step = step ∧ entry.result = .ok () := by
  have due : (step, .ok ()) ∈ (history perform steps state).map fun entry => (entry.step, entry.result) := by
    rw [history_complete succeeds]
    exact List.mem_map.mpr ⟨step, member, rfl⟩
  obtain ⟨entry, among, same⟩ := List.mem_map.mp due
  exact ⟨entry, among, congrArg Prod.fst same, congrArg Prod.snd same⟩

theorem inOrder_left (perform : α → σ → Except ε Unit × σ) (steps : List α) (state : σ) :
    (inOrder perform steps state).2 = state ∨
      ∃ entry ∈ history perform steps state, entry.left = (inOrder perform steps state).2 := by
  induction steps generalizing state with
  | nil => exact .inl rfl
  | cons step rest ih =>
      right
      rcases performed : perform step state with ⟨error | ⟨⟩, after⟩
      · rw [history_of_error performed, inOrder_of_error performed]
        exact ⟨_, List.mem_singleton_self _, rfl⟩
      · rw [history_of_ok performed, inOrder_of_ok performed]
        rcases ih after with same | ⟨entry, among, last⟩
        · exact ⟨_, List.mem_cons_self, same.symm⟩
        · exact ⟨entry, List.mem_cons_of_mem _ among, last⟩

-- Each step finds what the one before it has left, and what the last leaves stays.
theorem history_linked (perform : α → σ → Except ε Unit × σ) (steps : List α) (state : σ) :
    (history perform steps state).map Performed.found ++ [(inOrder perform steps state).2] =
      state :: (history perform steps state).map Performed.left := by
  induction steps generalizing state with
  | nil => rfl
  | cons step rest ih =>
      rcases performed : perform step state with ⟨error | ⟨⟩, after⟩
      · rw [history_of_error performed, inOrder_of_error performed]
        rfl
      · rw [history_of_ok performed, inOrder_of_ok performed]
        simpa using ih after

-- What comes of the last step that is performed comes of all of them.
theorem history_result (perform : α → σ → Except ε Unit × σ) (steps : List α) (state : σ) :
    (inOrder perform steps state).1 =
      ((history perform steps state).getLast?.map Performed.result).getD (.ok ()) := by
  induction steps generalizing state with
  | nil => rfl
  | cons step rest ih =>
      rcases performed : perform step state with ⟨error | ⟨⟩, after⟩
      · rw [history_of_error performed, inOrder_of_error performed]
        rfl
      · rw [history_of_ok performed, inOrder_of_ok performed, ih after]
        cases history perform rest after with
        | nil => rfl
        | cons entry later => rw [List.getLast?_cons_cons]

theorem failed_of_error {error : ε} (fails : (inOrder perform steps state).1 = .error error) :
    ∃ entry, (history perform steps state).getLast? = some entry ∧ entry.result = .error error := by
  rw [history_result] at fails
  cases last : (history perform steps state).getLast? with
  | none =>
      rw [last] at fails
      cases fails
  | some entry =>
      rw [last] at fails
      exact ⟨entry, rfl, fails⟩

theorem history_steps (perform : α → σ → Except ε Unit × σ) (steps : List α) (state : σ) :
    (history perform steps state).map Performed.step = reached perform steps state := by
  induction steps generalizing state with
  | nil => rfl
  | cons step rest ih =>
      rw [reached]
      rcases performed : perform step state with ⟨error | ⟨⟩, after⟩
      · rw [history_of_error performed]
        rfl
      · rw [history_of_ok performed, List.map_cons, ih after]

theorem history_isPrefix (perform : α → σ → Except ε Unit × σ) (steps : List α) (state : σ) :
    (history perform steps state).map Performed.step <+: steps := by
  rw [history_steps]
  exact reached_isPrefix perform steps state

-- Steps that succeed together succeed in two parts, one after the other.
theorem inOrder_split {first second : List α} (succeeds : (inOrder perform (first ++ second) state).1 = .ok ()) :
    ∃ middle, inOrder perform first state = (.ok (), middle) ∧
      inOrder perform (first ++ second) state = inOrder perform second middle ∧
      history perform (first ++ second) state = history perform first state ++ history perform second middle := by
  induction first generalizing state with
  | nil => exact ⟨state, rfl, rfl, rfl⟩
  | cons step rest ih =>
      rw [List.cons_append] at succeeds ⊢
      rcases performed : perform step state with ⟨error | ⟨⟩, after⟩
      · rw [inOrder_of_error performed] at succeeds
        cases succeeds
      · rw [inOrder_of_ok performed] at succeeds
        obtain ⟨middle, early, same, parts⟩ := ih succeeds
        refine ⟨middle, ?_, ?_, ?_⟩
        · rw [inOrder_of_ok performed, early]
        · rw [inOrder_of_ok performed, same]
        · rw [history_of_ok performed, history_of_ok performed, parts, List.cons_append]

-- What comes after steps that succeed is done as if it stood alone, and not at all after one that fails.
theorem history_append_of_ok {first second : List α} {middle : σ} (succeeds : inOrder perform first state = (.ok (), middle)) :
    history perform (first ++ second) state = history perform first state ++ history perform second middle := by
  induction first generalizing state with
  | nil =>
      cases succeeds
      rfl
  | cons step rest ih =>
      obtain ⟨after, performed, later⟩ := inOrder_cons_ok succeeds
      rw [List.cons_append, history_of_ok performed, history_of_ok performed, ih later, List.cons_append]

theorem history_append_of_error {first : List α} {error : ε} (fails : (inOrder perform first state).1 = .error error)
    (second : List α) : history perform (first ++ second) state = history perform first state := by
  induction first generalizing state with
  | nil => cases fails
  | cons step rest ih =>
      rcases performed : perform step state with ⟨other | ⟨⟩, after⟩
      · rw [List.cons_append, history_of_error performed, history_of_error performed]
      · rw [inOrder_of_ok performed] at fails
        rw [List.cons_append, history_of_ok performed, history_of_ok performed, ih fails]

-- No step is performed after one that fails.
theorem ok_of_earlier {early late : List (Performed α σ ε)} {entry other : Performed α σ ε}
    (split : history perform steps state = early ++ entry :: late) (member : other ∈ early) :
    other.result = .ok () := by
  induction early generalizing steps state with
  | nil => cases member
  | cons first early ih =>
      cases steps with
      | nil => cases split
      | cons step rest =>
          rcases performed : perform step state with ⟨error | ⟨⟩, after⟩
          · rw [history_of_error performed] at split
            simp at split
          · rw [history_of_ok performed, List.cons_append, List.cons.injEq] at split
            rcases List.mem_cons.mp member with rfl | later
            · rw [← split.1]
            · exact ih split.2 later

-- What fails is the last that is performed.
theorem error_of_failed {entry : Performed α σ ε} (member : entry ∈ history perform steps state) {error : ε}
    (failed : entry.result = .error error) : (inOrder perform steps state).1 = .error error := by
  obtain ⟨early, late, split⟩ := List.append_of_mem member
  cases late with
  | nil => rw [history_result, split, List.getLast?_concat, Option.map_some, Option.getD_some, failed]
  | cons next late =>
      rw [List.append_cons] at split
      cases failed.symm.trans (ok_of_earlier split (by simp))

/-- What holds at first and no longer after some step was lost in one of the steps. -/
theorem history_loses (held : σ → Prop) {entry : Performed α σ ε}
    (member : entry ∈ history perform steps state) (start : held state) (lost : ¬ held entry.left) :
    ∃ loss ∈ history perform steps state, held loss.found ∧ ¬ held loss.left := by
  induction steps generalizing state with
  | nil => cases member
  | cons step rest ih =>
      rcases performed : perform step state with ⟨error | ⟨⟩, after⟩
      · rw [history_of_error performed] at member ⊢
        obtain rfl := List.mem_singleton.mp member
        exact ⟨_, List.mem_singleton_self _, start, lost⟩
      · rw [history_of_ok performed] at member ⊢
        by_cases still : held after
        · rcases List.mem_cons.mp member with rfl | later
          · exact (lost still).elim
          · obtain ⟨loss, among, losing⟩ := ih later still
            exact ⟨loss, List.mem_cons_of_mem _ among, losing⟩
        · exact ⟨_, List.mem_cons_self, start, still⟩

-- What each step that is performed keeps is kept by all of them.
theorem inOrder_kept (held : σ → Prop)
    (keeps : ∀ entry ∈ history perform steps state, held entry.found → held entry.left) (start : held state) :
    held (inOrder perform steps state).2 := by
  by_cases still : held (inOrder perform steps state).2
  · exact still
  · rcases inOrder_left perform steps state with same | ⟨last, member, same⟩
    · exact (still (same.symm ▸ start)).elim
    · obtain ⟨loss, among, found, lost⟩ := history_loses held member start (same.symm ▸ still)
      exact (lost (keeps loss among found)).elim

-- Every step finds what the steps before it have kept.
theorem found_keeps (kept : σ → Prop) {entry : Performed α σ ε}
    (keeps : ∀ step ∈ steps, ∀ state, kept state → kept (perform step state).2) (start : kept state)
    (member : entry ∈ history perform steps state) : kept entry.found := by
  induction steps generalizing state with
  | nil => cases member
  | cons step rest ih =>
      have first := keeps step List.mem_cons_self state start
      have later := fun other among => keeps other (List.mem_cons_of_mem step among)
      rcases performed : perform step state with ⟨error | ⟨⟩, after⟩
      · rw [history_of_error performed] at member
        obtain rfl := List.mem_singleton.mp member
        exact start
      · rw [history_of_ok performed] at member
        rw [performed] at first
        rcases List.mem_cons.mp member with rfl | among
        · exact start
        · exact ih later first among

-- What no step loses is still held at the end if a step has left it so.
theorem inOrder_keeps_left (held : σ → Prop) {entry : Performed α σ ε}
    (keeps : ∀ step ∈ steps, ∀ state, held state → held (perform step state).2)
    (member : entry ∈ history perform steps state) (here : held entry.left) :
    held (inOrder perform steps state).2 := by
  induction steps generalizing state with
  | nil => cases member
  | cons step rest ih =>
      have later := fun other among => keeps other (List.mem_cons_of_mem step among)
      rcases performed : perform step state with ⟨error | ⟨⟩, after⟩
      · rw [history_of_error performed] at member
        rw [inOrder_of_error performed]
        obtain rfl := List.mem_singleton.mp member
        exact here
      · rw [history_of_ok performed] at member
        rw [inOrder_of_ok performed]
        rcases List.mem_cons.mp member with rfl | among
        · exact inOrder_keeps held later here
        · exact ih later among

end Muster
