import Muster.Launch

/-!
What one step of a launch can be. Every theorem about launches takes its steps apart
here, once: a slot moves on or ends, or the launch itself does something. A slot that
moves has asked its provider for one thing, and the answer settles where it goes.
-/

namespace Muster.Launch

variable {σ : Type}

inductive Next where
  | goes (stage : Stage)
  | ends (result : SlotResult)

def Next.fails (cause : String) : Next := .ends (.failed cause none none)

inductive Move (provider : Provider σ) (plan : Plan) (state : State σ) (slot : Slot) :
    Event → σ → Next → Prop where
  | begins {millis : Nat} {answered : σ} (stage : slot.stage = .queued)
      (goingOn : state.cancelled = false) (room : state.atWork < plan.permits)
      (answer : provider.beginCreate slot.spec state.provider = (.working millis, answered)) :
      Move provider plan state slot (.start slot.number) answered (.goes (.creating millis))
  | crashesEarly {answered : σ} (stage : slot.stage = .queued)
      (goingOn : state.cancelled = false) (room : state.atWork < plan.permits)
      (answer : provider.beginCreate slot.spec state.provider = (.crashed, answered)) :
      Move provider plan state slot (.start slot.number) answered (.fails State.crashed)
  | creates {millis : Nat} {node : Node} {answered : σ} (stage : slot.stage = .creating millis)
      (goingOn : state.cancelled = false)
      (answer : provider.finishCreate slot.spec state.provider = (some (.ok node), answered)) :
      Move provider plan state slot (.created slot.number) answered
        (.goes (.checking node (provider.readyMillis node answered)))
  | isRefused {millis : Nat} {error : ProviderError} {answered : σ}
      (stage : slot.stage = .creating millis) (goingOn : state.cancelled = false)
      (answer : provider.finishCreate slot.spec state.provider = (some (.error error), answered)) :
      Move provider plan state slot (.created slot.number) answered (.fails error.message)
  | crashesLate {millis : Nat} {answered : σ} (stage : slot.stage = .creating millis)
      (goingOn : state.cancelled = false)
      (answer : provider.finishCreate slot.spec state.provider = (none, answered)) :
      Move provider plan state slot (.created slot.number) answered (.fails State.crashed)
  | expires {millis limit : Nat} (stage : slot.stage = .creating millis)
      (goingOn : state.cancelled = false) (limited : plan.timeLimit = some limit) :
      Move provider plan state slot (.expired slot.number)
        (provider.dropCreate slot.spec state.provider)
        (.fails (ProviderError.timedOut (.ofMillis limit)).message)
  | isReady {node : Node} {millis : Nat} {answered : σ} (stage : slot.stage = .checking node millis)
      (goingOn : state.cancelled = false)
      (answer : provider.checkReady node state.provider = (.ok (), answered)) :
      Move provider plan state slot (.checked slot.number) answered
        (.ends (.healthy (.ofNode node slot.spec.roles)))
  | isUnready {node : Node} {millis : Nat} {error : ProviderError} {answered : σ}
      (stage : slot.stage = .checking node millis) (goingOn : state.cancelled = false)
      (answer : provider.checkReady node state.provider = (.error error, answered)) :
      Move provider plan state slot (.checked slot.number) answered
        (.goes (.destroying node error.message))
  | leavesLine (stage : slot.stage = .queued) (ended : state.cancelled = true) :
      Move provider plan state slot (.aborted slot.number) state.provider
        (.fails "cancelled before launch")
  | stopsCreating {millis : Nat} (stage : slot.stage = .creating millis)
      (ended : state.cancelled = true) :
      Move provider plan state slot (.aborted slot.number)
        (provider.dropCreate slot.spec state.provider) (.fails "cancelled while launching")
  | stopsChecking {node : Node} {millis : Nat} (stage : slot.stage = .checking node millis)
      (ended : state.cancelled = true) :
      Move provider plan state slot (.aborted slot.number) state.provider
        (.goes (.destroying node (ProviderError.notReady node.id "cancelled").message))
  | destroys {node : Node} {cause : String} {answered : σ}
      (stage : slot.stage = .destroying node cause)
      (answer : provider.destroy [node.id] state.provider = (.ok (), answered)) :
      Move provider plan state slot (.discarded slot.number) answered
        (.ends (.failed cause (some node.id) none))
  | abandons {node : Node} {cause : String} {error : ProviderError} {answered : σ}
      (stage : slot.stage = .destroying node cause)
      (answer : provider.destroy [node.id] state.provider = (.error error, answered)) :
      Move provider plan state slot (.discarded slot.number) answered
        (.ends (.failed cause none (some node.id)))

namespace State

def moved (state : State σ) (slot : Slot) (answered : σ) : Next → State σ
  | .goes stage => { state with provider := answered }.setStage slot.number stage
  | .ends result => { state with provider := answered }.endSlot slot result

theorem isPending_eq_false (state : State σ) :
    state.isPending = false ↔ state.slots = [] ∧ state.inbox = [] := by
  simp [isPending]

theorem pending_of_mem {state : State σ} {slot : Slot} (member : slot ∈ state.slots) :
    state.isPending = true := by
  simp [isPending, List.ne_nil_of_mem member]

theorem pending_of_inbox {state : State σ} {arrival : Arrival} {rest : List Arrival}
    (inbox : state.inbox = arrival :: rest) : state.isPending = true := by
  simp [isPending, inbox]

section

variable (state : State σ) (slot : Slot) (answered : σ) (next : Next)

@[simp] theorem moved_provider : (state.moved slot answered next).provider = answered := by
  cases next <;> rfl

@[simp] theorem moved_attempt : (state.moved slot answered next).attempt = state.attempt := by
  cases next <;> rfl

@[simp] theorem moved_groups : (state.moved slot answered next).groups = state.groups := by
  cases next <;> rfl

@[simp] theorem moved_cancelled : (state.moved slot answered next).cancelled = state.cancelled := by
  cases next <;> rfl

@[simp] theorem moved_stop : (state.moved slot answered next).stop = state.stop := by
  cases next <;> rfl

@[simp] theorem moved_issued : (state.moved slot answered next).issued = state.issued := by
  cases next <;> rfl

@[simp] theorem moved_finished : (state.moved slot answered next).finished = state.finished := by
  cases next <;> rfl

end

-- What is noted between attempts about the end of the launch.
def closing (state : State σ) : Option Stop :=
  if 0 < state.attempt && state.stop.isNone && state.cancelled then some .cancelled else state.stop

end State

inductive Step (provider : Provider σ) (plan : Plan) (state : State σ) : Event → State σ → Prop where
  | moves {event : Event} {slot : Slot} {answered : σ} {next : Next}
      (found : state.slot? slot.number = some slot)
      (move : Move provider plan state slot event answered next) :
      Step provider plan state event (state.moved slot answered next)
  | receives {arrival : Arrival} {rest : List Arrival} (inbox : state.inbox = arrival :: rest) :
      Step provider plan state .received ({ state with inbox := rest }.receive arrival)
  | isCancelled : Step provider plan state .cancel { state with cancelled := true }
  | notices (pending : state.isPending = true) (cancelled : state.cancelled = true)
      (goingOn : state.stop = none) :
      Step provider plan state .noticed { state with stop := some .cancelled }
  | runsOut (pending : state.isPending = true) (given : plan.deadline.isSome = true)
      (goingOn : state.stop = none) :
      Step provider plan state .deadline { state with stop := some .timeout, cancelled := true }
  | finishes (settled : state.isPending = false) (unfinished : state.finished = false)
      (reason : state.closing.isSome = true ∨ plan.maxAttempts ≤ state.attempt ∨
        state.groups.any GroupProgress.isDue = false) :
      Step provider plan state .proceed { state with stop := state.closing, finished := true }
  | begins (settled : state.isPending = false) (unfinished : state.finished = false)
      (goingOn : state.closing = none) (left : state.attempt < plan.maxAttempts)
      (due : state.groups.any GroupProgress.isDue = true) :
      Step provider plan state .proceed (state.beginAttempt plan)

namespace State

theorem number_of_slot? {state : State σ} {number : Nat} {slot : Slot}
    (found : state.slot? number = some slot) : slot.number = number := by
  simpa using List.find?_some found

theorem mem_of_slot? {state : State σ} {number : Nat} {slot : Slot}
    (found : state.slot? number = some slot) : slot ∈ state.slots :=
  List.mem_of_find?_eq_some found

theorem stop_of_closing {state : State σ} (goingOn : state.closing = none) : state.stop = none := by
  unfold closing at goingOn
  split at goingOn
  · cases goingOn
  · exact goingOn

-- Between attempts the launch ends, or its next attempt begins.
theorem proceed_cases (provider : Provider σ) (plan : Plan) (state : State σ)
    (settled : state.isPending = false) (unfinished : state.finished = false) :
    Step provider plan state .proceed (state.proceed plan) := by
  by_cases ends : state.closing.isSome = true ∨ plan.maxAttempts ≤ state.attempt ∨
      state.groups.any GroupProgress.isDue = false
  · have same : state.proceed plan = { state with stop := state.closing, finished := true } := by
      have chosen : (state.closing.isSome || decide (plan.maxAttempts ≤ state.attempt) ||
          !state.groups.any GroupProgress.isDue) = true := by
        simpa [or_assoc] using ends
      simp only [proceed]
      exact if_pos chosen
    rw [same]
    exact .finishes settled unfinished ends
  · simp only [not_or, Bool.not_eq_true, Option.isSome_eq_false_iff, Option.isNone_iff_eq_none,
      Nat.not_le, Bool.not_eq_false] at ends
    have same : state.proceed plan = state.beginAttempt plan := by
      have chosen : ¬ (state.closing.isSome || decide (plan.maxAttempts ≤ state.attempt) ||
          !state.groups.any GroupProgress.isDue) = true := by
        simp [ends.1, ends.2.1, ends.2.2]
      have kept : { state with stop := state.closing } = state := by
        rw [ends.1, ← stop_of_closing ends.1]
      simp only [proceed]
      refine (if_neg chosen).trans ?_
      exact congrArg (beginAttempt plan) kept
    rw [same]
    exact .begins settled unfinished ends.1 ends.2.1 ends.2.2

/-! ### What is asked of one slot -/

-- An event of a slot makes a move of it, and nothing else changes.
def Moves (provider : Provider σ) (plan : Plan) (state : State σ) (slot : Slot) (event : Event)
    (after : State σ) : Prop :=
  ∃ answered next, Move provider plan state slot event answered next ∧ after = state.moved slot answered next

section

variable {provider : Provider σ} {plan : Plan} {state after : State σ}

theorem step_of_slot (event : Nat → Event) {number : Nat} {asks : Slot → Option (State σ)}
    (moves : ∀ slot, asks slot = some after → Moves provider plan state slot (event slot.number) after)
    (happens : (state.slot? number).bind asks = some after) : Step provider plan state (event number) after := by
  obtain ⟨slot, found, asked⟩ := Option.bind_eq_some_iff.mp happens
  obtain ⟨answered, next, move, rfl⟩ := moves slot asked
  obtain rfl := number_of_slot? found
  exact .moves found move

variable {slot : Slot}

theorem startSlot_moves (stage : slot.stage = .queued) (goingOn : state.cancelled = false)
    (room : state.atWork < plan.permits) :
    Moves provider plan state slot (.start slot.number) (startSlot provider state slot) := by
  unfold startSlot
  split
  · rename_i answer
    exact ⟨_, _, .crashesEarly stage goingOn room answer, rfl⟩
  · rename_i answer
    exact ⟨_, _, .begins stage goingOn room answer, rfl⟩

theorem finishCreation_moves {millis : Nat} (stage : slot.stage = .creating millis)
    (goingOn : state.cancelled = false) :
    Moves provider plan state slot (.created slot.number) (finishCreation provider state slot) := by
  unfold finishCreation
  split
  · rename_i answer
    exact ⟨_, _, .crashesLate stage goingOn answer, rfl⟩
  · rename_i answer
    exact ⟨_, _, .isRefused stage goingOn answer, rfl⟩
  · rename_i answer
    exact ⟨_, _, .creates stage goingOn answer, rfl⟩

theorem finishCheck_moves {node : Node} {millis : Nat} (stage : slot.stage = .checking node millis)
    (goingOn : state.cancelled = false) :
    Moves provider plan state slot (.checked slot.number) (finishCheck provider state slot node) := by
  unfold finishCheck
  split
  · rename_i answer
    exact ⟨_, _, .isReady stage goingOn answer, rfl⟩
  · rename_i answer
    exact ⟨_, _, .isUnready stage goingOn answer, rfl⟩

theorem abortSlot_moves (ended : state.cancelled = true) (aborts : abortSlot provider state slot = some after) :
    Moves provider plan state slot (.aborted slot.number) after := by
  unfold abortSlot at aborts
  split at aborts
  · rename_i stage
    cases aborts
    exact ⟨_, _, .leavesLine stage ended, rfl⟩
  · rename_i stage
    cases aborts
    exact ⟨_, _, .stopsCreating stage ended, rfl⟩
  · rename_i stage
    cases aborts
    exact ⟨_, _, .stopsChecking stage ended, rfl⟩
  · cases aborts

theorem discard_moves {node : Node} {cause : String} (stage : slot.stage = .destroying node cause) :
    Moves provider plan state slot (.discarded slot.number) (discard provider state slot node cause) := by
  unfold discard
  split
  · rename_i answer
    exact ⟨_, _, .destroys stage answer, rfl⟩
  · rename_i answer
    exact ⟨_, _, .abandons stage answer, rfl⟩

-- What a slot is asked while the launch goes on is refused when it is cancelled.
theorem goingOn_of_unless {next : State σ}
    (asked : (if state.cancelled then none else some next) = some after) :
    state.cancelled = false ∧ next = after := by
  split at asked
  · cases asked
  · rename_i goingOn
    exact ⟨by simpa using goingOn, Option.some.inj asked⟩

end

/-- The steps of `Step` are all there are. -/
theorem step_sound (provider : Provider σ) (plan : Plan) (state after : State σ) (event : Event)
    (happens : state.step provider plan event = some after) : Step provider plan state event after := by
  cases event with
  | start number =>
      refine step_of_slot .start (fun slot asked => ?_) happens
      split at asked
      · rename_i can
        cases asked
        exact startSlot_moves can.1 can.2.1 can.2.2
      · cases asked
  | created number =>
      refine step_of_slot .created (fun slot asked => ?_) happens
      split at asked
      · rename_i stage
        obtain ⟨goingOn, rfl⟩ := goingOn_of_unless asked
        exact finishCreation_moves stage goingOn
      · cases asked
  | expired number =>
      refine step_of_slot .expired (fun slot asked => ?_) happens
      split at asked
      · rename_i stage limited
        obtain ⟨goingOn, rfl⟩ := goingOn_of_unless asked
        exact ⟨_, _, .expires stage goingOn limited, rfl⟩
      · cases asked
  | checked number =>
      refine step_of_slot .checked (fun slot asked => ?_) happens
      split at asked
      · rename_i stage
        obtain ⟨goingOn, rfl⟩ := goingOn_of_unless asked
        exact finishCheck_moves stage goingOn
      · cases asked
  | aborted number =>
      refine step_of_slot .aborted (fun slot asked => ?_) happens
      split at asked
      · rename_i ended
        exact abortSlot_moves ended asked
      · cases asked
  | discarded number =>
      refine step_of_slot .discarded (fun slot asked => ?_) happens
      split at asked
      · rename_i stage
        cases asked
        exact discard_moves stage
      · cases asked
  | received =>
      simp only [step] at happens
      split at happens
      · cases happens
      · rename_i inbox
        cases happens
        exact .receives inbox
  | cancel =>
      cases happens
      exact .isCancelled
  | noticed =>
      simp only [step] at happens
      split at happens
      · rename_i can
        simp only [Bool.and_eq_true, Option.isNone_iff_eq_none] at can
        cases happens
        exact .notices can.1.1 can.1.2 can.2
      · cases happens
  | deadline =>
      simp only [step] at happens
      split at happens
      · rename_i can
        simp only [Bool.and_eq_true, Option.isNone_iff_eq_none] at can
        cases happens
        exact .runsOut can.1.1 can.1.2 can.2
      · cases happens
  | «proceed» =>
      simp only [step] at happens
      split at happens
      · cases happens
      · rename_i can
        simp only [Bool.or_eq_true, not_or, Bool.not_eq_true] at can
        cases happens
        exact proceed_cases provider plan state can.1 can.2

end State

end Muster.Launch
