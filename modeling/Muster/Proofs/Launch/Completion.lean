import Muster.Proofs.Launch.Attempt

/-!
The scheduled launch comes to its end. While slots are in order some slot can take its
turn, or time can move on, until none is left; a cancellation or the deadline leaves each
slot one turn in which it ends. Every turn is paid from a number that the slots of the
attempt begin with, and attempts are counted by the topology.
-/

namespace Muster.Launch

variable {σ : Type}

theorem State.Attending.retold {plan : Plan} {attempt : Nat} {state : State σ}
    (attending : state.Attending plan attempt) (stop : Option Stop) (cancelled : Bool) :
    { state with stop, cancelled }.Attending plan attempt :=
  let sound := attending.sound
  ⟨⟨sound.1, sound.2, sound.3, sound.4, sound.5, sound.6, sound.7⟩, attending.heard,
    attending.attempt, attending.unfinished⟩

namespace Schedule

variable {provider : Provider σ} {plan : Plan} {attempt turns : Nat} {schedule : Schedule σ}

/-! ### Waiting for timers -/

-- Every slot has a place.
theorem Orderly.place (orderly : Orderly plan attempt turns schedule) {slot : Slot}
    (member : slot ∈ schedule.state.slots) : ∃ event ∈ schedule.tasks, Awaits plan slot event := by
  have distinct := orderly.attending.sound.distinct
  have among : some slot.number ∈ schedule.tasks.map slotOf? :=
    orderly.queues.tasks.mem_iff.mpr (List.mem_map.mpr ⟨slot, member, rfl⟩)
  obtain ⟨event, inTasks, number⟩ := List.mem_map.mp among
  obtain ⟨holder, inSlots, awaits⟩ := orderly.queues.awaited event inTasks
  have same : holder = slot := by
    have found := State.slot?_of_mem distinct inSlots
    rw [Option.some.inj (awaits.slotOf.symm.trans number), State.slot?_of_mem distinct member] at found
    exact (Option.some.inj found).symm
  exact ⟨event, inTasks, same ▸ awaits⟩

/-- Slots do not all stand in line: somebody has the permits that they wait for. -/
theorem Orderly.timed (orderly : Orderly plan attempt turns schedule) (permits : 0 < plan.permits)
    (idle : schedule.ready = []) (left : schedule.state.slots ≠ []) : schedule.timers ≠ [] := by
  -- without a timer everybody would be in line, and nobody would have the permits
  intro untimed
  have queues := orderly.queues
  have tasks : schedule.tasks = schedule.line.map Event.start := by
    simp [Schedule.tasks, waiting, idle, untimed]
  have queued : schedule.state.slots.countP Slot.isAtWork = 0 := by
    apply List.countP_eq_zero.mpr
    intro slot member
    obtain ⟨event, inTasks, awaits⟩ := orderly.place member
    rw [tasks] at inTasks
    obtain ⟨number, _, rfl⟩ := List.mem_map.mp inTasks
    cases awaits with
    | permit stage => simp [Slot.isAtWork, stage]
  have unkept : schedule.reserved = [] := by
    apply List.eq_nil_iff_forall_not_mem.mpr
    intro number reserved
    have ready := queues.kept number reserved
    rw [idle] at ready
    cases ready
  have inLine : schedule.line ≠ [] := by
    intro nobody
    have length := queues.tasks.length_eq
    rw [tasks, nobody] at length
    exact left (List.length_eq_zero_iff.mp (by simpa using length.symm))
  have busy := queues.busy inLine
  rw [queued, unkept] at busy
  exact Nat.not_lt_of_le busy permits

theorem filter_gone {α : Type} {gone left : List α} {stays : α → Bool}
    (drops : ∀ item ∈ gone, stays item = false) (keeps : ∀ item ∈ left, stays item = true) :
    (gone ++ left).filter stays = left := by
  rw [List.filter_append, List.filter_eq_nil_iff.mpr, List.nil_append, List.filter_eq_self.mpr keeps]
  intro item inGone
  exact by simp [drops item inGone]

theorem turns_of_timers (timers : List Timer) :
    (timers.map fun timer => timer.event.turns + 1).sum =
      ((timers.map Timer.event).map Event.turns).sum + timers.length := by
  induction timers with
  | nil => rfl
  | cons head rest ih =>
      simp only [List.map_cons, List.sum_cons, List.length_cons, ih]
      omega

-- Slots whose timers have ended are ready.
theorem ring_orderly (orderly : Orderly plan attempt (turns + 1) schedule) {moment : Nat}
    {timer : Timer} (set : timer ∈ schedule.timers) (due : timer.due = moment) :
    Orderly plan attempt turns (schedule.ring moment) := by
  have queues := orderly.queues
  have parted : (schedule.timers.filter (fun timer => timer.due ≤ moment) ++
      schedule.timers.filter (fun timer => !(timer.due ≤ moment))).Perm schedule.timers :=
    List.filter_append_perm _ _
  have rings : timer ∈ schedule.timers.filter fun timer => timer.due ≤ moment :=
    List.mem_filter.mpr ⟨set, by simp [due]⟩
  generalize ended : (schedule.timers.filter fun timer => timer.due ≤ moment) = gone at parted rings
  generalize kept : (schedule.timers.filter fun timer => !(timer.due ≤ moment)) = left at parted
  have rung : schedule.ring moment = { schedule with
      now := max schedule.now moment
      timers := left
      waits := schedule.waits.filter fun number => some number ∉ (gone.map Timer.event).map slotOf?
      ready := schedule.ready ++ gone.map Timer.event } := by
    simp only [ring, ended, kept]
  have waiting : (gone.map Timer.event ++ (schedule.line.map Event.start ++ left.map Timer.event)).Perm
      schedule.waiting := by
    rw [Schedule.waiting, ← List.append_assoc]
    refine (List.perm_append_comm.append_right _).trans ?_
    rw [List.append_assoc, ← List.map_append]
    exact (parted.map _).append_left _
  have tasks : (schedule.ready ++ gone.map Timer.event ++
      (schedule.line.map Event.start ++ left.map Timer.event)).Perm schedule.tasks := by
    rw [List.append_assoc]
    exact waiting.append_left _
  rw [rung]
  refine ⟨orderly.attending, orderly.goingOn, ⟨(tasks.map _).trans queues.tasks, ?_, ?_, ?_, queues.once,
    queues.fits, queues.busy, queues.given⟩, ?_⟩
  · intro event among
    exact queues.awaited event (tasks.mem_iff.mp among)
  · have numbers := queues.waits.trans (waiting.map slotOf?).symm
    have distinct := queues.distinct orderly.attending.sound.distinct
    rw [Schedule.tasks, List.map_append, List.nodup_append] at distinct
    have apart := (waiting.map slotOf?).nodup_iff.mpr distinct.2.1
    rw [List.map_append] at numbers apart
    -- no number that rang is also the number of a slot that still waits
    have others := numbers.filter fun number => decide (number ∉ (gone.map Timer.event).map slotOf?)
    rw [filter_gone, List.filter_map] at others
    · exact others
    · intro number rang
      exact by simpa using rang
    · have different := (List.nodup_append.mp apart).2.2
      intro number still
      exact by simpa using fun rang => different number rang number still rfl
  · intro number reserved
    exact List.mem_append_left _ (queues.kept number reserved)
  · have before := orderly.turns
    have sum := (parted.map fun timer => timer.event.turns + 1).sum_nat
    have some : 0 < gone.length := List.length_pos_of_mem rings
    have steps := turns_of_timers gone
    simp only [Schedule.turns, List.map_append, List.sum_append] at before sum ⊢
    omega

/-! ### After a cancellation -/

structure Winding (plan : Plan) (attempt turns : Nat) (schedule : Schedule σ) : Prop where
  attending : schedule.state.Attending plan attempt
  cancelled : schedule.state.cancelled = true
  ready : (schedule.ready.map slotOf?).Perm (schedule.state.slots.map fun slot => some slot.number)
  keeps : ∀ slot ∈ schedule.state.slots, ∀ node cause, slot.stage ≠ .destroying node cause
  turns : schedule.ready.length ≤ turns

theorem Winding.weaken {more : Nat} (winding : Winding plan attempt turns schedule) (fewer : turns ≤ more) :
    Winding plan attempt more schedule :=
  ⟨winding.attending, winding.cancelled, winding.ready, winding.keeps, Nat.le_trans winding.turns fewer⟩

-- A slot that is told to end is gone after its turn.
theorem abort_moves (provider : Provider σ) (schedule : Schedule σ)
    (attending : schedule.state.Attending plan attempt)
    (cancelled : schedule.state.cancelled = true) {slot : Slot} (member : slot ∈ schedule.state.slots)
    (keeps : ∀ node cause, slot.stage ≠ .destroying node cause) {after : Schedule σ}
    (turned : after = (schedule.apply provider plan (.aborted slot.number)).apply provider plan
      (.discarded slot.number)) :
    after.state.Attending plan attempt ∧ after.state.cancelled = true ∧
      after.state.slots.Perm (schedule.state.others slot) := by
  have found := State.slot?_of_mem attending.sound.distinct member
  obtain ⟨answered, next, move, moves⟩ := apply_moves provider plan (.aborted slot.number)
    attending member rfl (State.can_abort provider plan found cancelled keeps)
  have still := moves.cancelled.trans cancelled
  -- a slot without a machine has ended, and its second event is nothing that can happen
  have gone (ended : (schedule.apply provider plan (.aborted slot.number)).state.slots.Perm
      (schedule.state.others slot)) : after.state.Attending plan attempt ∧ after.state.cancelled = true ∧
      after.state.slots.Perm (schedule.state.others slot) := by
    have absent : (schedule.apply provider plan (.aborted slot.number)).state.slot? slot.number = none := by
      apply List.find?_eq_none.mpr
      intro other among
      simpa using (List.mem_filter.mp (ended.mem_iff.mp among)).2
    have cannot : (schedule.apply provider plan (.aborted slot.number)).state.step provider plan
        (.discarded slot.number) = none := by simp [State.step, absent]
    rw [turned, apply_of_none provider plan _ cannot moves.attending.heard]
    exact ⟨moves.attending, still, ended⟩
  cases move with
  | leavesLine | stopsCreating => exact gone moves.slots
  | stopsChecking stage ended =>
      -- the second event destroys the machine that it has
      rename_i node millis
      have among := moves.slots
      generalize schedule.apply provider plan (.aborted slot.number) = middle at *
      have holds := among.mem_iff.mpr List.mem_cons_self
      have found := State.slot?_of_mem moves.attending.sound.distinct holds
      have can := State.can_discard provider plan found rfl
      obtain ⟨answered, next, move, discards⟩ := apply_moves provider plan (.discarded slot.number)
        moves.attending holds rfl can
      have others := ((State.slots_perm moves.attending.sound.distinct holds).symm.trans among).cons_inv
      rw [turned]
      refine ⟨discards.attending, discards.cancelled.trans still, ?_⟩
      cases move with
      | destroys | abandons => exact discards.slots.trans others

theorem perform_winding (provider : Provider σ) {event : Event} {later : List Event}
    (winding : Winding plan attempt (turns + 1) schedule) (ready : schedule.ready = event :: later) :
    Winding plan attempt turns (perform provider plan event { schedule with ready := later }) := by
  have tasks := winding.ready
  rw [ready, List.map_cons] at tasks
  obtain ⟨slot, member, number⟩ := List.mem_map.mp (tasks.mem_iff.mp List.mem_cons_self)
  have among := State.slots_perm winding.attending.sound.distinct member
  have others := ((tasks.trans (among.map _)).trans
    (List.Perm.of_eq (congrArg (· :: _) number))).cons_inv
  have turn : perform provider plan event { schedule with ready := later } =
      (Schedule.apply provider plan (.aborted slot.number) { schedule with ready := later }).apply
        provider plan (.discarded slot.number) := by
    simp only [perform, ← number, winding.cancelled, if_pos]
  obtain ⟨attending, cancelled, slots⟩ := abort_moves provider { schedule with ready := later }
    winding.attending winding.cancelled member (winding.keeps slot member) turn
  have fewer := winding.turns
  rw [ready, List.length_cons] at fewer
  have kept : (perform provider plan event { schedule with ready := later }).ready = later := by
    rw [turn]
    rfl
  refine ⟨attending, cancelled, ?_, ?_, ?_⟩
  · rw [kept]
    exact others.trans (slots.map _).symm
  · intro other left
    exact winding.keeps other (State.mem_others (slots.mem_iff.mp left))
  · rw [kept]
    omega

-- Slots that are told to end are ready to.
theorem Orderly.wakes (orderly : Orderly plan attempt turns schedule) {told : Schedule σ}
    {stop : Option Stop} (state : told.state = { schedule.state with stop, cancelled := true })
    (ready : told.ready = schedule.ready) (waits : told.waits = schedule.waits) :
    Winding plan attempt schedule.tasks.length told.wakeAll := by
  have same : told.wakeAll.state = told.state := rfl
  have slots : told.wakeAll.state.slots = schedule.state.slots := by rw [same, state]
  have all : (told.wakeAll.ready.map slotOf?).Perm (schedule.tasks.map slotOf?) := by
    have aborted : (told.waits.map Event.aborted).map slotOf? = told.waits.map some := by
      rw [List.map_map]
      rfl
    change ((told.ready ++ told.waits.map Event.aborted).map slotOf?).Perm _
    rw [List.map_append, aborted, ready, waits, Schedule.tasks, List.map_append]
    exact orderly.queues.waits.append_left _
  refine ⟨?_, ?_, ?_, ?_, ?_⟩
  · rw [same, state]
    exact orderly.attending.retold stop true
  · rw [same, state]
  · rw [slots]
    exact all.trans orderly.queues.tasks
  · rw [slots]
    intro slot member node cause stage
    obtain ⟨event, _, awaits⟩ := orderly.place member
    cases awaits with
    | permit other | creation other | limit other | check other => cases stage.symm.trans other
  · exact Nat.le_of_eq (by simpa using all.length_eq)

theorem apply_noticed (provider : Provider σ) (attending : schedule.state.Attending plan attempt) :
    ∃ stop, (schedule.apply provider plan .noticed).state = { schedule.state with stop } := by
  cases happens : schedule.state.step provider plan .noticed with
  | none => exact ⟨schedule.state.stop, apply_of_none provider plan _ happens attending.heard⟩
  | some next =>
      cases State.step_sound provider plan _ _ _ happens with
      | moves found move => cases move
      | notices => exact ⟨_, apply_of_quiet provider plan happens attending.heard⟩

theorem cancel_winding (provider : Provider σ) (orderly : Orderly plan attempt turns schedule) :
    Winding plan attempt schedule.tasks.length (cancel provider plan schedule) := by
  have told : (schedule.apply provider plan .cancel).state = { schedule.state with cancelled := true } :=
    apply_of_quiet provider plan rfl orderly.attending.heard
  have attending : (schedule.apply provider plan .cancel).state.Attending plan attempt :=
    told ▸ orderly.attending.retold schedule.state.stop true
  obtain ⟨stop, noticed⟩ := apply_noticed provider attending
  rw [told] at noticed
  exact orderly.wakes noticed rfl rfl

theorem apply_deadline (provider : Provider σ) (attending : schedule.state.Attending plan attempt)
    (left : schedule.state.slots ≠ []) (goingOn : schedule.state.stop = none)
    (given : plan.deadline.isSome = true) : (schedule.apply provider plan .deadline).state =
      { schedule.state with stop := some .timeout, cancelled := true } := by
  have pending : schedule.state.isPending = true := by simp [State.isPending, left]
  have happens : schedule.state.step provider plan .deadline =
      some { schedule.state with stop := some .timeout, cancelled := true } := by
    simp [State.step, pending, goingOn, given]
  exact apply_of_quiet provider plan happens attending.heard

theorem expire_winding (provider : Provider σ) (orderly : Orderly plan attempt turns schedule)
    (left : schedule.state.slots ≠ []) (goingOn : schedule.state.stop = none)
    (set : schedule.deadlineAt.isSome = true) :
    Winding plan attempt schedule.tasks.length (expire provider plan schedule) :=
  orderly.wakes (apply_deadline provider orderly.attending left goingOn (orderly.queues.given set)) rfl rfl

/-! ### Turn by turn -/

inductive Underway (plan : Plan) (attempt turns : Nat) (schedule : Schedule σ) : Prop where
  | orderly (orderly : Orderly plan attempt turns schedule)
  | winding (winding : Winding plan attempt turns schedule)

theorem Underway.attending (underway : Underway plan attempt turns schedule) :
    schedule.state.Attending plan attempt := by
  cases underway with
  | orderly orderly => exact orderly.attending
  | winding winding => exact winding.attending

theorem Underway.moves (underway : Underway plan attempt turns schedule) {event : Event}
    (ready : event ∈ schedule.ready) : ∃ number, slotOf? event = some number := by
  cases underway with
  | orderly orderly =>
      obtain ⟨slot, _, awaits⟩ := orderly.queues.awaited event (List.mem_append_left _ ready)
      exact ⟨slot.number, awaits.slotOf⟩
  | winding winding =>
      have among := winding.ready.mem_iff.mp (List.mem_map_of_mem ready)
      obtain ⟨slot, _, number⟩ := List.mem_map.mp among
      exact ⟨slot.number, number.symm⟩

theorem Event.one_le_turns (event : Event) : 1 ≤ event.turns := by
  cases event <;> simp [Event.turns]

theorem length_le_sum {α : Type} (items : List α) (least : Nat) (count : α → Nat)
    (enough : ∀ item, least ≤ count item) : least * items.length ≤ (items.map count).sum := by
  induction items with
  | nil => simp
  | cons head rest ih =>
      have one := enough head
      rw [List.length_cons, List.map_cons, List.sum_cons, Nat.mul_succ]
      omega

-- A slot that waits has its own turn left and the one that it waits for.
theorem length_le_turns (schedule : Schedule σ) :
    schedule.tasks.length + schedule.waiting.length ≤ schedule.turns := by
  have ready := length_le_sum schedule.ready 1 Event.turns Event.one_le_turns
  have timers := length_le_sum schedule.timers 2 (fun timer => timer.event.turns + 1)
    fun timer => Nat.succ_le_succ (Event.one_le_turns timer.event)
  simp only [tasks, waiting, turns, List.length_append, List.length_map] at ready timers ⊢
  omega

theorem can_advance (provider : Provider σ) (plan : Plan) (timed : schedule.timers ≠ []) :
    ∃ later, schedule.advance provider plan = some later := by
  have first (due : Nat) (rest : List Timer) : ∃ moment,
      rest.foldl (fun first timer => earlier first (some timer.due)) (some due) = some moment := by
    induction rest generalizing due with
    | nil => exact ⟨due, rfl⟩
    | cons timer rest ih => exact ih (min due timer.due)
  obtain ⟨timer, rest, timers⟩ := List.exists_cons_of_ne_nil timed
  obtain ⟨moment, first⟩ := first timer.due rest
  have runs : schedule.timers.foldl (fun first timer => earlier first (some timer.due)) none =
      some moment := by
    rw [timers]
    exact first
  have comes (other : Option Nat) : ∃ moment', earlier (some moment) other = some moment' := by
    cases other with
    | none => exact ⟨moment, rfl⟩
    | some other => exact ⟨min moment other, rfl⟩
  unfold advance
  simp only [runs]
  generalize (if (!schedule.state.cancelled) = true then schedule.cancelAt else none) = cancelAt
  generalize (if (!schedule.state.cancelled && schedule.state.stop.isNone) = true then
    schedule.deadlineAt else none) = deadlineAt
  obtain ⟨moment', comes⟩ := comes (earlier cancelAt deadlineAt)
  rw [comes]
  dsimp only
  split
  · exact ⟨_, rfl⟩
  · split <;> exact ⟨_, rfl⟩

theorem advance_underway (provider : Provider σ) (permits : 0 < plan.permits)
    (orderly : Orderly plan attempt (turns + 1) schedule) (idle : schedule.ready = [])
    (left : schedule.state.slots ≠ []) :
    ∃ later, schedule.advance provider plan = some later ∧ Underway plan attempt turns later := by
  have timed := orderly.timed permits idle left
  obtain ⟨later, advances⟩ := can_advance provider plan timed
  refine ⟨later, advances, ?_⟩
  have waits (moment : Nat) : Orderly plan attempt (turns + 1)
      { schedule with now := max schedule.now moment } :=
    ⟨orderly.attending, orderly.goingOn, ⟨orderly.queues.1, orderly.queues.2, orderly.queues.3,
      orderly.queues.4, orderly.queues.5, orderly.queues.6, orderly.queues.7, orderly.queues.8⟩,
      orderly.turns⟩
  -- telling every slot to end costs a turn each, and those that wait have had one for that
  have fewer : schedule.tasks.length ≤ turns := by
    have enough := Nat.le_trans (length_le_turns schedule) orderly.turns
    have waiting : 0 < schedule.waiting.length := by
      have timers := List.length_pos_iff.mpr timed
      simp only [Schedule.waiting, List.length_append, List.length_map]
      omega
    omega
  rcases advance_cases provider plan advances with
    ⟨moment, _, _, rfl⟩ | ⟨moment, _, goingOn, set, rfl⟩ | ⟨moment, ⟨timer, running, due⟩, rfl⟩
  · exact .winding ((cancel_winding provider (waits moment)).weaken fewer)
  · exact .winding ((expire_winding provider (waits moment) left goingOn (by simp [set])).weaken fewer)
  · exact .orderly (ring_orderly orderly running due)

/-- With turns enough an attempt runs until none of its slots is left. -/
theorem runAttempt_ends (provider : Provider σ) (permits : 0 < plan.permits) (fuel : Nat)
    (underway : Underway plan attempt fuel schedule) :
    Follows provider plan schedule (runAttempt provider plan fuel schedule) ∧
      (runAttempt provider plan fuel schedule).state.Attending plan attempt ∧
      (runAttempt provider plan fuel schedule).state.slots = [] := by
  -- the fuel is what is left of the turns, and every slot that is left has one
  induction fuel generalizing schedule with
  | zero =>
      refine ⟨.refl _, ?_⟩
      cases underway with
      | orderly orderly =>
          have none := Nat.le_trans (length_le_turns schedule) orderly.turns
          have same := orderly.queues.tasks.length_eq
          simp only [List.length_map] at same
          exact ⟨orderly.attending, List.length_eq_zero_iff.mp (by simp only [runAttempt]; omega)⟩
      | winding winding =>
          have none := winding.turns
          have same := winding.ready.length_eq
          simp only [List.length_map] at same
          exact ⟨winding.attending, List.length_eq_zero_iff.mp (by simp only [runAttempt]; omega)⟩
  | succ fuel ih =>
      simp only [runAttempt]
      split
      · rename_i event later ready
        have next : Underway plan attempt fuel
            (perform provider plan event { schedule with ready := later }) := by
          cases underway with
          | orderly orderly => exact .orderly (perform_orderly provider orderly ready)
          | winding winding => exact .winding (perform_winding provider winding ready)
        obtain ⟨number, slot⟩ : ∃ number, slotOf? event = some number := by
          exact underway.moves (by simp [ready])
        have taken : Follows provider plan schedule { schedule with ready := later } :=
          .still rfl (Nat.le_refl _) rfl rfl
        obtain ⟨follows, ends⟩ := ih next
        exact ⟨(taken.trans (perform_follows provider plan slot _)).trans follows, ends⟩
      · rename_i idle
        split
        · rename_i ended
          exact ⟨.refl _, underway.attending, List.isEmpty_iff.mp ended⟩
        · rename_i left
          have left : schedule.state.slots ≠ [] := by simpa using left
          cases underway with
          | orderly orderly =>
              obtain ⟨later, advances, next⟩ := advance_underway provider permits orderly idle left
              obtain ⟨follows, ends⟩ := ih next
              simp only [advances]
              exact ⟨(advance_follows provider plan advances).trans follows, ends⟩
          | winding winding =>
              have none := winding.ready.length_eq
              rw [idle] at none
              exact (left (List.length_eq_zero_iff.mp (by simpa using none.symm))).elim

/-! ### Attempt by attempt -/

theorem lined_numbers (schedule : Schedule σ) :
    schedule.lined.ready.map slotOf? = schedule.state.slots.map fun slot => some slot.number := by
  simp only [lined, List.map_map]
  rfl

theorem lined_orderly (attending : schedule.state.Attending plan attempt)
    (goingOn : schedule.state.cancelled = false)
    (queued : ∀ slot ∈ schedule.state.slots, slot.stage = .queued)
    (given : schedule.deadlineAt.isSome = true → plan.deadline.isSome = true) :
    Orderly plan attempt (7 * schedule.state.slots.length) schedule.lined := by
  have tasks : schedule.lined.tasks = schedule.lined.ready := List.append_nil _
  have idle : schedule.state.slots.countP Slot.isAtWork = 0 :=
    List.countP_eq_zero.mpr fun slot member => by simp [Slot.isAtWork, queued slot member]
  refine ⟨attending, goingOn, ⟨?_, ?_, .nil, by simp [lined], .nil, ?_, fun some => (some rfl).elim,
    given⟩, ?_⟩
  · rw [tasks, lined_numbers]
    exact .refl _
  · rw [tasks]
    intro event among
    obtain ⟨slot, member, rfl⟩ := List.mem_map.mp among
    exact ⟨slot, member, .permit (queued slot member)⟩
  · change schedule.state.slots.countP Slot.isAtWork + 0 + 0 ≤ plan.permits
    omega
  · have cost : (Event.turns ∘ fun slot : Slot => Event.start slot.number) = fun _ => 7 := rfl
    simp [turns, lined, cost, Nat.mul_comm]

theorem openAttempt_underway (provider : Provider σ) (attending : schedule.state.Attending plan attempt)
    (left : schedule.state.slots ≠ []) (queued : ∀ slot ∈ schedule.state.slots, slot.stage = .queued)
    (goingOn : schedule.state.stop = none)
    (given : schedule.deadlineAt.isSome = true → plan.deadline.isSome = true) :
    Underway plan attempt (8 * (openAttempt provider plan schedule).state.slots.length + 8)
      (openAttempt provider plan schedule) := by
  rw [openAttempt_lined]
  split
  · rename_i cancelled
    have lined : schedule.lined.state.Attending plan attempt := attending
    obtain ⟨stop, noticed⟩ := apply_noticed provider lined
    refine .winding ⟨?_, ?_, ?_, ?_, ?_⟩
    · rw [noticed]
      exact attending.retold stop schedule.state.cancelled
    · rw [noticed]
      exact cancelled
    · rw [noticed]
      exact .of_eq (lined_numbers schedule)
    · rw [noticed]
      intro slot member node cause stage
      exact nomatch (queued slot member).symm.trans stage
    · have length := congrArg List.length (lined_numbers schedule)
      simp only [List.length_map] at length
      rw [noticed]
      change schedule.lined.ready.length ≤ 8 * schedule.state.slots.length + 8
      omega
  · rename_i uncancelled
    have goesOn : schedule.state.cancelled = false := Bool.eq_false_iff.mpr uncancelled
    have orderly := lined_orderly attending goesOn queued given
    split
    · rename_i past
      have set : schedule.lined.deadlineAt.isSome = true := by
        obtain ⟨time, set, _⟩ : ∃ time, schedule.lined.deadlineAt = some time ∧
            time ≤ schedule.lined.now := by simpa [Option.any_eq_true] using past
        simp [set]
      have slots : (expire provider plan schedule.lined).state.slots = schedule.state.slots := by
        change (schedule.lined.apply provider plan .deadline).state.slots = _
        rw [apply_deadline provider orderly.attending left goingOn (given set)]
        rfl
      have length := orderly.queues.tasks.length_eq
      simp only [List.length_map] at length
      rw [slots]
      refine .winding ((expire_winding provider orderly left goingOn set).weaken ?_)
      change schedule.lined.tasks.length = schedule.state.slots.length at length
      omega
    · exact .orderly (orderly.weaken (by change _ ≤ 8 * schedule.state.slots.length + 8; omega))

end Schedule

theorem State.dueSlots_ne_nil (plan : Plan) {state : State σ}
    (due : state.groups.any GroupProgress.isDue = true) : state.dueSlots plan ≠ [] := by
  intro nothing
  obtain ⟨progress, member, due⟩ := List.any_eq_true.mp due
  obtain ⟨index, present⟩ := List.mem_iff_getElem?.mp member
  have counted := State.count_dueSlots plan state index
  have short : 0 < progress.outcome.shortfall := by
    simp only [GroupProgress.isDue, Bool.and_eq_true, decide_eq_true_eq] at due
    exact due.1
  rw [nothing, present] at counted
  simp only [List.countP_nil, Option.map_some, Option.getD_some, GroupProgress.wanted, due,
    if_pos] at counted
  omega

namespace Schedule

variable {provider : Provider σ} {plan : Plan} {attempt turns : Nat} {schedule : Schedule σ}

/-- Every attempt comes to its end, and after the last of them the launch does. -/
theorem run_finishes (provider : Provider σ) (permits : 0 < plan.permits) (fuel : Nat)
    (sound : schedule.state.Sound plan) (settled : schedule.state.isPending = false)
    (unfinished : schedule.state.finished = false) (counted : schedule.state.attempt ≤ plan.maxAttempts)
    (enough : plan.maxAttempts < schedule.state.attempt + fuel)
    (given : schedule.deadlineAt.isSome = true → plan.deadline.isSome = true) :
    Follows provider plan schedule (run provider plan fuel schedule) ∧
      (run provider plan fuel schedule).state.finished = true := by
  -- the fuel is one more than what is left of the attempts
  induction fuel generalizing schedule with
  | zero => omega
  | succ fuel ih =>
      have happens : schedule.state.step provider plan .proceed = some (schedule.state.proceed plan) := by
        simp [State.step, settled, unfinished]
      have proceeds := apply_follows_of_ne provider plan .proceed schedule (by simp) (by simp)
      obtain ⟨_, quiet⟩ := schedule.state.isPending_eq_false.mp settled
      have step := State.step_sound provider plan _ _ _ happens
      generalize schedule.state.proceed plan = next at happens step
      simp only [run]
      cases step with
      | moves found move => cases move
      | finishes =>
          have ended : (schedule.apply provider plan .proceed).state.finished = true := by
            rw [apply_of_quiet provider plan happens quiet]
          rw [if_pos ended]
          exact ⟨proceeds, ended⟩
      | begins settled unfinished goingOn fewer due =>
          have begun := apply_of_quiet provider plan happens quiet
          have deadline : (schedule.apply provider plan .proceed).deadlineAt.isSome = true →
            plan.deadline.isSome = true := given
          have opens := openAttempt_follows provider plan (schedule.apply provider plan .proceed)
          generalize schedule.apply provider plan .proceed = next at *
          have attending : next.state.Attending plan (schedule.state.attempt + 1) :=
            begun.symm ▸ ⟨sound.begins unfinished, quiet, rfl, unfinished⟩
          have left : next.state.slots ≠ [] := by
            rw [begun]
            exact State.dueSlots_ne_nil plan due
          have queued : ∀ slot ∈ next.state.slots, slot.stage = .queued := by
            rw [begun]
            intro slot member
            obtain ⟨_, _, _, _, queued⟩ := State.mem_dueSlots member
            exact queued
          have unstopped := State.stop_of_closing goingOn
          have goesOn : next.state.stop = none := by
            rw [begun]
            exact unstopped
          have underway := openAttempt_underway provider attending left queued goesOn deadline
          obtain ⟨follows, attending, slots⟩ := runAttempt_ends provider permits _ underway
          have so_far := (proceeds.trans opens).trans follows
          rw [if_neg (by rw [begun]; simpa [State.beginAttempt] using unfinished)]
          have settled := (State.isPending_eq_false _).mpr ⟨slots, attending.heard⟩
          obtain ⟨rest, finished⟩ := ih attending.sound settled
            attending.unfinished (by rw [attending.attempt]; omega) (by rw [attending.attempt]; omega)
            (by rw [so_far.deadlineAt]; exact given)
          exact ⟨so_far.trans rest, finished⟩

end Schedule

/-- A launch completes: what it answers is the answer of a run of steps that has finished,
in which it is not cancelled, and the deadline does not pass, before it is time. -/
theorem run_completes (provider : Provider σ) (topology : Topology) (bootstrap : RoleSet → Script)
    (options : LaunchOptions) (now : Nat) (start : σ) :
    ∃ trace final ended,
      Completes provider (plan topology bootstrap options) (options.cancelAt.any (· ≤ now)) start
        trace final ∧
      run provider topology bootstrap options now start =
        ((final.verdict provider (plan topology bootstrap options)).1, ended,
          (final.verdict provider (plan topology bootstrap options)).2) ∧
      now ≤ ended ∧ ∀ moment ∈ trace,
        (moment.event = .cancel → ∃ time, options.cancelAt = some time ∧ time ≤ ended) ∧
        (moment.event = .deadline → ∃ millis, options.deadline = some millis ∧ now + millis ≤ ended) := by
  have permits : 0 < (plan topology bootstrap options).permits := Nat.le_max_right _ _
  have sound : (schedule (plan topology bootstrap options) options now start).state.Sound
      (plan topology bootstrap options) := State.sound_initial _ _ _
  obtain ⟨⟨⟨trace, steps, timely⟩, later, cancelAt, deadlineAt⟩, finished⟩ :=
    Schedule.run_finishes provider permits ((plan topology bootstrap options).maxAttempts + 1) sound
      rfl rfl (Nat.zero_le _) (by simp [schedule, State.initial]) (by simp [schedule])
  refine ⟨trace, _, _, ⟨steps, finished⟩, rfl, later,
    fun moment member => ⟨fun same => ?_, fun same => ?_⟩⟩
  · obtain ⟨time, set, past⟩ := (timely moment member).1 same
    exact ⟨time, cancelAt.symm.trans set, past⟩
  · obtain ⟨time, set, past⟩ := (timely moment member).2 same
    obtain ⟨millis, given, rfl⟩ := Option.map_eq_some_iff.mp (deadlineAt.symm.trans set)
    exact ⟨millis, given, past⟩

end Muster.Launch
