import Muster.Proofs.Launch.Running

/-!
What becomes of a machine. One that passes its readiness check is among the healthy machines
of its group from then on, behind those that passed before it. One that fails the check, or
whose check is interrupted, is spoilt: its slot destroys it, or cannot, and the report names it
as destroyed or orphaned. If the request to destroy it crashes, the slot ends without a word of
the machine; the group counts a failure, and no list has the machine.
-/

namespace Muster.Launch

variable {σ : Type} {provider : Provider σ} {plan : Plan}

/-! ### Machines that pass -/

def passedAt (provider : Provider σ) (index : Nat) (moment : Moment σ) : List Instance :=
  match moment.event, moment.before with
  | .checked number, before =>
      match before.slot? number with
      | none => []
      | some slot =>
          match slot.stage with
          | .checking node _ =>
              match (provider.checkReady node before.provider).1 with
              | .ok () => if slot.group = index then [.ofNode node slot.spec.roles] else []
              | .error _ => []
          | _ => []
  | _, _ => []

def passed (provider : Provider σ) (index : Nat) (trace : List (Moment σ)) : List Instance :=
  trace.flatMap (passedAt provider index)

def Next.arrivals (slot : Slot) : Next → List Arrival
  | .goes _ => []
  | .ends result => [⟨slot.group, result⟩]

def Arrival.machines (index : Nat) (arrival : Arrival) : List Instance :=
  match arrival.result with
  | .healthy machine => if arrival.group = index then [machine] else []
  | .failed .. => []

namespace State

theorem moved_inbox (state : State σ) (slot : Slot) (answered : σ) (next : Next) :
    (state.moved slot answered next).inbox = state.inbox ++ next.arrivals slot := by
  cases next with
  | goes stage => exact (List.append_nil _).symm
  | ends result => rfl

-- A slot ends as healthy just when its machine passes.
theorem passedAt_of_move {state : State σ} {slot : Slot} {event : Event} {answered : σ} {next : Next}
    (found : state.slot? slot.number = some slot)
    (move : Move provider plan state slot event answered next) (index : Nat) :
    passedAt provider index ⟨state, event⟩ = (next.arrivals slot).flatMap (Arrival.machines index) := by
  cases move with
  | begins | crashesEarly | creates | isRefused | crashesLate | expires | leavesLine | stopsCreating
  | stopsChecking | destroys | abandons => rfl
  | isReady stage goingOn answer =>
      simp [passedAt, found, stage, answer, Next.arrivals, Arrival.machines]
  | isUnready stage goingOn answer => simp [passedAt, found, stage, answer, Next.arrivals]

/-- The healthy machines of every group, with those that have not been read of, are the ones that
have passed, in order. -/
def HoldsPassed (provider : Provider σ) (past : List (Moment σ)) (state : State σ) : Prop :=
  ∀ (index : Nat) progress, state.groups[index]? = some progress →
    progress.healthy ++ state.inbox.flatMap (Arrival.machines index) = passed provider index past

theorem HoldsPassed.step {past : List (Moment σ)} {before after : State σ} {event : Event}
    (holds : before.HoldsPassed provider past) (step : Step provider plan before event after) :
    after.HoldsPassed provider (past ++ [⟨before, event⟩]) := by
  intro index progress present
  rw [passed, List.flatMap_append, List.flatMap_singleton]
  cases step with
  | moves found move =>
      rw [moved_groups] at present
      rw [moved_inbox, List.flatMap_append, ← List.append_assoc, holds index progress present,
        passedAt_of_move found move]
      rfl
  | receives inbox =>
      rename_i arrival rest
      rw [receive_groups, List.getElem?_modify] at present
      obtain ⟨old, there, same⟩ := Option.map_eq_some_iff.mp present
      have early := holds index old there
      rw [inbox, List.flatMap_cons] at early
      rw [receive_inbox]
      refine Eq.trans ?_ (early.trans (List.append_nil _).symm)
      rw [← List.append_assoc]
      congr 1
      rw [← same]
      by_cases here : arrival.group = index
      · cases result : arrival.result <;> simp [here, result, GroupProgress.receive, Arrival.machines]
      · cases result : arrival.result <;> simp [here, result, Arrival.machines]
  | isCancelled | notices | runsOut | finishes =>
      exact (holds index progress present).trans (List.append_nil _).symm
  | begins =>
      simp only [beginAttempt, List.getElem?_map] at present
      obtain ⟨old, there, rfl⟩ := Option.map_eq_some_iff.mp present
      rw [GroupProgress.launch_healthy]
      exact (holds index old there).trans (List.append_nil _).symm

-- A slot that crashes has not passed its machine.
theorem HoldsPassed.crashes {past : List (Moment σ)} {state : State σ} (holds : state.HoldsPassed provider past)
    (slot : Slot) (left : σ) (cause : String) :
    (state.moved slot left (.fails cause)).HoldsPassed provider past := by
  intro index progress present
  rw [moved_groups] at present
  rw [moved_inbox, List.flatMap_append, ← List.append_assoc, holds index progress present]
  exact List.append_nil _

end State

theorem flatMap_eq_range {α β : Type} {items : List α} {ofItem : α → List β} {ofIndex : Nat → List β}
    (same : ∀ (index : Nat) item, items[index]? = some item → ofItem item = ofIndex index) :
    items.flatMap ofItem = (List.range items.length).flatMap ofIndex := by
  rw [List.flatMap_def, List.flatMap_def]
  congr 1
  apply List.ext_getElem
  · simp
  · intro index inside _
    rw [List.length_map] at inside
    simpa using same index _ (List.getElem?_eq_getElem inside)

section

variable {cancelled : Bool} {start : σ} {changes : List (Change σ)} {final : State σ}
  (course : Course provider plan (.initial plan cancelled start) changes final)
  (finished : final.finished = true)

include course finished

/-- The machines that are healthy when a launch is over are those that have passed, group by group. -/
theorem Course.healthy : final.healthy =
    (List.range plan.topology.groups.length).flatMap fun index => passed provider index (moments changes) := by
  have holds : final.HoldsPassed provider (moments changes) := by
    refine course.keeps_moments (fun past state => state.HoldsPassed provider past)
      (fun _ _ _ _ _ holds step => holds.step step) (fun _ _ slot left _ holds _ _ => holds.crashes slot left _)
      (State.sound_initial plan cancelled start) ?_
    intro index progress present
    simp only [State.initial, List.getElem?_map] at present
    obtain ⟨group, _, rfl⟩ := Option.map_eq_some_iff.mp present
    rfl
  obtain ⟨_, quiet⟩ := final.isPending_eq_false.mp (course.sound.settled finished)
  rw [← course.sound.size]
  apply flatMap_eq_range
  intro index progress present
  have all := holds index progress present
  rwa [quiet, List.flatMap_nil, List.append_nil] at all

-- If no two machines share an id, none is in two places, or lost and in one.
theorem Course.nodup (distinct : (handedOver provider changes).Nodup) :
    (final.healthy.map Instance.id ++ (final.destroyed ++ final.orphaned) ++ lost changes).Nodup := by
  have held := course.held_perm.nodup_iff.mpr distinct
  rwa [State.held_of_settled (course.sound.settled finished), List.append_assoc (final.healthy.map _)] at held

theorem Course.apart (distinct : (handedOver provider changes).Nodup) {id : String}
    (healthy : id ∈ final.healthy.map Instance.id) :
    id ∉ final.destroyed ++ final.orphaned ∧ id ∉ lost changes := by
  obtain ⟨places, _, apart⟩ := List.nodup_append.mp (course.nodup finished distinct)
  exact ⟨fun among => (List.nodup_append.mp places).2.2 _ healthy _ among rfl,
    fun gone => apart _ (List.mem_append_left _ healthy) _ gone rfl⟩

end

/-! ### Machines that are spoilt -/

inductive State.Spoilt (state : State σ) (id : String) : Prop where
  | leaving {slot : Slot} {node : Node} {cause : String} (member : slot ∈ state.slots)
      (stage : slot.stage = .destroying node cause) (same : node.id = id)
  | arriving {arrival : Arrival} (member : arrival ∈ state.inbox)
      (among : id ∈ arrival.result.destroyed ++ arrival.result.orphaned)
  | known (among : id ∈ state.destroyed ++ state.orphaned)

namespace State

variable {id : String}

-- A machine stays spoilt when a slot moves that does not have it.
theorem spoilt_moved_or {state : State σ} (sound : state.Sound plan) {slot : Slot} (member : slot ∈ state.slots)
    (answered : σ) (next : Next) (spoilt : state.Spoilt id) : (state.moved slot answered next).Spoilt id ∨
      ∃ node cause, slot.stage = .destroying node cause ∧ node.id = id := by
  cases spoilt with
  | leaving among stage same =>
      rcases List.mem_cons.mp ((slots_perm sound.distinct member).mem_iff.mp among) with rfl | other
      · exact .inr ⟨_, _, stage, same⟩
      · have slots := moved_slots_perm sound member answered next
        exact .inl (.leaving (slots.mem_iff.mpr (List.mem_append_right _ other)) stage same)
  | arriving among stated =>
      refine .inl (.arriving ?_ stated)
      rw [moved_inbox]
      exact List.mem_append_left _ among
  | known among => exact .inl (.known (by cases next <;> exact among))

theorem spoilt_moved {state : State σ} (sound : state.Sound plan) {slot : Slot} {event : Event}
    {answered : σ} {next : Next} (found : state.slot? slot.number = some slot)
    (move : Move provider plan state slot event answered next) (spoilt : state.Spoilt id) :
    (state.moved slot answered next).Spoilt id := by
  rcases spoilt_moved_or sound (mem_of_slot? found) answered next spoilt with still | ⟨node, cause, stage, same⟩
  · exact still
  · -- a slot that is to destroy its machine can make no other move
    cases move with
    | destroys staged answer =>
        rw [staged] at stage
        cases stage
        exact .arriving (List.mem_append_right _ List.mem_cons_self) (by simp [SlotResult.destroyed, same])
    | abandons staged answer =>
        rw [staged] at stage
        cases stage
        exact .arriving (List.mem_append_right _ List.mem_cons_self) (by simp [SlotResult.orphaned, same])
    | begins staged | crashesEarly staged | creates staged | isRefused staged | crashesLate staged
    | expires staged | isReady staged | isUnready staged | leavesLine staged | stopsCreating staged
    | stopsChecking staged =>
        rw [staged] at stage
        cases stage

theorem spoilt_receive {state : State σ} {arrival : Arrival} {rest : List Arrival}
    (inbox : state.inbox = arrival :: rest) (spoilt : state.Spoilt id) :
    ({ state with inbox := rest }.receive arrival).Spoilt id := by
  cases spoilt with
  | leaving member stage same =>
      refine .leaving ?_ stage same
      rw [receive_slots]
      exact member
  | arriving member among =>
      rcases List.mem_cons.mp (inbox ▸ member) with rfl | later
      · refine .known ?_
        rw [receive_eq]
        simp only [List.mem_append] at among ⊢
        exact among.imp .inr .inr
      · refine .arriving ?_ among
        rw [receive_inbox]
        exact later
  | known among =>
      refine .known ?_
      rw [receive_eq]
      simp only [List.mem_append] at among ⊢
      exact among.imp .inl .inl

theorem spoilt_step {before after : State σ} {event : Event} (sound : before.Sound plan)
    (step : Step provider plan before event after) (spoilt : before.Spoilt id) : after.Spoilt id := by
  cases step with
  | moves found move => exact spoilt_moved sound found move spoilt
  | receives inbox => exact spoilt_receive inbox spoilt
  | isCancelled | notices | runsOut | finishes =>
      cases spoilt with
      | leaving member stage same => exact .leaving member stage same
      | arriving member among => exact .arriving member among
      | known among => exact .known among
  | begins settled =>
      obtain ⟨slots, inbox⟩ := before.isPending_eq_false.mp settled
      cases spoilt with
      | leaving member => exact (List.not_mem_nil (slots ▸ member)).elim
      | arriving member => exact (List.not_mem_nil (inbox ▸ member)).elim
      | known among => exact .known among

theorem Spoilt.of_settled {state : State σ} (spoilt : state.Spoilt id) (settled : state.isPending = false) :
    id ∈ state.destroyed ++ state.orphaned := by
  obtain ⟨slots, inbox⟩ := state.isPending_eq_false.mp settled
  cases spoilt with
  | leaving member => exact (List.not_mem_nil (slots ▸ member)).elim
  | arriving member => exact (List.not_mem_nil (inbox ▸ member)).elim
  | known among => exact among

end State

/-! ### Machines that are abandoned -/

structure Change.Abandons (change : Change σ) (slot : Slot) (id : String) : Prop where
  crash : change.event = none
  found : change.before.slot? slot.number = some slot
  gone : change.after.slot? slot.number = none
  destroying : ∃ node cause, slot.stage = .destroying node cause ∧ node.id = id

theorem Change.Abandons.mem_lost {changes : List (Change σ)} {change : Change σ} {slot : Slot} {id : String}
    (abandons : change.Abandons slot id) (member : change ∈ changes) : id ∈ Launch.lost changes := by
  obtain ⟨node, cause, stage, rfl⟩ := abandons.destroying
  refine List.mem_flatMap.mpr ⟨change, member, ?_⟩
  simp only [Change.lost, abandons.crash, List.mem_flatMap, List.mem_filter]
  refine ⟨slot, ⟨State.mem_of_slot? abandons.found, by rw [abandons.gone]; rfl⟩, ?_⟩
  rw [Slot.ids, stage]
  exact List.mem_cons_self

/-- A spoilt machine stays so, or is abandoned. -/
theorem Course.spoilt {before after : State σ} {changes : List (Change σ)} {id : String}
    (course : Course provider plan before changes after) (sound : before.Sound plan) (spoilt : before.Spoilt id) :
    after.Spoilt id ∨ ∃ change ∈ changes, ∃ slot, change.Abandons slot id := by
  refine (course.keeps_with (fun past state => state.Sound plan ∧
    (state.Spoilt id ∨ ∃ change ∈ past, ∃ slot, change.Abandons slot id)) ?_ [] ⟨sound, .inl spoilt⟩).2
  rintro past before event after ⟨sound, kept⟩ happens
  refine ⟨sound.happens happens, ?_⟩
  rcases kept with spoilt | ⟨change, member, abandoned⟩
  · cases happens with
    | steps happens => exact .inl (State.spoilt_step sound (State.step_sound provider plan _ _ _ happens) spoilt)
    | crashes found working left =>
        refine (State.spoilt_moved_or sound (State.mem_of_slot? found) left _ spoilt).imp_right fun destroying => ?_
        exact ⟨_, List.mem_append_right _ List.mem_cons_self, _, rfl, found, State.slot?_of_ended left _, destroying⟩
  · exact .inr ⟨change, List.mem_append_left _ member, abandoned⟩

namespace State

-- The slot that is gone after a crash is the one that crashed.
theorem moved_of_crash {before after : State σ} {slot : Slot} (sound : before.Sound plan)
    (happens : Happens provider plan before none after) (found : before.slot? slot.number = some slot)
    (gone : after.slot? slot.number = none) : ∃ left, after = before.moved slot left (.fails crashed) := by
  cases happens with
  | crashes there working left =>
      rename_i other
      by_cases same : slot.number = other.number
      · rw [same, there] at found
        exact ⟨left, Option.some.inj found ▸ rfl⟩
      · have sound := sound.moved (mem_of_slot? there) left (.fails crashed)
        have stays : slot ∈ before.others other :=
          List.mem_filter.mpr ⟨mem_of_slot? found, by simpa using same⟩
        exact nomatch gone.symm.trans (slot?_of_mem sound.distinct stays)

inductive FailsWith (state : State σ) (group : Nat) (cause : String) : Prop where
  | arriving {destroyed orphaned : Option String}
      (member : ⟨group, .failed cause destroyed orphaned⟩ ∈ state.inbox)
  | counted {progress : GroupProgress} (present : state.groups[group]? = some progress)
      (member : cause ∈ progress.outcome.causes)

variable {group : Nat} {cause : String}

theorem FailsWith.moved {state : State σ} (fails : state.FailsWith group cause) (slot : Slot) (answered : σ)
    (next : Next) : (state.moved slot answered next).FailsWith group cause := by
  cases fails with
  | arriving member =>
      apply FailsWith.arriving
      rw [moved_inbox]
      exact List.mem_append_left _ member
  | counted present member =>
      refine .counted ?_ member
      rw [moved_groups]
      exact present

theorem FailsWith.receives {state : State σ} {arrival : Arrival} {rest : List Arrival}
    (sound : state.Sound plan) (inbox : state.inbox = arrival :: rest) (fails : state.FailsWith group cause) :
    ({ state with inbox := rest }.receive arrival).FailsWith group cause := by
  have later {progress : GroupProgress} (present : state.groups[group]? = some progress) :
      ({ state with inbox := rest }.receive arrival).groups[group]? =
        some (if arrival.group = group then progress.receive arrival.result else progress) := by
    rw [receive_groups, List.getElem?_modify, present]
    rfl
  cases fails with
  | arriving member =>
      rcases List.mem_cons.mp (inbox ▸ member) with rfl | among
      · have inside : group < state.groups.length := sound.size ▸ sound.arrivals _ member
        refine .counted (later (List.getElem?_eq_getElem inside)) ?_
        simp [GroupProgress.receive]
      · apply FailsWith.arriving
        rw [receive_inbox]
        exact among
  | counted present member =>
      refine .counted (later present) ?_
      split
      · cases arrival.result with
        | healthy machine => exact member
        | failed other destroyed orphaned => exact List.mem_append_left _ member
      · exact member

theorem FailsWith.happens {before after : State σ} {event : Option Event} (sound : before.Sound plan)
    (fails : before.FailsWith group cause) (happens : Happens provider plan before event after) :
    after.FailsWith group cause := by
  cases happens with
  | crashes found working left => exact fails.moved _ left _
  | steps happens =>
      cases step_sound provider plan _ _ _ happens with
      | moves found move => exact fails.moved _ _ _
      | receives inbox => exact fails.receives sound inbox
      | isCancelled | notices | runsOut | finishes =>
          cases fails with
          | arriving member => exact .arriving member
          | counted present member => exact .counted present member
      | begins =>
          cases fails with
          | arriving member => exact .arriving member
          | @counted progress present member =>
              have launched : (before.beginAttempt plan).groups[group]? = some progress.launch := by
                simp [beginAttempt, present]
              refine .counted launched ?_
              unfold GroupProgress.launch
              split <;> exact member

end State

/-- A group that has lost a slot to a crash has counted the failure when the launch is over. -/
theorem Course.counts_abandoned {cancelled : Bool} {start : σ} {changes : List (Change σ)} {final : State σ}
    (course : Course provider plan (.initial plan cancelled start) changes final)
    (finished : final.finished = true) {change : Change σ} {slot : Slot} {id : String}
    (member : change ∈ changes) (abandons : change.Abandons slot id) :
    ∃ outcome, final.outcomes[slot.group]? = some outcome ∧ State.crashed ∈ outcome.causes := by
  obtain ⟨past, later, rfl, early, happens, late⟩ := course.around member
  rw [abandons.crash] at happens
  obtain ⟨left, ends⟩ := State.moved_of_crash early.sound happens abandons.found abandons.gone
  have begins : change.after.FailsWith slot.group State.crashed := by
    rw [ends]
    exact .arriving (List.mem_append_right _ List.mem_cons_self)
  have kept := late.keeps_with (fun _ state => state.Sound plan ∧ state.FailsWith slot.group State.crashed)
    (fun _ _ _ _ kept happens => ⟨kept.1.happens happens, kept.2.happens kept.1 happens⟩) []
    ⟨early.sound.happens happens, begins⟩
  cases kept.2 with
  | arriving waits =>
      obtain ⟨_, inbox⟩ := final.isPending_eq_false.mp (course.sound.settled finished)
      exact (List.not_mem_nil (inbox ▸ waits)).elim
  | @counted progress present counted =>
      refine ⟨progress.outcome, ?_, counted⟩
      rw [State.outcomes, List.getElem?_map, present, Option.map_some]

end Muster.Launch
