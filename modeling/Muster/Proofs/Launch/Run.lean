import Mathlib
import Muster.Proofs.Launch.Step

/-!
Runs of a launch: any number of steps, in any order in which they can happen. A run
keeps the trace of what it did, so that a theorem can speak of what happened as well
as of how it ended. A run that has finished gives the answer of its last state.
-/

namespace Muster.Launch

variable {σ : Type}

structure Moment (σ : Type) where
  before : State σ
  event : Event

inductive Run (provider : Provider σ) (plan : Plan) : State σ → List (Moment σ) → State σ → Prop where
  | refl (state : State σ) : Run provider plan state [] state
  | next {before middle after : State σ} {event : Event} {rest : List (Moment σ)}
      (happens : before.step provider plan event = some middle)
      (later : Run provider plan middle rest after) :
      Run provider plan before (⟨before, event⟩ :: rest) after

namespace Run

variable {provider : Provider σ} {plan : Plan} {before middle after : State σ}
  {trace first second : List (Moment σ)}

theorem single {event : Event} (happens : before.step provider plan event = some after) :
    Run provider plan before [⟨before, event⟩] after :=
  .next happens (.refl after)

theorem append (early : Run provider plan before first middle)
    (late : Run provider plan middle second after) :
    Run provider plan before (first ++ second) after := by
  induction early with
  | refl => exact late
  | next happens _ ih => exact .next happens (ih late)

-- What every step keeps is kept by a run; it may speak of everything so far.
theorem keeps_with (holds : List (Moment σ) → State σ → Prop)
    (kept : ∀ past before event after, holds past before → Step provider plan before event after →
      holds (past ++ [⟨before, event⟩]) after)
    (run : Run provider plan before trace after) (past : List (Moment σ))
    (start : holds past before) : holds (past ++ trace) after := by
  induction run generalizing past with
  | refl => simpa using start
  | next happens _ ih =>
      have stepped := kept past _ _ _ start (State.step_sound provider plan _ _ _ happens)
      simpa [List.append_assoc] using ih _ stepped

theorem keeps (holds : State σ → Prop)
    (kept : ∀ before event after, holds before → Step provider plan before event after → holds after)
    (run : Run provider plan before trace after) (start : holds before) : holds after :=
  run.keeps_with (fun _ state => holds state) (fun _ => kept) [] start

end Run

structure Completes (provider : Provider σ) (plan : Plan) (cancelled : Bool) (start : σ)
    (trace : List (Moment σ)) (final : State σ) : Prop where
  run : Run provider plan (.initial plan cancelled start) trace final
  finished : final.finished = true

def State.replay (provider : Provider σ) (plan : Plan) : List Event → State σ → Option (State σ)
  | [], state => some state
  | event :: rest, state => (state.step provider plan event).bind (replay provider plan rest)

def State.moments (provider : Provider σ) (plan : Plan) : List Event → State σ → List (Moment σ)
  | [], _ => []
  | event :: rest, state =>
      ⟨state, event⟩ :: ((state.step provider plan event).map (moments provider plan rest)).getD []

theorem Run.of_replay {provider : Provider σ} {plan : Plan} {events : List Event} {state final : State σ}
    (happens : state.replay provider plan events = some final) :
    Run provider plan state (state.moments provider plan events) final := by
  induction events generalizing state with
  | nil => exact Option.some.inj happens ▸ .refl state
  | cons event rest ih =>
      obtain ⟨next, first, later⟩ := Option.bind_eq_some_iff.mp happens
      simp only [State.moments, first, Option.map_some, Option.getD_some]
      exact .next first (ih later)

-- A topology of simulated machines with nothing to it but its groups.
def plainTopology (groups : List InstanceGroup) (retries : UInt32) : Topology where
  clusterName := "small"
  serviceName := none
  clusterUser := none
  groups
  maxStartupRetries := retries
  maxConcurrentLaunches := 2
  terminateAllOnFailure := false
  provider := "stub"
  endpoint := none
  identity := none
  credential := none
  blobStore := ⟨none, none, none, none, none, none⟩
  store := .memory
  storeContainer := none
  storeBlob := none
  clientCidrs := []
  firewallRules := .empty
  env := .empty
  roles := .empty
  hostnamePrefix := none
  hostnameSuffix := none
  jdkInstallUrl := none
  kerberosRealm := none

namespace Plan

-- The number of attempts is what 32 bits hold of one more than the retries.
theorem maxAttempts_eq (plan : Plan) :
    plan.maxAttempts = (plan.topology.maxStartupRetries.toNat + 1) % 2 ^ 32 :=
  UInt32.toNat_add _ _

theorem maxAttempts_exact_iff (plan : Plan) :
    plan.maxAttempts = plan.topology.maxStartupRetries.toNat + 1 ↔
      plan.topology.maxStartupRetries.toNat + 1 < 2 ^ 32 := by
  rw [plan.maxAttempts_eq]
  exact Nat.mod_eq_iff_lt (by decide)

end Plan

/-! ### Slots and groups of a state

Slots have numbers of their own and belong to groups that there are, and the groups
are those of the topology. Nothing is left to hear of in a launch that has finished. -/

namespace GroupProgress

structure Of (group : InstanceGroup) (progress : GroupProgress) : Prop where
  roles : progress.outcome.roles = group.roles
  target : progress.outcome.target = group.target.toNat
  required : progress.outcome.required = group.required.toNat

theorem of_new (group : InstanceGroup) : Of group (.new group) := ⟨rfl, rfl, rfl⟩

theorem Of.launch {group : InstanceGroup} {progress : GroupProgress} (of : Of group progress) :
    Of group progress.launch := by
  unfold GroupProgress.launch
  split
  · exact ⟨of.roles, of.target, of.required⟩
  · exact of

theorem Of.receive {group : InstanceGroup} {progress : GroupProgress} (of : Of group progress)
    (result : SlotResult) : Of group (progress.receive result) := by
  cases result with
  | healthy machine => exact ⟨of.roles, of.target, of.required⟩
  | failed cause destroyed orphaned => exact ⟨of.roles, of.target, of.required⟩

@[simp] theorem launch_succeeded (progress : GroupProgress) :
    progress.launch.outcome.succeeded = progress.outcome.succeeded := by
  unfold launch
  split <;> rfl

@[simp] theorem launch_required (progress : GroupProgress) :
    progress.launch.outcome.required = progress.outcome.required := by
  unfold launch
  split <;> rfl

@[simp] theorem launch_healthy (progress : GroupProgress) : progress.launch.healthy = progress.healthy := by
  unfold launch
  split <;> rfl

@[simp] theorem receive_attempts (progress : GroupProgress) (result : SlotResult) :
    (progress.receive result).outcome.attempts = progress.outcome.attempts := by
  cases result <;> rfl

end GroupProgress

namespace SlotResult

def destroyed : SlotResult → List String
  | .healthy _ => []
  | .failed _ destroyed _ => destroyed.toList

def orphaned : SlotResult → List String
  | .healthy _ => []
  | .failed _ _ orphaned => orphaned.toList

end SlotResult

namespace State

structure Sound (plan : Plan) (state : State σ) : Prop where
  distinct : (state.slots.map Slot.number).Nodup
  numbered : ∀ slot ∈ state.slots, slot.number < state.issued
  size : state.groups.length = plan.topology.groups.length
  groups : ∀ (index : Nat) group progress, plan.topology.groups[index]? = some group →
    state.groups[index]? = some progress → GroupProgress.Of group progress
  specs : ∀ slot ∈ state.slots, ∃ group, plan.topology.groups[slot.group]? = some group ∧
    slot.spec = plan.spec group.roles
  arrivals : ∀ arrival ∈ state.inbox, arrival.group < plan.topology.groups.length
  settled : state.finished = true → state.isPending = false

def others (state : State σ) (slot : Slot) : List Slot :=
  state.slots.filter fun other => other.number ≠ slot.number

-- A slot stands among the others, in whatever place.
theorem slots_perm {state : State σ} {slot : Slot} (distinct : (state.slots.map Slot.number).Nodup)
    (member : slot ∈ state.slots) : state.slots.Perm (slot :: state.others slot) := by
  unfold others
  generalize state.slots = slots at distinct member
  induction slots with
  | nil => cases member
  | cons head rest ih =>
      simp only [List.map_cons, List.nodup_cons, List.mem_map, not_exists, not_and] at distinct
      rcases List.mem_cons.mp member with same | later
      · subst same
        have apart : rest.filter (fun other => decide (other.number ≠ slot.number)) = rest := by
          apply List.filter_eq_self.mpr
          intro other inRest
          simpa using distinct.1 other inRest
        rw [List.filter_cons_of_neg (by simp), apart]
      · have different : head.number ≠ slot.number := fun same => distinct.1 slot later same.symm
        rw [List.filter_cons_of_pos (by simpa using different)]
        exact ((ih distinct.2 later).cons head).trans (List.Perm.swap slot head _)

theorem setStage_slots_perm {state : State σ} {slot : Slot} (stage : Stage)
    (distinct : (state.slots.map Slot.number).Nodup) (member : slot ∈ state.slots) :
    (state.setStage slot.number stage).slots.Perm ({ slot with stage } :: state.others slot) := by
  have moved := (slots_perm distinct member).map fun other =>
    if other.number = slot.number then { other with stage } else other
  have kept : (state.others slot).map (fun other =>
      if other.number = slot.number then { other with stage } else other) = state.others slot := by
    refine (List.map_congr_left ?_).trans (List.map_id _)
    intro other among
    have different : other.number ≠ slot.number := by simpa using (List.mem_filter.mp among).2
    simp [different]
  rw [List.map_cons, kept] at moved
  simpa [setStage] using moved

theorem setStage_numbers (state : State σ) (number : Nat) (stage : Stage) :
    (state.setStage number stage).slots.map Slot.number = state.slots.map Slot.number := by
  simp only [setStage, List.map_map]
  apply List.map_congr_left
  intro slot _
  simp only [Function.comp_apply]
  split <;> rfl

/-! ### The slots of a new attempt -/

theorem dueSlots_numbers (plan : Plan) (state : State σ) :
    (state.dueSlots plan).map Slot.number =
      List.range' state.issued (state.dueSlots plan).length := by
  simp only [dueSlots, List.map_map, List.length_map, List.length_zipIdx]
  exact List.zipIdx_map_snd state.issued _

theorem mem_dueSlots {plan : Plan} {state : State σ} {slot : Slot}
    (member : slot ∈ state.dueSlots plan) :
    ∃ progress, state.groups[slot.group]? = some progress ∧ progress.isDue = true ∧
      slot.spec = plan.spec progress.outcome.roles ∧ slot.stage = .queued := by
  simp only [dueSlots, List.mem_map] at member
  obtain ⟨⟨⟨group, spec⟩, number⟩, place, same⟩ := member
  have wanted := List.fst_mem_of_mem_zipIdx place
  simp only [List.mem_flatMap, List.mem_filter] at wanted
  obtain ⟨⟨progress, index⟩, ⟨among, due⟩, copies⟩ := wanted
  obtain ⟨rfl, rfl⟩ := Prod.mk.inj (List.eq_of_mem_replicate copies)
  subst same
  exact ⟨progress, List.mem_zipIdx_iff_getElem?.mp among, due, rfl, rfl⟩

end State

def GroupProgress.wanted (progress : GroupProgress) : Nat :=
  if progress.isDue then progress.outcome.shortfall else 0

def wantedGroups (groups : List GroupProgress) (first : Nat) : List Nat :=
  ((groups.zipIdx first).filter fun (progress, _) => progress.isDue).flatMap
    fun (progress, index) => List.replicate progress.outcome.shortfall index

theorem wantedGroups_cons (progress : GroupProgress) (rest : List GroupProgress) (first : Nat) :
    wantedGroups (progress :: rest) first =
      List.replicate progress.wanted first ++ wantedGroups rest (first + 1) := by
  by_cases due : progress.isDue = true
  · simp [wantedGroups, GroupProgress.wanted, List.zipIdx_cons, due]
  · simp [wantedGroups, GroupProgress.wanted, List.zipIdx_cons, due]

theorem length_wantedGroups (groups : List GroupProgress) (first : Nat) :
    (wantedGroups groups first).length = (groups.map GroupProgress.wanted).sum := by
  induction groups generalizing first with
  | nil => rfl
  | cons progress rest ih => simp [wantedGroups_cons, ih]

theorem count_wantedGroups_before (groups : List GroupProgress) (first index : Nat)
    (before : index < first) : (wantedGroups groups first).count index = 0 := by
  induction groups generalizing first with
  | nil => rfl
  | cons progress rest ih =>
      rw [wantedGroups_cons, List.count_append, ih (first + 1) (by omega), List.count_replicate]
      simp [show ¬ first = index by omega]

theorem count_wantedGroups (groups : List GroupProgress) (first index : Nat) :
    (wantedGroups groups first).count (first + index) =
      ((groups[index]?).map GroupProgress.wanted).getD 0 := by
  induction groups generalizing first index with
  | nil => rfl
  | cons progress rest ih =>
      rw [wantedGroups_cons, List.count_append, List.count_replicate]
      cases index with
      | zero => simp [count_wantedGroups_before rest (first + 1) first (by omega)]
      | succ index =>
          have moved := ih (first + 1) index
          rw [show first + 1 + index = first + (index + 1) by omega] at moved
          simp [moved]

namespace State

theorem dueSlots_groups (plan : Plan) (state : State σ) :
    (state.dueSlots plan).map Slot.group = wantedGroups state.groups 0 := by
  simp only [dueSlots, List.map_map]
  have forget : (Slot.group ∘ fun x : (Nat × InstanceSpec) × Nat =>
      (⟨x.2, x.1.1, x.1.2, .queued⟩ : Slot)) = Prod.fst ∘ Prod.fst := rfl
  refine (congrArg (List.map · _) forget).trans ?_
  rw [← List.map_map, List.zipIdx_map_fst]
  simp [wantedGroups, List.map_flatMap]

-- An attempt gives each group the slots that it wants.
theorem count_dueSlots (plan : Plan) (state : State σ) (index : Nat) :
    (state.dueSlots plan).countP (fun slot => slot.group = index) =
      ((state.groups[index]?).map GroupProgress.wanted).getD 0 := by
  have counted := count_wantedGroups state.groups 0 index
  rw [Nat.zero_add, ← dueSlots_groups plan, List.count, List.countP_map] at counted
  rw [← counted]
  rfl

-- It has as many slots as its groups want together.
theorem length_dueSlots (plan : Plan) (state : State σ) :
    (state.dueSlots plan).length = (state.groups.map GroupProgress.wanted).sum := by
  rw [← length_wantedGroups state.groups 0, ← dueSlots_groups plan, List.length_map]

/-! ### Soundness is kept -/

theorem mem_others {state : State σ} {slot other : Slot} (among : other ∈ state.others slot) :
    other ∈ state.slots :=
  (List.mem_filter.mp among).1

-- What a slot is for does not change while it moves.
theorem mem_setStage {state : State σ} {slot : Slot} {stage : Stage} {number : Nat}
    (member : slot ∈ (state.setStage number stage).slots) :
    ∃ old ∈ state.slots, slot.number = old.number ∧ slot.group = old.group ∧
      slot.spec = old.spec := by
  obtain ⟨old, inSlots, same⟩ := List.mem_map.mp member
  refine ⟨old, inSlots, ?_⟩
  rw [← same]
  split <;> exact ⟨rfl, rfl, rfl⟩

theorem sound_initial (plan : Plan) (cancelled : Bool) (provider : σ) :
    Sound plan (.initial plan cancelled provider) where
  distinct := .nil
  numbered := by simp [initial]
  size := by simp [initial]
  groups := by
    intro index group progress declared present
    simp only [initial, List.getElem?_map, declared, Option.map_some, Option.some.injEq] at present
    exact present ▸ GroupProgress.of_new group
  specs := by simp [initial]
  arrivals := by simp [initial]
  settled := by simp [initial]

theorem Sound.unfinished {plan : Plan} {state : State σ} (sound : Sound plan state)
    (pending : state.isPending = true) : state.finished = false := by
  apply Bool.eq_false_iff.mpr
  intro finished
  cases pending.symm.trans (sound.settled finished)

theorem Sound.moved {plan : Plan} {state : State σ} (sound : Sound plan state) {slot : Slot}
    (member : slot ∈ state.slots) (answered : σ) (next : Next) :
    Sound plan (state.moved slot answered next) := by
  have unfinished := sound.unfinished (pending_of_mem member)
  have settled : (state.moved slot answered next).finished = true →
      (state.moved slot answered next).isPending = false := by
    intro finished
    cases next <;> cases unfinished.symm.trans finished
  cases next with
  | goes stage =>
      refine ⟨?_, ?_, sound.size, sound.groups, ?_, sound.arrivals, settled⟩
      · exact (setStage_numbers _ _ _).symm ▸ sound.distinct
      · intro other among
        obtain ⟨old, inSlots, number, _, _⟩ := mem_setStage among
        exact number ▸ sound.numbered old inSlots
      · intro other among
        obtain ⟨old, inSlots, _, group, spec⟩ := mem_setStage among
        exact group ▸ spec ▸ sound.specs old inSlots
  | ends result =>
      refine ⟨?_, ?_, sound.size, sound.groups, ?_, ?_, settled⟩
      · exact sound.distinct.sublist (List.filter_sublist.map _)
      · intro other among
        exact sound.numbered other (mem_others among)
      · intro other among
        exact sound.specs other (mem_others among)
      · intro arrival inInbox
        rcases List.mem_append.mp inInbox with early | last
        · exact sound.arrivals arrival early
        · obtain ⟨group, declared, _⟩ := sound.specs slot member
          rw [List.mem_singleton.mp last]
          exact (List.getElem?_eq_some_iff.mp declared).1

-- Reading an arrival changes what is counted of its group, and which machines are known
-- to be destroyed or orphaned.
theorem receive_eq (state : State σ) (arrival : Arrival) : state.receive arrival = { state with
    groups := state.groups.modify arrival.group fun progress => progress.receive arrival.result
    destroyed := state.destroyed ++ arrival.result.destroyed
    orphaned := state.orphaned ++ arrival.result.orphaned } := by
  unfold receive
  cases arrival.result with
  | healthy machine => simp [SlotResult.destroyed, SlotResult.orphaned]
  | failed cause destroyed orphaned => rfl

section

variable (state : State σ) (arrival : Arrival)

@[simp] theorem receive_provider : (state.receive arrival).provider = state.provider := by rw [receive_eq]

@[simp] theorem receive_attempt : (state.receive arrival).attempt = state.attempt := by rw [receive_eq]

@[simp] theorem receive_slots : (state.receive arrival).slots = state.slots := by rw [receive_eq]

@[simp] theorem receive_inbox : (state.receive arrival).inbox = state.inbox := by rw [receive_eq]

@[simp] theorem receive_cancelled : (state.receive arrival).cancelled = state.cancelled := by rw [receive_eq]

@[simp] theorem receive_stop : (state.receive arrival).stop = state.stop := by rw [receive_eq]

@[simp] theorem receive_issued : (state.receive arrival).issued = state.issued := by rw [receive_eq]

@[simp] theorem receive_finished : (state.receive arrival).finished = state.finished := by rw [receive_eq]

theorem receive_groups : (state.receive arrival).groups =
    state.groups.modify arrival.group fun progress => progress.receive arrival.result := by rw [receive_eq]

theorem receive_destroyed :
    (state.receive arrival).destroyed = state.destroyed ++ arrival.result.destroyed := by rw [receive_eq]

end

theorem Sound.receives {plan : Plan} {state : State σ} (sound : Sound plan state)
    {arrival : Arrival} {rest : List Arrival} (inbox : state.inbox = arrival :: rest) :
    Sound plan ({ state with inbox := rest }.receive arrival) where
  distinct := by rw [receive_slots]; exact sound.distinct
  numbered := by rw [receive_slots, receive_issued]; exact sound.numbered
  size := by rw [receive_groups, List.length_modify]; exact sound.size
  groups := by
    intro index group progress declared present
    rw [receive_groups, List.getElem?_modify] at present
    obtain ⟨old, inGroups, same⟩ := Option.map_eq_some_iff.mp present
    have of := sound.groups index group old declared inGroups
    split at same
    · exact same ▸ of.receive arrival.result
    · exact same ▸ of
  specs := by rw [receive_slots]; exact sound.specs
  arrivals := by
    rw [receive_inbox]
    intro other among
    exact sound.arrivals other (inbox ▸ List.mem_cons_of_mem _ among)
  settled := by
    rw [receive_finished]
    intro finished
    cases (sound.unfinished (pending_of_inbox inbox)).symm.trans finished

theorem Sound.begins {plan : Plan} {state : State σ} (sound : Sound plan state)
    (unfinished : state.finished = false) : Sound plan (state.beginAttempt plan) where
  distinct := by
    simp only [beginAttempt, dueSlots_numbers]
    exact List.nodup_range'
  numbered := by
    intro slot member
    have among : slot.number ∈ (state.dueSlots plan).map Slot.number :=
      List.mem_map_of_mem member
    rw [dueSlots_numbers, List.mem_range'_1] at among
    exact among.2
  size := by simpa [beginAttempt] using sound.size
  groups := by
    intro index group progress declared present
    simp only [beginAttempt, List.getElem?_map] at present
    obtain ⟨old, inGroups, same⟩ := Option.map_eq_some_iff.mp present
    exact same ▸ (sound.groups index group old declared inGroups).launch
  specs := by
    intro slot member
    obtain ⟨progress, inGroups, _, spec, _⟩ := mem_dueSlots member
    have inside : slot.group < plan.topology.groups.length :=
      sound.size ▸ (List.getElem?_eq_some_iff.mp inGroups).1
    have declared := List.getElem?_eq_getElem inside
    exact ⟨_, declared, spec.trans (congrArg plan.spec (sound.groups _ _ _ declared inGroups).roles)⟩
  arrivals := sound.arrivals
  settled := by simp [beginAttempt, unfinished]

theorem Sound.step {provider : Provider σ} {plan : Plan} {before after : State σ} {event : Event}
    (sound : Sound plan before) (step : Step provider plan before event after) : Sound plan after := by
  cases step with
  | moves found move => exact sound.moved (mem_of_slot? found) _ _
  | receives inbox => exact sound.receives inbox
  | isCancelled => exact ⟨sound.1, sound.2, sound.3, sound.4, sound.5, sound.6, sound.7⟩
  | notices pending cancelled goingOn =>
      exact ⟨sound.1, sound.2, sound.3, sound.4, sound.5, sound.6, sound.7⟩
  | runsOut pending given goingOn =>
      exact ⟨sound.1, sound.2, sound.3, sound.4, sound.5, sound.6, sound.7⟩
  | finishes settled unfinished reason =>
      exact ⟨sound.1, sound.2, sound.3, sound.4, sound.5, sound.6, fun _ => settled⟩
  | begins settled unfinished goingOn left due => exact sound.begins unfinished

end State

-- What every step keeps of a sound state is kept by a run.
theorem Run.keeps_sound {provider : Provider σ} {plan : Plan} {before after : State σ}
    {trace : List (Moment σ)} (holds : List (Moment σ) → State σ → Prop)
    (kept : ∀ past before event after, before.Sound plan → holds past before →
      Step provider plan before event after → holds (past ++ [⟨before, event⟩]) after)
    (run : Run provider plan before trace after) (sound : before.Sound plan) (start : holds [] before) :
    holds trace after := by
  refine (run.keeps_with (fun past state => state.Sound plan ∧ holds past state) ?_ [] ⟨sound, start⟩).2
  rintro past before event after ⟨sound, held⟩ step
  exact ⟨sound.step step, kept past before event after sound held step⟩

theorem Run.sound {provider : Provider σ} {plan : Plan} {cancelled : Bool} {start : σ}
    {trace : List (Moment σ)} {state : State σ}
    (run : Run provider plan (.initial plan cancelled start) trace state) : state.Sound plan :=
  run.keeps (State.Sound plan) (fun _ _ _ sound step => sound.step step)
    (State.sound_initial plan cancelled start)

end Muster.Launch
