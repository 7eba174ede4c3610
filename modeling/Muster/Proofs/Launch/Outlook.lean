import Muster.Proofs.Launch.Bounds
import Muster.Proofs.Launch.Forecast
import Muster.Proofs.Simulation.Faults

/-!
What a launch on the simulated provider comes to does not depend on the order in which its
slots move. At any moment in an attempt one can say of each group how the attempt would end
if the rest of it went one after the other. No move of a slot changes that, whichever
failure it happens to take, and so the groups end as the forecast says.
-/

namespace Muster.Launch

open Simulation

/-! ### How a group stands -/

def Slot.isToCreate (slot : Slot) : Bool :=
  match slot.stage with
  | .queued | .creating _ => true
  | _ => false

def Slot.isToCheck (slot : Slot) : Bool :=
  match slot.stage with
  | .checking .. => true
  | _ => false

def Slot.isToDestroy (slot : Slot) : Bool :=
  match slot.stage with
  | .destroying .. => true
  | _ => false

def Arrival.isHealthy (arrival : Arrival) : Bool :=
  match arrival.result with
  | .healthy _ => true
  | .failed .. => false

def slotsOf (slots : List Slot) (index : Nat) (somewhere : Slot → Bool) : Nat :=
  slots.countP fun slot => slot.group = index && somewhere slot

def arrivalsOf (inbox : List Arrival) (index : Nat) (somehow : Arrival → Bool) : Nat :=
  inbox.countP fun arrival => arrival.group = index && somehow arrival

def standing (slots : List Slot) (inbox : List Arrival) (due : DueFailures) (unready index : Nat)
    (progress : GroupProgress) : Forecast where
  attempts := progress.outcome.attempts
  attempted := progress.outcome.attempted
  succeeded := progress.outcome.succeeded + arrivalsOf inbox index Arrival.isHealthy
  failed := progress.outcome.failed + arrivalsOf inbox index (fun arrival => !arrival.isHealthy) +
    slotsOf slots index Slot.isToDestroy
  unready
  due

/-- How a group will stand at the end of the attempt. -/
def State.outlook (state : State Simulation) (unready index : Nat) (progress : GroupProgress) : Forecast :=
  (standing state.slots state.inbox (state.provider.dueFor progress.outcome.roles) unready index
    progress).settle (slotsOf state.slots index Slot.isToCreate) (slotsOf state.slots index Slot.isToCheck)

/-! One slot may be told apart from the others by its place, or by its end -/

namespace Next

def creations : Next → Nat
  | .goes .queued | .goes (.creating _) => 1
  | _ => 0

def checks : Next → Nat
  | .goes (.checking ..) => 1
  | _ => 0

def healthy : Next → Nat
  | .ends (.healthy _) => 1
  | _ => 0

def failed : Next → Nat
  | .goes (.destroying ..) | .ends (.failed ..) => 1
  | _ => 0

/-- Whether a machine was found not to be ready in the move to this place. -/
def spoilt : Next → Nat
  | .goes (.destroying ..) => 1
  | _ => 0

end Next

def Forecast.outlook (others : Forecast) (creations checks : Nat) (place : Next) : Forecast :=
  { others with
    succeeded := others.succeeded + place.healthy
    failed := others.failed + place.failed }.settle (creations + place.creations) (checks + place.checks)

theorem slotsOf_cons (slot : Slot) (rest : List Slot) (index : Nat) (somewhere : Slot → Bool) :
    slotsOf (slot :: rest) index somewhere =
      slotsOf rest index somewhere + if slot.group = index ∧ somewhere slot = true then 1 else 0 := by
  simp [slotsOf, List.countP_cons]

theorem slotsOf_perm {slots same : List Slot} (perm : slots.Perm same) (index : Nat)
    (somewhere : Slot → Bool) : slotsOf slots index somewhere = slotsOf same index somewhere :=
  perm.countP_eq _

namespace State

variable (state : State Simulation) (slot : Slot) {progress : GroupProgress} {unready index : Nat}

-- A slot of another group is of no matter to the outlook.
theorem outlook_elsewhere (elsewhere : slot.group ≠ index) {rest : List Slot}
    (among : state.slots.Perm (slot :: rest)) : state.outlook unready index progress =
      (standing rest state.inbox (state.provider.dueFor progress.outcome.roles) unready index
        progress).settle (slotsOf rest index Slot.isToCreate) (slotsOf rest index Slot.isToCheck) := by
  simp only [outlook, slotsOf_perm among, standing, slotsOf_cons, elsewhere,
    false_and, if_false, Nat.add_zero]

theorem outlook_here (here : slot.group = index) {rest : List Slot}
    (among : state.slots.Perm (slot :: rest)) : state.outlook unready index progress =
      (standing rest state.inbox (state.provider.dueFor progress.outcome.roles) unready index
        progress).outlook (slotsOf rest index Slot.isToCreate) (slotsOf rest index Slot.isToCheck)
        (.goes slot.stage) := by
  simp only [outlook, slotsOf_perm among, standing, slotsOf_cons, here, true_and,
    Forecast.outlook, Slot.isToCreate, Slot.isToCheck, Slot.isToDestroy]
  cases slot.stage <;> rfl

theorem moved_elsewhere {plan : Plan} (sound : state.Sound plan) (member : slot ∈ state.slots)
    (elsewhere : slot.group ≠ index) (answered : Simulation) (next : Next) :
    (state.moved slot answered next).outlook unready index progress =
      (standing (state.others slot) state.inbox (answered.dueFor progress.outcome.roles) unready index
        progress).settle (slotsOf (state.others slot) index Slot.isToCreate)
        (slotsOf (state.others slot) index Slot.isToCheck) := by
  cases next with
  | goes stage =>
      have among := setStage_slots_perm stage sound.distinct member
      exact outlook_elsewhere ({ state with provider := answered }.setStage slot.number stage)
        { slot with stage } elsewhere among
  | ends result =>
      simp only [outlook, moved, endSlot, standing, arrivalsOf, List.countP_append, List.countP_cons,
        List.countP_nil, elsewhere, decide_false, Bool.false_and, Bool.false_eq_true, if_false,
        Nat.add_zero]
      rfl

theorem moved_here {plan : Plan} (sound : state.Sound plan) (member : slot ∈ state.slots)
    (here : slot.group = index) (answered : Simulation) (next : Next) :
    (state.moved slot answered next).outlook unready index progress =
      (standing (state.others slot) state.inbox (answered.dueFor progress.outcome.roles) unready index
        progress).outlook (slotsOf (state.others slot) index Slot.isToCreate)
        (slotsOf (state.others slot) index Slot.isToCheck) next := by
  cases next with
  | goes stage =>
      have among := setStage_slots_perm stage sound.distinct member
      exact outlook_here ({ state with provider := answered }.setStage slot.number stage)
        { slot with stage } here among
  | ends result =>
      simp only [outlook, moved, endSlot, standing, arrivalsOf, List.countP_append, List.countP_cons,
        List.countP_nil, here, decide_true, Bool.true_and, Forecast.outlook]
      cases result with
      | healthy machine => rfl
      | failed cause destroyed orphaned =>
          -- the arrival is counted before the slots that destroy, the place after them
          have counted (a b c : Nat) : a + (b + 1) + c = a + b + c + 1 := by omega
          exact congrArg (fun failed => Forecast.settle _ _ ⟨_, _, _, failed, _, _⟩) (counted _ _ _)

variable {state slot}

-- A move spends no failures of other roles.
theorem due_elsewhere {plan : Plan} {event : Event} {answered : Simulation} {next : Next}
    {roles : RoleSet} (different : roles ≠ slot.spec.roles)
    (known : ∀ node millis, slot.stage = .checking node millis →
      state.provider.Knows node.id slot.spec.roles)
    (move : Move Simulation.provider plan state slot event answered next) :
    answered.dueFor roles = state.provider.dueFor roles := by
  cases move with
  | begins stage goingOn room answer | crashesEarly stage goingOn room answer =>
      obtain rfl : state.provider.beginCreate.2 = answered := congrArg Prod.snd answer
      unfold Simulation.beginCreate
      split <;> rfl
  | creates stage goingOn answer =>
      obtain ⟨_, _, faults, _⟩ := finishCreate_ok (finishCreate_of_answer answer)
      exact dueFor_of_faults faults roles
  | isRefused stage goingOn answer =>
      obtain ⟨_, _, ⟨_, faults⟩ | ⟨_, _, faults⟩⟩ := finishCreate_error (finishCreate_of_answer answer)
      · exact dueFor_of_faults faults roles
      · rw [dueFor_of_faults faults, dueFor_setDue, if_neg different]
  | crashesLate stage goingOn answer => cases congrArg Prod.fst answer
  | isReady stage goingOn answer => rw [(checkReady_ok (known _ _ stage) answer).2]
  | isUnready stage goingOn answer =>
      rw [(checkReady_error (known _ _ stage) answer).2, dueFor_setDue, if_neg different]
  | destroys stage answer | abandons stage answer =>
      obtain rfl : (state.provider.destroy _).2 = answered := congrArg Prod.snd answer
      unfold Simulation.destroy
      split <;> rfl
  | expires | leavesLine | stopsCreating | stopsChecking => rfl

/-- No move of a slot changes how its group will stand. -/
theorem outlook_of_move {plan : Plan} {event : Event} {answered : Simulation} {next : Next}
    (others : List Slot) (inbox : List Arrival) (creations checks : Nat)
    (calm : state.provider.Calm) (goingOn : state.cancelled = false) (unlimited : plan.timeLimit = none)
    (known : ∀ node millis, slot.stage = .checking node millis →
      state.provider.Knows node.id slot.spec.roles)
    (move : Move Simulation.provider plan state slot event answered next) :
    (standing others inbox (answered.dueFor slot.spec.roles) (unready + next.spoilt) index
        progress).outlook creations checks next =
      (standing others inbox (state.provider.dueFor slot.spec.roles) unready index progress).outlook
        creations checks (.goes slot.stage) := by
  -- a failure that the move takes is one that the others do not: the lemmas on `settle` say
  -- that in the end it makes no difference who does
  cases move with
  | begins stage goingOn room answer =>
      have faults : answered.faults = state.provider.faults := by
        obtain rfl : state.provider.beginCreate.2 = answered := congrArg Prod.snd answer
        rw [beginCreate_calm calm]
      rw [stage, dueFor_of_faults faults]
      rfl
  | crashesEarly stage goingOn room answer =>
      have began : state.provider.beginCreate.1 = .crashed := congrArg Prod.fst answer
      rw [beginCreate_calm calm] at began
      cases began
  | creates stage goingOn answer =>
      obtain ⟨sometimes, none, faults, _⟩ := finishCreate_ok (finishCreate_of_answer answer)
      rw [stage, dueFor_of_faults faults]
      exact Forecast.settle_created _ creations checks sometimes none
  | isRefused stage goingOn answer =>
      rw [stage]
      obtain ⟨_, _, ⟨always, faults⟩ | ⟨sometimes, some, faults⟩⟩ :=
        finishCreate_error (finishCreate_of_answer answer)
      · rw [dueFor_of_faults faults]
        exact Forecast.settle_refused_always _ creations checks always
      · rw [dueFor_of_faults faults, dueFor_setDue, if_pos rfl]
        exact Forecast.settle_refused (standing others inbox (state.provider.dueFor slot.spec.roles)
          unready index progress) creations checks sometimes some
  | crashesLate stage goingOn answer => cases congrArg Prod.fst answer
  | expires stage goingOn limited => cases unlimited.symm.trans limited
  | isReady stage goingOn answer =>
      obtain ⟨none, rfl⟩ := checkReady_ok (known _ _ stage) answer
      rw [stage]
      exact Forecast.settle_ready _ creations checks none
  | isUnready stage goingOn answer =>
      obtain ⟨some, rfl⟩ := checkReady_error (known _ _ stage) answer
      rw [stage, dueFor_setDue, if_pos rfl]
      exact Forecast.settle_unready (standing others inbox (state.provider.dueFor slot.spec.roles)
        unready index progress) creations checks some
  | leavesLine stage ended | stopsCreating stage ended | stopsChecking stage ended =>
      cases goingOn.symm.trans ended
  | destroys stage answer =>
      have faults : answered.faults = state.provider.faults := by
        obtain rfl : (state.provider.destroy _).2 = answered := congrArg Prod.snd answer
        rw [destroy_calm calm]
      rw [stage, dueFor_of_faults faults]
      rfl
  | abandons stage answer =>
      exact (calm.destroy_ne_error answer).elim

theorem calm_of_move {plan : Plan} {event : Event} {answered : Simulation} {next : Next}
    (calm : state.provider.Calm)
    (known : ∀ node millis, slot.stage = .checking node millis →
      state.provider.Knows node.id slot.spec.roles)
    (move : Move Simulation.provider plan state slot event answered next) :
    answered.Calm ∧ ∀ id roles, state.provider.Knows id roles → answered.Knows id roles := by
  have same (faults : answered.faults = state.provider.faults)
      (sequence : answered.sequence = state.provider.sequence)
      (rolesById : answered.rolesById = state.provider.rolesById) :
      answered.Calm ∧ ∀ id roles, state.provider.Knows id roles → answered.Knows id roles :=
    ⟨calm.same faults, fun _ _ knows => knows.same sequence rolesById⟩
  cases move with
  | begins stage goingOn room answer | crashesEarly stage goingOn room answer =>
      obtain rfl : state.provider.beginCreate.2 = answered := congrArg Prod.snd answer
      rw [beginCreate_calm calm] at same ⊢
      exact same rfl rfl rfl
  | creates stage goingOn answer =>
      obtain ⟨_, _, faults, sequence, numbered, rolesById⟩ := finishCreate_ok (finishCreate_of_answer answer)
      exact ⟨calm.same faults, fun _ _ knows => knows.create sequence numbered rolesById⟩
  | isRefused stage goingOn answer =>
      obtain ⟨sequence, rolesById, ⟨_, faults⟩ | ⟨_, _, faults⟩⟩ :=
        finishCreate_error (finishCreate_of_answer answer)
      · exact same faults sequence rolesById
      · exact ⟨⟨faults ▸ calm.crashes, faults ▸ calm.destroys⟩,
          fun _ _ knows => knows.same sequence rolesById⟩
  | crashesLate stage goingOn answer => cases congrArg Prod.fst answer
  | isReady stage goingOn answer =>
      obtain ⟨_, rfl⟩ := checkReady_ok (known _ _ stage) answer
      exact same rfl rfl rfl
  | isUnready stage goingOn answer =>
      obtain ⟨_, rfl⟩ := checkReady_error (known _ _ stage) answer
      exact ⟨⟨calm.crashes, calm.destroys⟩, fun _ _ knows => knows.same rfl rfl⟩
  | destroys stage answer | abandons stage answer =>
      obtain rfl : (state.provider.destroy _).2 = answered := congrArg Prod.snd answer
      rw [destroy_calm calm] at same ⊢
      exact same rfl rfl rfl
  | expires | leavesLine | stopsCreating | stopsChecking => exact same rfl rfl rfl

-- What a slot begins to check is a machine that has just been created.
theorem known_of_move {plan : Plan} {event : Event} {answered : Simulation} {node : Node} {millis : Nat}
    (move : Move Simulation.provider plan state slot event answered (.goes (.checking node millis))) :
    answered.Knows node.id slot.spec.roles := by
  cases move with
  | creates stage goingOn answer =>
      obtain ⟨_, _, _, sequence, numbered, rolesById⟩ := finishCreate_ok (finishCreate_of_answer answer)
      exact .created sequence numbered rolesById

end State

/-! ### Runs as foretold -/

/-- How many machines are destroyed, or will be, by one slot from its place. -/
def Next.doomed : Next → Nat
  | .goes (.destroying ..) => 1
  | .goes _ => 0
  | .ends result => result.destroyed.length

namespace State

def doomed (state : State Simulation) : Nat :=
  state.destroyed.length + (state.inbox.map fun arrival => arrival.result.destroyed.length).sum +
    state.slots.countP Slot.isToDestroy

structure Foretold (plan : Plan) (start : Simulation) (unready : Nat → Nat) (state : State Simulation) :
    Prop where
  goingOn : state.cancelled = false
  unstopped : state.stop = none
  calm : state.provider.Calm
  known : ∀ slot ∈ state.slots, ∀ node millis, slot.stage = .checking node millis →
    state.provider.Knows node.id slot.spec.roles
  outlook : ∀ (index : Nat) group progress, plan.topology.groups[index]? = some group →
    state.groups[index]? = some progress → state.outlook (unready index) index progress =
      (Forecast.start (start.dueFor group.roles)).after group state.attempt
  doomed : ((List.range plan.topology.groups.length).map unready).sum = state.doomed

variable {plan : Plan} {start : Simulation} {unready : Nat → Nat} {state : State Simulation}

theorem foretold_initial (calm : start.Calm) :
    Foretold plan start (fun _ => 0) (.initial plan false start) where
  goingOn := rfl
  unstopped := rfl
  calm := calm
  known := nofun
  outlook := by
    intro index group progress declared present
    simp only [initial, List.getElem?_map, declared, Option.map_some, Option.some.injEq] at present
    subst present
    exact Forecast.settle_nothing _
  doomed := by simp [State.doomed, initial]

-- Slots of a group are for its roles, and for no other group's.
theorem Sound.roles {slot : Slot} (feasible : plan.topology.Feasible) (sound : state.Sound plan)
    (member : slot ∈ state.slots) {index : Nat} {progress : GroupProgress}
    (present : state.groups[index]? = some progress) :
    progress.outcome.roles = slot.spec.roles ↔ slot.group = index := by
  obtain ⟨group, declared, spec⟩ := sound.specs slot member
  have inside : index < plan.topology.groups.length :=
    sound.size ▸ (List.getElem?_eq_some_iff.mp present).1
  have other := List.getElem?_eq_getElem inside
  have of := sound.groups index _ progress other present
  rw [of.roles, spec]
  constructor
  · intro same
    have held : slot.group < (plan.topology.groups.map InstanceGroup.roles).length := by
      simpa using (List.getElem?_eq_some_iff.mp declared).1
    apply (List.getElem?_inj held feasible.distinct).mp
    rw [List.getElem?_map, List.getElem?_map, declared, other, Option.map_some, Option.map_some, same]
    rfl
  · rintro rfl
    rw [declared] at other
    exact congrArg InstanceGroup.roles (Option.some.inj other).symm

theorem sum_map_update {count : Nat} {before after : Nat → Nat} {index more : Nat} (inside : index < count)
    (here : after index = before index + more)
    (elsewhere : ∀ other, other ≠ index → after other = before other) :
    ((List.range count).map after).sum = ((List.range count).map before).sum + more := by
  induction count with
  | zero => omega
  | succ count ih =>
      rw [List.range_succ, List.map_append, List.map_append, List.sum_append, List.sum_append]
      simp only [List.map_cons, List.map_nil, List.sum_cons, List.sum_nil, Nat.add_zero]
      rcases Nat.lt_succ_iff_lt_or_eq.mp inside with early | last
      · rw [ih early, elsewhere count (by omega)]
        omega
      · have same : (List.range count).map after = (List.range count).map before := by
          refine List.map_congr_left fun other member => elsewhere other ?_
          have small := List.mem_range.mp member
          omega
        rw [same, ← last, here]
        omega

theorem doomed_of_move {slot : Slot} {event : Event} {answered : Simulation} {next : Next}
    (calm : state.provider.Calm) (goingOn : state.cancelled = false) (unlimited : plan.timeLimit = none)
    (move : Move Simulation.provider plan state slot event answered next) :
    next.doomed = (Next.goes slot.stage).doomed + next.spoilt := by
  cases move with
  | begins stage | crashesEarly stage | creates stage | isRefused stage | crashesLate stage
  | isReady stage | isUnready stage => rw [stage]; rfl
  | destroys stage => rw [stage]; rfl
  | expires stage goingOn limited => cases unlimited.symm.trans limited
  | leavesLine stage ended | stopsCreating stage ended | stopsChecking stage ended =>
      cases goingOn.symm.trans ended
  | abandons stage answer =>
      exact (calm.destroy_ne_error answer).elim

theorem countP_place (slot : Slot) (rest : List Slot) : (slot :: rest).countP Slot.isToDestroy =
    rest.countP Slot.isToDestroy + (Next.goes slot.stage).doomed := by
  rw [List.countP_cons]
  cases stage : slot.stage <;> simp [Slot.isToDestroy, stage, Next.doomed]

theorem doomed_moved {slot : Slot} (sound : state.Sound plan) (member : slot ∈ state.slots)
    (answered : Simulation) (next : Next) :
    (state.moved slot answered next).doomed + (Next.goes slot.stage).doomed =
      state.doomed + next.doomed := by
  have before := (slots_perm sound.distinct member).countP_eq Slot.isToDestroy
  have after := (moved_slots_perm sound member answered next).countP_eq Slot.isToDestroy
  rw [countP_place] at before
  cases next with
  | goes stage =>
      have place : ({ slot with stage } :: state.others slot).countP Slot.isToDestroy = _ +
        (Next.goes stage).doomed := countP_place { slot with stage } (state.others slot)
      change _ = ({ slot with stage } :: state.others slot).countP Slot.isToDestroy at after
      have still : (state.moved slot answered (.goes stage)).destroyed = state.destroyed := rfl
      have unheard : (state.moved slot answered (.goes stage)).inbox = state.inbox := rfl
      simp only [doomed, still, unheard]
      omega
  | ends result =>
      change _ = (state.others slot).countP Slot.isToDestroy at after
      have still : (state.moved slot answered (.ends result)).destroyed = state.destroyed := rfl
      have arrived : (state.moved slot answered (.ends result)).inbox =
          state.inbox ++ [⟨slot.group, result⟩] := rfl
      simp only [doomed, still, arrived, List.map_append, List.sum_append, List.map_cons, List.map_nil,
        List.sum_cons, List.sum_nil, Next.doomed] at before after ⊢
      omega

theorem Foretold.moves {slot : Slot} {event : Event} {answered : Simulation} {next : Next}
    (feasible : plan.topology.Feasible) (unlimited : plan.timeLimit = none) (sound : state.Sound plan)
    (foretold : state.Foretold plan start unready) (member : slot ∈ state.slots)
    (move : Move Simulation.provider plan state slot event answered next) :
    (state.moved slot answered next).Foretold plan start fun index =>
      unready index + if slot.group = index then next.spoilt else 0 := by
  have known := foretold.known slot member
  have calm := calm_of_move foretold.calm known move
  have among := slots_perm sound.distinct member
  refine ⟨?_, ?_, ?_, ?_, ?_, ?_⟩
  · cases next <;> exact foretold.goingOn
  · cases next <;> exact foretold.unstopped
  · cases next <;> exact calm.1
  · intro other inSlots node millis stage
    have inPlace := (moved_slots_perm sound member answered next).mem_iff.mp inSlots
    rw [moved_provider]
    rcases List.mem_append.mp inPlace with moved | other
    · cases next with
      | goes place =>
          obtain rfl := List.mem_singleton.mp moved
          obtain rfl : place = .checking node millis := stage
          have knows := known_of_move move
          exact knows
      | ends result => cases moved
    · exact calm.2 _ _ (foretold.known _ (mem_others other) node millis stage)
  · intro index group progress declared present
    have present : state.groups[index]? = some progress := by cases next <;> exact present
    have attempt : (state.moved slot answered next).attempt = state.attempt := by cases next <;> rfl
    rw [attempt, ← foretold.outlook index group progress declared present]
    have roles := sound.roles feasible member present
    -- role sets are distinct, so that a move spends the failures of its own group only
    by_cases here : slot.group = index
    · rw [moved_here _ _ sound member here, outlook_here _ _ here among, if_pos here, roles.mpr here]
      exact outlook_of_move _ _ _ _ foretold.calm foretold.goingOn unlimited known move
    · rw [moved_elsewhere _ _ sound member here, outlook_elsewhere _ _ here among, if_neg here,
        due_elsewhere (fun same => here (roles.mp same)) known move]
      rfl
  · obtain ⟨group, declared, _⟩ := sound.specs slot member
    rw [sum_map_update (List.getElem?_eq_some_iff.mp declared).1 (by rw [if_pos rfl])
      (fun other different => by rw [if_neg (Ne.symm different), Nat.add_zero]), foretold.doomed]
    have doomed := doomed_of_move foretold.calm foretold.goingOn unlimited move
    have moved := doomed_moved sound member answered next
    omega

theorem outlook_receive {arrival : Arrival} {rest : List Arrival} (inbox : state.inbox = arrival :: rest)
    (doubtful index : Nat) (progress : GroupProgress) :
    ({ state with inbox := rest }.receive arrival).outlook doubtful index
        (if arrival.group = index then progress.receive arrival.result else progress) =
      state.outlook doubtful index progress := by
  have roles : (if arrival.group = index then progress.receive arrival.result
      else progress).outcome.roles = progress.outcome.roles := by
    split
    · cases arrival.result <;> rfl
    · rfl
  simp only [outlook, receive_slots, receive_inbox, receive_provider, roles]
  congr 1
  simp only [standing, arrivalsOf, inbox, List.countP_cons, Arrival.isHealthy]
  by_cases here : arrival.group = index
  · simp only [here, if_pos, decide_true, Bool.true_and]
    cases arrival.result with
    | healthy machine =>
        simp only [GroupProgress.receive, Bool.not_true, Bool.false_eq_true, if_false, if_pos,
          Nat.add_zero, Forecast.mk.injEq, true_and, and_true]
        omega
    | failed cause destroyed orphaned =>
        simp only [GroupProgress.receive, Bool.not_false, Bool.false_eq_true, if_false, if_pos,
          Nat.add_zero, Forecast.mk.injEq, true_and, and_true]
        omega
  · simp only [here, if_false, decide_false, Bool.false_and, Bool.false_eq_true, Nat.add_zero]

theorem Foretold.receives (foretold : state.Foretold plan start unready) {arrival : Arrival}
    {rest : List Arrival} (inbox : state.inbox = arrival :: rest) :
    ({ state with inbox := rest }.receive arrival).Foretold plan start unready := by
  refine ⟨?_, ?_, ?_, ?_, ?_, ?_⟩
  · rw [receive_cancelled]
    exact foretold.goingOn
  · rw [receive_stop]
    exact foretold.unstopped
  · rw [receive_provider]
    exact foretold.calm
  · rw [receive_slots, receive_provider]
    exact foretold.known
  · intro index group progress declared present
    rw [receive_groups, List.getElem?_modify] at present
    obtain ⟨old, inGroups, rfl⟩ := Option.map_eq_some_iff.mp present
    rw [receive_attempt, ← foretold.outlook index group old declared inGroups]
    exact outlook_receive inbox (unready index) index old
  · rw [foretold.doomed]
    simp only [State.doomed, receive_slots, receive_inbox, receive_destroyed, inbox, List.map_cons,
      List.sum_cons, List.length_append]
    omega

theorem slotsOf_dueSlots (plan : Plan) (state : State Simulation) (index : Nat) :
    slotsOf (state.dueSlots plan) index Slot.isToCreate =
      ((state.groups[index]?).map GroupProgress.wanted).getD 0 := by
  rw [← count_dueSlots plan state index]
  apply List.countP_congr
  intro slot member
  obtain ⟨_, _, _, _, queued⟩ := mem_dueSlots member
  simp [Slot.isToCreate, queued]

-- The slots of a new attempt are nowhere but in line.
theorem countP_dueSlots (plan : Plan) (state : State Simulation) {somewhere : Slot → Bool}
    (elsewhere : ∀ slot, slot.stage = .queued → somewhere slot = false) :
    (state.dueSlots plan).countP somewhere = 0 := by
  apply List.countP_eq_zero.mpr
  intro slot member
  obtain ⟨_, _, _, _, queued⟩ := mem_dueSlots member
  simp [elsewhere slot queued]

theorem isDue_of_standing {group : InstanceGroup} {progress : GroupProgress}
    (of : GroupProgress.Of group progress) (due : DueFailures) (doubtful index : Nat) :
    (standing [] [] due doubtful index progress).isDue group = progress.isDue := by
  rw [Bool.eq_iff_iff]
  simp only [Forecast.isDue, standing, arrivalsOf, List.countP_nil, Nat.add_zero, GroupProgress.isDue,
    GroupOutcome.shortfall, of.target, GroupOutcome.isSuccess, of.required, Nat.sub_pos_iff_lt,
    Bool.and_eq_true, Bool.or_eq_true, decide_eq_true_eq, Bool.not_eq_true', decide_eq_false_iff_not,
    Nat.not_le]
  exact and_congr decide_eq_true_iff (or_congr decide_eq_true_iff decide_eq_true_iff)

theorem next_of_standing {group : InstanceGroup} {progress : GroupProgress}
    (of : GroupProgress.Of group progress) (due : DueFailures) (doubtful index : Nat) :
    (standing [] [] due doubtful index progress).next group =
      Forecast.settle progress.wanted 0 ⟨progress.launch.outcome.attempts,
        progress.launch.outcome.attempted, progress.outcome.succeeded, progress.outcome.failed, doubtful,
        due⟩ := by
  have missing : progress.outcome.shortfall = group.target.toNat - progress.outcome.succeeded := by
    rw [GroupOutcome.shortfall, of.target]
  unfold Forecast.next
  rw [isDue_of_standing of]
  by_cases chosen : progress.isDue = true
  · rw [if_pos chosen, Forecast.attempt_eq_settle]
    simp only [GroupProgress.wanted, GroupProgress.launch, chosen, if_pos, missing]
    rfl
  · rw [if_neg chosen]
    simp only [GroupProgress.wanted, GroupProgress.launch, chosen, Bool.false_eq_true, if_false]
    exact (Forecast.settle_nothing _).symm

-- A new attempt stands to end as the next attempt of the forecast.
theorem Foretold.begins (foretold : state.Foretold plan start unready) (sound : state.Sound plan)
    (settled : state.isPending = false) : (state.beginAttempt plan).Foretold plan start unready := by
  rw [isPending_eq_false] at settled
  refine ⟨foretold.goingOn, foretold.unstopped, foretold.calm, ?_, ?_, ?_⟩
  · intro slot member node millis stage
    obtain ⟨_, _, _, _, queued⟩ := mem_dueSlots member
    cases queued.symm.trans stage
  · intro index group progress declared present
    simp only [beginAttempt, List.getElem?_map] at present
    obtain ⟨old, inGroups, rfl⟩ := Option.map_eq_some_iff.mp present
    have of := sound.groups index group old declared inGroups
    have before := foretold.outlook index group old declared inGroups
    unfold State.outlook at before
    rw [settled.1, settled.2] at before
    change Forecast.settle 0 0 _ = _ at before
    rw [Forecast.settle_nothing] at before
    have creations := slotsOf_dueSlots plan state index
    rw [inGroups, Option.map_some, Option.getD_some] at creations
    have checks : slotsOf (state.dueSlots plan) index Slot.isToCheck = 0 :=
      countP_dueSlots plan state fun slot queued => by simp [Slot.isToCheck, queued]
    have destroys : slotsOf (state.dueSlots plan) index Slot.isToDestroy = 0 :=
      countP_dueSlots plan state fun slot queued => by simp [Slot.isToDestroy, queued]
    change _ = ((Forecast.start (start.dueFor group.roles)).after group state.attempt).next group
    rw [← before]
    have counted : standing (state.dueSlots plan) state.inbox
        (state.provider.dueFor old.launch.outcome.roles) (unready index) index old.launch =
        ⟨old.launch.outcome.attempts, old.launch.outcome.attempted, old.outcome.succeeded,
          old.outcome.failed, unready index, state.provider.dueFor old.outcome.roles⟩ := by
      simp only [standing, settled.2, destroys, arrivalsOf, List.countP_nil, Nat.add_zero]
      unfold GroupProgress.launch
      split <;> rfl
    change (standing (state.dueSlots plan) state.inbox (state.provider.dueFor old.launch.outcome.roles)
      (unready index) index old.launch).settle (slotsOf (state.dueSlots plan) index Slot.isToCreate)
      (slotsOf (state.dueSlots plan) index Slot.isToCheck) = _
    rw [counted, creations, checks, next_of_standing of]
  · have none : (state.dueSlots plan).countP Slot.isToDestroy = 0 :=
      countP_dueSlots plan state fun slot queued => by simp [Slot.isToDestroy, queued]
    rw [foretold.doomed]
    simp only [State.doomed, beginAttempt, none, settled.1, List.countP_nil]

/-- A step keeps what was foretold, with the machines that it finds not to be ready. -/
theorem Foretold.step {before after : State Simulation} {event : Event}
    (feasible : plan.topology.Feasible) (unlimited : plan.timeLimit = none)
    (endless : plan.deadline = none) (uncancelled : event ≠ .cancel) (sound : before.Sound plan)
    (foretold : before.Foretold plan start unready)
    (step : Step Simulation.provider plan before event after) :
    ∃ unready, after.Foretold plan start unready := by
  cases step with
  | moves found move => exact ⟨_, foretold.moves feasible unlimited sound (mem_of_slot? found) move⟩
  | receives inbox => exact ⟨unready, foretold.receives inbox⟩
  | isCancelled => exact (uncancelled rfl).elim
  | notices pending cancelled => cases foretold.goingOn.symm.trans cancelled
  | runsOut pending given => simp [endless] at given
  | finishes settled unfinished reason =>
      have closes : before.closing = none := by
        simp [closing, foretold.goingOn, foretold.unstopped]
      exact ⟨unready, foretold.goingOn, closes, foretold.calm, foretold.known, foretold.outlook,
        foretold.doomed⟩
  | begins settled => exact ⟨unready, foretold.begins sound settled⟩

end State

-- A run that nobody cancels goes as foretold.
theorem Run.foretold {plan : Plan} {start : Simulation} {trace : List (Moment Simulation)}
    {state : State Simulation} (feasible : plan.topology.Feasible) (unlimited : plan.timeLimit = none)
    (endless : plan.deadline = none) (calm : start.Calm)
    (run : Run Simulation.provider plan (.initial plan false start) trace state)
    (uncancelled : ∀ moment ∈ trace, moment.event ≠ .cancel) :
    ∃ unready, state.Foretold plan start unready := by
  have kept := run.keeps_with (fun past state => (∀ moment ∈ past, moment.event ≠ .cancel) →
    state.Sound plan ∧ ∃ unready, state.Foretold plan start unready) ?_ []
    fun _ => ⟨State.sound_initial plan false start, _, State.foretold_initial calm⟩
  · exact (kept uncancelled).2
  · intro past before event after holds step uncancelled
    obtain ⟨sound, unready, foretold⟩ := holds fun moment member =>
      uncancelled moment (List.mem_append_left _ member)
    have still := uncancelled ⟨before, event⟩ (List.mem_append_right _ List.mem_cons_self)
    exact ⟨sound.step step, foretold.step feasible unlimited endless still sound step⟩

/-! ### What the launch comes to -/

def forecast (topology : Topology) (due : RoleSet → DueFailures) (group : InstanceGroup) : Forecast :=
  (Forecast.start (due group.roles)).after group (topology.maxStartupRetries + 1).toNat

def isEnough (topology : Topology) (due : RoleSet → DueFailures) : Bool :=
  topology.groups.all fun group => group.required.toNat ≤ (forecast topology due group).succeeded

def total (topology : Topology) (due : RoleSet → DueFailures) (count : Forecast → Nat) : Nat :=
  (topology.groups.map fun group => count (forecast topology due group)).sum

/-- An answer as it is forecast: the counts of every group, the verdict, and how many
machines were destroyed. Those are the ones that were not ready, and, if the launch failed
and was told to, all the others. -/
structure AsForecast (topology : Topology) (due : RoleSet → DueFailures) (report : LaunchReport)
    (answer : Answer) : Prop where
  reported : answer.report? = some report
  groups : (report.groups.map fun outcome =>
      (outcome.attempts, outcome.attempted, outcome.succeeded, outcome.failed)) =
    topology.groups.map fun group =>
      let forecast := forecast topology due group
      (forecast.attempts, forecast.attempted, forecast.succeeded, forecast.failed)
  verdict : if isEnough topology due then ∃ cluster, answer = .ok (cluster, report)
    else answer = .error (.partialFailure .bootstrap report)
  destroyed : report.destroyed.length = total topology due Forecast.unready +
    if isEnough topology due = false ∧ topology.terminateAllOnFailure = true then
      total topology due Forecast.succeeded
    else 0

theorem Run.counted {σ : Type} {provider : Provider σ} {plan : Plan} {cancelled : Bool} {start : σ}
    {trace : List (Moment σ)} {state : State σ}
    (run : Run provider plan (.initial plan cancelled start) trace state) :
    ∀ progress ∈ state.groups, progress.healthy.length = progress.outcome.succeeded := by
  refine run.keeps
    (fun state => ∀ progress ∈ state.groups, progress.healthy.length = progress.outcome.succeeded) ?_ ?_
  · intro before event after counted step
    cases step with
    | moves found move =>
        rename_i slot answered next
        cases next <;> exact counted
    | receives inbox =>
        rename_i arrival rest
        rw [State.receive_groups]
        intro progress member
        rcases State.mem_modify member with old | ⟨old, among, rfl⟩
        · exact counted progress old
        · have same := counted old among
          cases arrival.result with
          | healthy machine => simp [GroupProgress.receive, same]
          | failed cause destroyed orphaned => exact same
    | isCancelled | notices | runsOut | finishes => exact counted
    | begins =>
        intro progress member
        obtain ⟨old, among, rfl⟩ := List.mem_map.mp member
        rw [GroupProgress.launch_healthy, GroupProgress.launch_succeeded]
        exact counted old among
  · intro progress member
    obtain ⟨group, _, rfl⟩ := List.mem_map.mp member
    rfl

-- When nobody has cancelled, every group ends as its forecast.
theorem State.Foretold.ends {plan : Plan} {start : Simulation} {unready : Nat → Nat}
    {state : State Simulation} (sound : state.Sound plan) (tallied : state.Tallied plan)
    (foretold : state.Foretold plan start unready) (finished : state.finished = true) {index : Nat}
    {group : InstanceGroup} {progress : GroupProgress}
    (declared : plan.topology.groups[index]? = some group)
    (present : state.groups[index]? = some progress) :
    forecast plan.topology start.dueFor group = ⟨progress.outcome.attempts, progress.outcome.attempted,
      progress.outcome.succeeded, progress.outcome.failed, unready index,
      state.provider.dueFor progress.outcome.roles⟩ := by
  have settled := sound.settled finished
  rw [isPending_eq_false] at settled
  have now := foretold.outlook index group progress declared present
  unfold State.outlook at now
  rw [settled.1, settled.2] at now
  change Forecast.settle 0 0 _ = _ at now
  rw [Forecast.settle_nothing] at now
  have spent : forecast plan.topology start.dueFor group =
      (Forecast.start (start.dueFor group.roles)).after group state.attempt := by
    -- an attempt that the launch did not need changes nothing in the forecast either
    rcases tallied.exhausted finished foretold.unstopped with all | nothing
    · rw [Nat.le_antisymm tallied.counted all]
      rfl
    · have done : ((Forecast.start (start.dueFor group.roles)).after group state.attempt).isDue group =
          false := by
        have of := sound.groups index group progress declared present
        rw [← now]
        refine (State.isDue_of_standing of _ _ _).trans (Bool.eq_false_iff.mpr fun due => ?_)
        rw [List.any_eq_true.mpr ⟨progress, List.mem_of_getElem? present, due⟩] at nothing
        cases nothing
      have rest := Forecast.after_of_settled _ done (plan.maxAttempts - state.attempt)
      rwa [Nat.add_sub_cancel' tallied.counted] at rest
  rw [spent, ← now]
  rfl

section

variable {plan : Plan} {start : Simulation} {trace : List (Moment Simulation)} {final : State Simulation}
  (feasible : plan.topology.Feasible) (unlimited : plan.timeLimit = none) (endless : plan.deadline = none)
  (calm : start.Calm) (completes : Completes Simulation.provider plan false start trace final)
  (uncancelled : ∀ moment ∈ trace, moment.event ≠ .cancel)

include feasible unlimited endless calm completes uncancelled

theorem Completes.counts_as_forecast :
    (final.outcomes.map fun outcome =>
      (outcome.attempts, outcome.attempted, outcome.succeeded, outcome.failed)) =
        (plan.topology.groups.map fun group =>
          let forecast := forecast plan.topology start.dueFor group
          (forecast.attempts, forecast.attempted, forecast.succeeded, forecast.failed)) ∧
    final.destroyed.length =
      total plan.topology start.dueFor Forecast.unready := by
  have sound := completes.run.sound
  have tallied := completes.run.course.tallied feasible
  obtain ⟨unready, foretold⟩ := completes.run.foretold feasible unlimited endless calm uncancelled
  have ends {index : Nat} {group : InstanceGroup} {progress : GroupProgress}
      (declared : plan.topology.groups[index]? = some group)
      (present : final.groups[index]? = some progress) :=
    foretold.ends sound tallied completes.finished declared present
  constructor
  · rw [State.outcomes, List.map_map]
    apply sound.map_groups
    intro index group progress declared present
    simp only [ends declared present, Function.comp_apply]
  · have settled := sound.settled completes.finished
    rw [State.isPending_eq_false] at settled
    have doomed : ((List.range plan.topology.groups.length).map unready).sum = final.destroyed.length := by
      rw [foretold.doomed, State.doomed, settled.1, settled.2]
      rfl
    rw [← doomed]
    congr 1
    apply List.ext_getElem
    · simp
    · intro index _ inPlan
      have inside : index < plan.topology.groups.length := by simpa using inPlan
      have present := List.getElem?_eq_getElem (sound.size.symm ▸ inside : index < final.groups.length)
      rw [List.getElem_map, List.getElem_map, List.getElem_range,
        ends (List.getElem?_eq_getElem inside) present]

theorem Completes.isEnough_iff : isEnough plan.topology start.dueFor = true ↔ final.Succeeded := by
  have counts := (completes.counts_as_forecast feasible unlimited endless calm uncancelled).1
  obtain ⟨unready, foretold⟩ := completes.run.foretold feasible unlimited endless calm uncancelled
  have enough : final.groups.map (fun progress => progress.outcome.isSuccess) =
      plan.topology.groups.map fun group =>
        decide (group.required.toNat ≤ (forecast plan.topology start.dueFor group).succeeded) := by
    apply completes.run.sound.map_groups
    intro index group progress declared present
    have of := completes.run.sound.groups index group progress declared present
    rw [foretold.ends completes.run.sound (completes.run.course.tallied feasible) completes.finished declared
      present, GroupOutcome.isSuccess, of.required]
  have all : isEnough plan.topology start.dueFor = final.outcomes.all GroupOutcome.isSuccess := by
    have same := congrArg (List.all · id) enough
    simp only [List.all_map] at same
    rw [isEnough, State.outcomes, List.all_map]
    exact same.symm
  rw [all, ← State.succeeded_iff, foretold.unstopped]
  rfl

-- However the slots of a launch move, it ends as it is forecast.
theorem Completes.as_forecast :
    ∃ report, AsForecast plan.topology start.dueFor report (final.verdict Simulation.provider plan).1 := by
  obtain ⟨counts, destroyed⟩ := completes.counts_as_forecast feasible unlimited endless calm uncancelled
  have isEnough_iff := completes.isEnough_iff feasible unlimited endless calm uncancelled
  obtain ⟨unready, foretold⟩ := completes.run.foretold feasible unlimited endless calm uncancelled
  have kept : final.healthy.length =
      total plan.topology start.dueFor Forecast.succeeded := by
    rw [State.healthy, List.length_flatMap]
    congr 1
    apply completes.run.sound.map_groups
    intro index group progress declared present
    rw [foretold.ends completes.run.sound (completes.run.course.tallied feasible) completes.finished declared
      present, completes.run.counted progress (List.mem_of_getElem? present)]
  have ending := State.verdict_ending Simulation.provider plan final
  generalize (final.verdict Simulation.provider plan).1 = answer at ending ⊢
  generalize (final.verdict Simulation.provider plan).2 = after at ending
  cases ending with
  | succeeds succeeded =>
      have enough := isEnough_iff.mpr succeeded
      refine ⟨_, rfl, counts, ?_, ?_⟩
      · rw [if_pos enough]
        exact ⟨_, rfl⟩
      · rw [if_neg (by simp [enough])]
        exact destroyed
  | clearsUp failed told some answer =>
      have short := Bool.eq_false_iff.mpr fun enough => failed (isEnough_iff.mp enough)
      rw [foretold.unstopped]
      refine ⟨_, rfl, counts, ?_, ?_⟩
      · rw [if_neg (by simp [short])]
        rfl
      · rw [if_pos ⟨short, told⟩, ← kept, ← destroyed, List.length_append, List.length_map]
  | cannotClearUp failed told some answer =>
      exact (foretold.calm.destroy_ne_error answer).elim
  | leaves failed spared =>
      have short := Bool.eq_false_iff.mpr fun enough => failed (isEnough_iff.mp enough)
      rw [foretold.unstopped]
      refine ⟨_, rfl, counts, ?_, ?_⟩
      · rw [if_neg (by simp [short])]
        rfl
      · rw [← kept]
        rcases spared with spared | none
        · rw [if_neg (by simp [spared])]
          exact destroyed
        · rw [none, List.length_nil, ite_self]
          exact destroyed

end

theorem canBegin_of_endless {topology : Topology} {options : LaunchOptions}
    (few : concurrency topology options ≤ maxPermits) (endless : options.deadline = none) (now : Nat) :
    canBegin topology options now = true := by
  simp [canBegin, few, endless]

theorem Modest.canBegin {topology : Topology} {options : LaunchOptions} (modest : Modest topology options)
    (endless : options.deadline = none) (now : Nat) : canBegin topology options now = true :=
  canBegin_of_endless (Nat.max_le.mpr ⟨modest.limit, by decide⟩) endless now

theorem Completes.attempted_lt {σ : Type} {provider : Provider σ} {topology : Topology}
    {bootstrap : RoleSet → Script} {options : LaunchOptions} {cancelled : Bool} {start : σ}
    {trace : List (Moment σ)} {final : State σ} (modest : Modest topology options)
    (completes : Completes provider (plan topology bootstrap options) cancelled start trace final)
    {report : LaunchReport}
    (reported : Answer.report? (final.verdict provider (plan topology bootstrap options)).1 = some report) :
    ∀ outcome ∈ report.groups, outcome.attempted < 2 ^ 32 := by
  obtain ⟨same, told, tells⟩ := (final.verdict_ending provider (plan topology bootstrap options)).reports
  cases reported.symm.trans told
  rw [tells.groups]
  intro outcome member
  obtain ⟨progress, among, rfl⟩ := List.mem_map.mp member
  exact completes.run.course.attempted_lt modest among

/-- On a provider that only fails to create machines, and creates some that are not ready,
a launch that nobody cancels and nothing times out ends as its topology and the failures
that are due foretell: in whatever order its slots move, however many of them may move at
a time and however long a creation takes. The numbers are to be small enough, so that every
call has an answer and every count is exact in 32 bits. -/
theorem ends_as_forecast (topology : Topology) (due : RoleSet → DueFailures)
    (valid : topology.validate = .ok ()) :
    (∀ (bootstrap : RoleSet → Script) (options : LaunchOptions) (start : Simulation)
      (trace : List (Moment Simulation)) (final : State Simulation),
      Modest topology options → options.instanceTimeout = none → options.deadline = none →
      start.Calm → start.dueFor = due →
      Completes Simulation.provider (plan topology bootstrap options) false start trace final →
      (∀ moment ∈ trace, moment.event ≠ .cancel) →
      final.destroyed.length = total topology due Forecast.unready ∧
      ∃ report, AsForecast topology due report
          (final.verdict Simulation.provider (plan topology bootstrap options)).1 ∧
        ∀ outcome ∈ report.groups, outcome.attempted < 2 ^ 32) ∧
    (∀ (bootstrap : RoleSet → Script) (options : LaunchOptions) (now : Nat) (start : Simulation),
      Modest topology options → options.instanceTimeout = none → options.deadline = none →
      options.cancelAt = none → start.Calm → start.dueFor = due →
      ∃ answer ended after report,
        call? Simulation.provider topology bootstrap options now start = some (answer, ended, after) ∧
        AsForecast topology due report answer ∧
        ∀ outcome ∈ report.groups, outcome.attempted < 2 ^ 32) := by
  have feasible := Topology.feasible_of_validate valid
  constructor
  · rintro bootstrap options start trace final modest unlimited endless calm rfl completes uncancelled
    have feasible : (plan topology bootstrap options).topology.Feasible := feasible
    obtain ⟨report, foretold⟩ := completes.as_forecast feasible unlimited endless calm uncancelled
    exact ⟨(completes.counts_as_forecast feasible unlimited endless calm uncancelled).2, report, foretold,
      completes.attempted_lt modest foretold.reported⟩
  · rintro bootstrap options now start modest unlimited endless never calm rfl
    obtain ⟨trace, final, ended, completes, answers, later, timely⟩ :=
      run_completes Simulation.provider topology bootstrap options now start
    rw [never] at completes
    have feasible : (plan topology bootstrap options).topology.Feasible := feasible
    have uncancelled : ∀ moment ∈ trace, moment.event ≠ .cancel := by
      intro moment member cancel
      obtain ⟨time, set, _⟩ := (timely moment member).1 cancel
      cases never.symm.trans set
    obtain ⟨report, foretold⟩ := completes.as_forecast feasible unlimited endless calm uncancelled
    exact ⟨_, ended, _, report, (if_pos (modest.canBegin endless now)).trans (congrArg some answers), foretold,
      completes.attempted_lt modest foretold.reported⟩

/-- One machine of three is refused and the others are not ready; they are destroyed, and
the second attempt gets three. -/
theorem ends_as_forecast_of_three :
    let topology := plainTopology [⟨.ofList ["master"], 1, 100, 1⟩, ⟨.ofList ["worker"], 3, 50, 1⟩] 1
    let start := Simulation.new.setDue (.ofList ["worker"]) ⟨1, false, 2⟩
    let slow := { start with faults.createMillis := 5 }
    let answers (permits : Nat) (start : Simulation) := fun answer => ∃ ended after,
      call? Simulation.provider topology (fun _ => ⟨[], []⟩) { LaunchOptions.none with
        maxConcurrent := some permits } 0 start = some (answer, ended, after)
    topology.validate = .ok () ∧
    (topology.groups.map fun group => (forecast topology start.dueFor group).attempts) = [1, 2] ∧
    total topology start.dueFor Forecast.unready = 2 ∧
    (∃ answer report, answers 1 start answer ∧ AsForecast topology start.dueFor report answer) ∧
    ∃ answer report, answers 3 slow answer ∧ AsForecast topology start.dueFor report answer := by
  intro topology start slow answers
  have valid : topology.validate = .ok () := by decide +kernel
  have ends := (ends_as_forecast topology start.dueFor valid).2 (fun _ => ⟨[], []⟩)
  have one : Modest topology { LaunchOptions.none with maxConcurrent := some 1 } := by decide +kernel
  have three : Modest topology { LaunchOptions.none with maxConcurrent := some 3 } := by decide +kernel
  refine ⟨valid, by decide +kernel, by decide +kernel, ?_, ?_⟩
  · obtain ⟨answer, ended, after, report, called, foretold, _⟩ := ends _ 0 start one rfl rfl rfl ⟨rfl, rfl⟩ rfl
    exact ⟨answer, report, ⟨ended, after, called⟩, foretold⟩
  · obtain ⟨answer, ended, after, report, called, foretold, _⟩ := ends _ 0 slow three rfl rfl rfl ⟨rfl, rfl⟩ rfl
    exact ⟨answer, report, ⟨ended, after, called⟩, foretold⟩

/-- Whether a launch has an outcome depends on its permits, and an outcome can be beyond 32 bits. -/
theorem outcome_depends_on_permits :
    let topology := plainTopology [⟨.ofList ["worker"], 4294967295, 100, 1⟩] 1
    let start := Simulation.new.setDue (.ofList ["worker"]) ⟨0, true, 0⟩
    let options (permits : Nat) := { LaunchOptions.none with maxConcurrent := some permits }
    topology.validate = .ok () ∧ start.Calm ∧
    (∀ permits ≤ maxPermits, ∃ called,
      call? Simulation.provider topology (fun _ => ⟨[], []⟩) (options permits) 0 start = some called) ∧
    call? Simulation.provider topology (fun _ => ⟨[], []⟩) (options 2305843009213693952) 0 start = none ∧
    (topology.groups.map fun group => (forecast topology start.dueFor group).attempted) = [2 * 4294967295] := by
  intro topology start options
  refine ⟨by decide +kernel, ⟨rfl, rfl⟩, ?_, rfl, by decide +kernel⟩
  intro permits few
  have held : concurrency topology (options permits) ≤ maxPermits := Nat.max_le.mpr ⟨few, by decide⟩
  have begins := canBegin_of_endless held rfl 0
  exact ⟨_, if_pos begins⟩

end Muster.Launch
