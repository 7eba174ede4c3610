import Muster.Proofs.Launch.Completion
import Muster.Proofs.Launch.Crashes
import Muster.Proofs.Launch.Verdict
import Muster.Proofs.Simulation.Books

/-!
No machine is lost by a launch. A creation that succeeds hands the id of a machine to
its slot. From then on the id is in one place: with the slot, in an arrival that was
not read, among the healthy machines of a group, or among the destroyed or orphaned
ones. What a launch answers is made from the last three, and they are all that is left
when it has finished.
-/

namespace Muster.Launch

variable {σ : Type}

def handedAt (provider : Provider σ) (moment : Moment σ) : List String :=
  match moment.event, moment.before with
  | .created number, before =>
      match before.slot? number with
      | none => []
      | some slot =>
          match (provider.finishCreate slot.spec before.provider).1 with
          | some (.ok node) => [node.id]
          | _ => []
  | _, _ => []

def handed (provider : Provider σ) (trace : List (Moment σ)) : List String :=
  trace.flatMap (handedAt provider)

def Stage.ids : Stage → List String
  | .queued | .creating _ => []
  | .checking node _ | .destroying node _ => [node.id]

def SlotResult.ids : SlotResult → List String
  | .healthy machine => [machine.id]
  | .failed _ destroyed orphaned => destroyed.toList ++ orphaned.toList

def Slot.ids (slot : Slot) : List String := slot.stage.ids

def Arrival.ids (arrival : Arrival) : List String := arrival.result.ids

def Next.ids : Next → List String
  | .goes stage => stage.ids
  | .ends result => result.ids

namespace State

def held (state : State σ) : List String :=
  state.slots.flatMap Slot.ids ++ state.inbox.flatMap Arrival.ids ++
    state.healthy.map Instance.id ++ state.destroyed ++ state.orphaned

-- A slot has after a move what it had before, and what it was handed.
theorem ids_of_move {provider : Provider σ} {plan : Plan} {state : State σ} {slot : Slot}
    {event : Event} {answered : σ} {next : Next} (found : state.slot? slot.number = some slot)
    (move : Move provider plan state slot event answered next) :
    next.ids = slot.stage.ids ++ handedAt provider ⟨state, event⟩ := by
  cases move with
  | begins stage | crashesEarly stage | leavesLine stage => simp [stage]; rfl
  | creates stage goingOn answer => simp [stage, handedAt, found, answer, Next.ids, Stage.ids]
  | isRefused stage goingOn answer =>
      simp [stage, handedAt, found, answer, Next.fails, Next.ids, SlotResult.ids, Stage.ids]
  | crashesLate stage goingOn answer =>
      simp [stage, handedAt, found, answer, Next.fails, Next.ids, SlotResult.ids, Stage.ids]
  | expires stage | stopsCreating stage => simp [stage]; rfl
  | isReady stage | isUnready stage | stopsChecking stage | destroys stage | abandons stage =>
      simp [stage]; rfl

theorem healthy_modify (groups : List GroupProgress) (index : Nat) (result : SlotResult)
    (inside : index < groups.length) :
    ((groups.modify index fun progress => progress.receive result).flatMap
        GroupProgress.healthy).map Instance.id |>.Perm
      ((match result with
        | .healthy machine => [machine.id]
        | .failed .. => []) ++ (groups.flatMap GroupProgress.healthy).map Instance.id) := by
  induction groups generalizing index with
  | nil => simp at inside
  | cons progress rest ih =>
      cases index with
      | zero =>
          cases result with
          | healthy machine =>
              simp only [List.modify_zero_cons, GroupProgress.receive, List.flatMap_cons,
                List.map_append, List.map_cons, List.map_nil, List.append_assoc]
              exact List.perm_middle
          | failed cause destroyed orphaned => simp [GroupProgress.receive]
      | succ index =>
          have moved := (ih index (by simpa using inside)).append_left
            (progress.healthy.map Instance.id)
          simp only [List.modify_succ_cons, List.flatMap_cons, List.map_append]
          refine moved.trans ?_
          rw [← List.append_assoc, ← List.append_assoc]
          exact List.perm_append_comm.append_right _

-- A move hands at most one id to its slot, and takes none from the launch.
theorem held_moved {provider : Provider σ} {plan : Plan} {state : State σ} {slot : Slot}
    {event : Event} {answered : σ} {next : Next} (sound : state.Sound plan)
    (found : state.slot? slot.number = some slot)
    (move : Move provider plan state slot event answered next) :
    (state.moved slot answered next).held.Perm (state.held ++ handedAt provider ⟨state, event⟩) := by
  have member := mem_of_slot? found
  -- ids are counted one by one, for nothing says here that they are distinct
  rw [List.perm_iff_count]
  intro id
  have early := ((slots_perm sound.distinct member).flatMap_right Slot.ids).count_eq id
  have gained := congrArg (List.count id) (ids_of_move found move)
  rw [List.flatMap_cons, List.count_append] at early
  rw [List.count_append] at gained
  cases next with
  | goes stage =>
      have late : (({ state with provider := answered }.setStage slot.number stage).slots.flatMap
          Slot.ids).count id = stage.ids.count id + ((state.others slot).flatMap Slot.ids).count id := by
        rw [← List.count_append]
        exact ((setStage_slots_perm stage sound.distinct member).flatMap_right Slot.ids).count_eq id
      change (({ state with provider := answered }.setStage slot.number stage).slots.flatMap Slot.ids ++
        state.inbox.flatMap Arrival.ids ++ state.healthy.map Instance.id ++ state.destroyed ++
        state.orphaned).count id = _
      simp only [List.count_append, held, late, early, Next.ids, Slot.ids] at gained ⊢
      omega
  | ends result =>
      change ((state.others slot).flatMap Slot.ids ++
        (state.inbox ++ [(⟨slot.group, result⟩ : Arrival)]).flatMap Arrival.ids ++
        state.healthy.map Instance.id ++ state.destroyed ++ state.orphaned).count id = _
      simp only [List.flatMap_append, List.flatMap_cons, List.flatMap_nil, List.append_nil,
        List.count_append, held, early, Next.ids, Slot.ids, Arrival.ids] at gained ⊢
      omega

theorem held_receive {state : State σ} {arrival : Arrival} {rest : List Arrival}
    (inbox : state.inbox = arrival :: rest) (inside : arrival.group < state.groups.length) :
    ({ state with inbox := rest }.receive arrival).held.Perm state.held := by
  rw [List.perm_iff_count]
  intro id
  have counted := (healthy_modify state.groups arrival.group arrival.result inside).count_eq id
  rw [List.count_append] at counted
  simp only [held, List.count_append, receive_slots, receive_inbox, inbox, List.flatMap_cons, healthy,
    receive_groups, counted, Arrival.ids]
  cases result : arrival.result with
  | healthy machine =>
      simp only [receive, result, SlotResult.ids]
      omega
  | failed cause destroyed orphaned =>
      simp only [receive, result, SlotResult.ids, List.count_append, List.count_nil]
      omega

theorem healthy_launch (groups : List GroupProgress) :
    (groups.map GroupProgress.launch).flatMap GroupProgress.healthy =
      groups.flatMap GroupProgress.healthy := by
  simp only [List.flatMap_map, GroupProgress.launch_healthy]

theorem held_beginAttempt {plan : Plan} {state : State σ} (settled : state.isPending = false) :
    (state.beginAttempt plan).held = state.held := by
  have nothing : (state.dueSlots plan).flatMap Slot.ids = [] := by
    apply List.flatMap_eq_nil_iff.mpr
    intro slot member
    obtain ⟨_, _, _, _, stage⟩ := mem_dueSlots member
    simp [Slot.ids, stage, Stage.ids]
  obtain ⟨none, _⟩ := state.isPending_eq_false.mp settled
  simp only [held, healthy, beginAttempt, healthy_launch, nothing, none, List.flatMap_nil]

/-- A step adds to the ids of a launch what is handed over in it. -/
theorem held_step {provider : Provider σ} {plan : Plan} {before after : State σ} {event : Event}
    (sound : before.Sound plan) (step : Step provider plan before event after) :
    after.held.Perm (before.held ++ handedAt provider ⟨before, event⟩) := by
  cases step with
  | moves found move => exact held_moved sound found move
  | receives inbox =>
      have inside := sound.arrivals _ (inbox ▸ List.mem_cons_self)
      simpa [handedAt] using held_receive inbox (sound.size ▸ inside)
  | isCancelled | notices | runsOut | finishes => simp [handedAt, held, healthy]
  | begins settled => simp [handedAt, held_beginAttempt settled]

end State

/-! ### Machines that are lost -/

def Change.handed (provider : Provider σ) (change : Change σ) : List String :=
  match change.event with
  | none => []
  | some event => handedAt provider ⟨change.before, event⟩

def handedOver (provider : Provider σ) (changes : List (Change σ)) : List String :=
  changes.flatMap (Change.handed provider)

def Change.lost (change : Change σ) : List String :=
  match change.event with
  | some _ => []
  | none => (change.before.slots.filter fun slot => (change.after.slot? slot.number).isNone).flatMap Slot.ids

def lost (changes : List (Change σ)) : List String := changes.flatMap Change.lost

theorem handedOver_of_run (provider : Provider σ) (plan : Plan) (trace : List (Moment σ)) :
    handedOver provider (trace.map (Moment.change provider plan)) = handed provider trace := by
  simp only [handedOver, handed, List.flatMap_map]
  rfl

theorem lost_of_run (provider : Provider σ) (plan : Plan) (trace : List (Moment σ)) :
    lost (trace.map (Moment.change provider plan)) = [] := by
  simp only [lost, List.flatMap_map]
  exact List.flatMap_eq_nil_iff.mpr fun _ _ => rfl

namespace State

variable {provider : Provider σ} {plan : Plan}

theorem slot?_of_ended {state : State σ} {slot : Slot} (left : σ) (result : SlotResult) :
    (state.moved slot left (.ends result)).slot? slot.number = none := by
  apply List.find?_eq_none.mpr
  intro other among
  simpa using (List.mem_filter.mp among).2

-- Of all slots only the one that crashed is gone.
theorem gone_perm {state : State σ} {slot : Slot} (sound : state.Sound plan) (member : slot ∈ state.slots)
    (left : σ) (result : SlotResult) :
    (state.slots.filter fun other =>
      ((state.moved slot left (.ends result)).slot? other.number).isNone).Perm [slot] := by
  refine ((slots_perm sound.distinct member).filter _).trans (List.Perm.of_eq ?_)
  have ended : (state.moved slot left (.ends result)).slot? slot.number = none := slot?_of_ended left result
  have stays : (state.others slot).filter (fun other =>
      ((state.moved slot left (.ends result)).slot? other.number).isNone) = [] := by
    apply List.filter_eq_nil_iff.mpr
    intro other among
    have distinct : ((state.moved slot left (.ends result)).slots.map Slot.number).Nodup :=
      (sound.moved member left (.ends result)).distinct
    rw [slot?_of_mem distinct among]
    exact Bool.false_ne_true
  rw [List.filter_cons_of_pos (by rw [ended]; rfl), stays]

-- A slot that crashes takes its machine with it and leaves the others.
theorem held_crashes {state : State σ} {slot : Slot} (sound : state.Sound plan) (member : slot ∈ state.slots)
    (left : σ) (cause : String) :
    ((state.moved slot left (.fails cause)).held ++ slot.ids).Perm state.held := by
  rw [List.perm_iff_count]
  intro id
  have early := ((slots_perm sound.distinct member).flatMap_right Slot.ids).count_eq id
  rw [List.flatMap_cons, List.count_append] at early
  change ((state.others slot).flatMap Slot.ids ++
    (state.inbox ++ [(⟨slot.group, .failed cause none none⟩ : Arrival)]).flatMap Arrival.ids ++
    state.healthy.map Instance.id ++ state.destroyed ++ state.orphaned ++ slot.ids).count id = _
  simp only [List.flatMap_append, List.flatMap_singleton, Arrival.ids, SlotResult.ids, Option.toList_none,
    List.append_nil, List.count_append, held, early]
  omega

theorem held_happens {before after : State σ} {event : Option Event} (sound : before.Sound plan)
    (happens : Happens provider plan before event after) :
    (after.held ++ (⟨before, event, after⟩ : Change σ).lost).Perm
      (before.held ++ (⟨before, event, after⟩ : Change σ).handed provider) := by
  cases happens with
  | steps happens =>
      rw [show (⟨before, some _, after⟩ : Change σ).lost = [] from rfl, List.append_nil]
      exact held_step sound (step_sound provider plan _ _ _ happens)
  | crashes found working left =>
      rename_i slot
      have member := mem_of_slot? found
      have gone : (⟨before, none, before.moved slot left (.fails crashed)⟩ : Change σ).lost.Perm slot.ids := by
        have alone := (gone_perm sound member left (.failed crashed none none)).flatMap_right Slot.ids
        rwa [List.flatMap_singleton] at alone
      rw [show (⟨before, none, _⟩ : Change σ).handed provider = [] from rfl, List.append_nil]
      exact (gone.append_left _).trans (held_crashes sound member left crashed)

end State

/-- Every id that was handed over is somewhere in the launch or was lost, once for each time. -/
theorem Course.held_perm {provider : Provider σ} {plan : Plan} {cancelled : Bool} {start : σ}
    {changes : List (Change σ)} {state : State σ}
    (course : Course provider plan (.initial plan cancelled start) changes state) :
    (state.held ++ lost changes).Perm (handedOver provider changes) := by
  refine course.keeps_sound (fun past state => (state.held ++ lost past).Perm (handedOver provider past)) ?_ ?_
  · intro past before event after sound same happens
    rw [List.perm_iff_count] at same ⊢
    intro id
    have early := same id
    have now := (State.held_happens sound happens).count_eq id
    simp only [lost, handedOver, List.flatMap_append, List.flatMap_singleton, List.count_append] at early now ⊢
    omega
  · simp [State.held, State.initial, State.healthy, GroupProgress.new, handedOver, lost]

theorem Course.held_subperm {provider : Provider σ} {plan : Plan} {cancelled : Bool} {start : σ}
    {changes : List (Change σ)} {state : State σ}
    (course : Course provider plan (.initial plan cancelled start) changes state) :
    state.held.Subperm (handedOver provider changes) :=
  (List.sublist_append_left _ _).subperm.trans course.held_perm.subperm

-- Nothing is lost in a run, where only creations crash.
theorem Run.held_perm {provider : Provider σ} {plan : Plan} {cancelled : Bool} {start : σ}
    {trace : List (Moment σ)} {state : State σ}
    (run : Run provider plan (.initial plan cancelled start) trace state) :
    state.held.Perm (handed provider trace) := by
  have held := run.course.held_perm
  rwa [lost_of_run, List.append_nil, handedOver_of_run] at held

namespace State

-- When nothing is left to hear of, every id is where a report looks for it.
theorem held_of_settled {state : State σ} (settled : state.isPending = false) :
    state.held = state.healthy.map Instance.id ++ state.destroyed ++ state.orphaned := by
  obtain ⟨slots, inbox⟩ := state.isPending_eq_false.mp settled
  simp [held, slots, inbox]

theorem accounted_of_ending {provider : Provider σ} {plan : Plan} {state : State σ} {answer : Answer}
    {after : σ} (ending : Ending provider plan state answer after)
    (distinct : (state.healthy.map Instance.id).Nodup) :
    ∃ report, answer.report? = some report ∧
      report.accounted.Perm (state.healthy.map Instance.id ++ state.destroyed ++ state.orphaned) := by
  cases ending with
  | succeeds succeeded =>
      refine ⟨_, rfl, ?_⟩
      rw [Cluster.ofInstances_instances _ _ distinct]
      exact .refl _
  | clearsUp failed told some answer =>
      refine ⟨_, failure_report? _ _, ?_⟩
      simp only [LaunchReport.accounted, List.map_nil, List.nil_append]
      exact List.perm_append_comm.append_right _
  | cannotClearUp failed told some answer =>
      refine ⟨_, failure_report? _ _, ?_⟩
      simp only [LaunchReport.accounted, List.map_nil, List.nil_append]
      rw [← List.append_assoc, List.append_assoc (state.healthy.map Instance.id)]
      exact List.perm_append_comm
  | leaves failed spared => exact ⟨_, failure_report? _ _, .refl _⟩

end State

theorem Completes.sound {provider : Provider σ} {plan : Plan} {cancelled : Bool} {start : σ}
    {trace : List (Moment σ)} {final : State σ}
    (completes : Completes provider plan cancelled start trace final) : final.Sound plan :=
  completes.run.sound

-- A report accounts for exactly the ids that were handed over and not lost.
theorem Course.accounted {provider : Provider σ} {plan : Plan} {cancelled : Bool} {start : σ}
    {changes : List (Change σ)} {final : State σ}
    (course : Course provider plan (.initial plan cancelled start) changes final)
    (finished : final.finished = true) (distinct : (handedOver provider changes).Nodup) :
    ∃ report, Answer.report? (final.verdict provider plan).1 = some report ∧
      (report.accounted ++ lost changes).Perm (handedOver provider changes) := by
  have all := course.held_perm
  rw [State.held_of_settled (course.sound.settled finished)] at all
  -- a cluster takes every machine once, so that those of the report have to be distinct
  have places := (List.nodup_append.mp (all.nodup_iff.mpr distinct)).1
  have healthyDistinct : (final.healthy.map Instance.id).Nodup :=
    (List.nodup_append.mp (List.nodup_append.mp places).1).1
  obtain ⟨report, reported, same⟩ :=
    State.accounted_of_ending (State.verdict_ending provider plan final) healthyDistinct
  exact ⟨report, reported, (same.append_right _).trans all⟩

theorem Completes.accounted {provider : Provider σ} {plan : Plan} {cancelled : Bool} {start : σ}
    {trace : List (Moment σ)} {final : State σ}
    (completes : Completes provider plan cancelled start trace final)
    (distinct : (handed provider trace).Nodup) :
    ∃ report, Answer.report? (final.verdict provider plan).1 = some report ∧
      report.accounted.Perm (handed provider trace) := by
  have accounted := completes.run.course.accounted completes.finished
  rw [lost_of_run, handedOver_of_run] at accounted
  obtain ⟨report, reported, same⟩ := accounted distinct
  rw [List.append_nil] at same
  exact ⟨report, reported, same⟩

/-! ### Launches on the simulated provider -/

section Simulated

open Simulation

-- A move changes the books of the provider only by the machine that it hands over.
theorem books_of_move {plan : Plan} {state : State Simulation} {slot : Slot} {event : Event}
    {answered : Simulation} {next : Next} (found : state.slot? slot.number = some slot)
    (move : Move Simulation.provider plan state slot event answered next) :
    (handedAt Simulation.provider ⟨state, event⟩ = [] ∧ SameMachines state.provider answered) ∨
    (handedAt Simulation.provider ⟨state, event⟩ = [machineId (state.provider.sequence + 1)] ∧
      answered.sequence = state.provider.sequence + 1 ∧
      answered.createdIds = state.provider.createdIds ++ [machineId (state.provider.sequence + 1)]) := by
  cases move with
  | begins stage goingOn room answer | crashesEarly stage goingOn room answer =>
      obtain rfl : state.provider.beginCreate.2 = answered := congrArg Prod.snd answer
      exact .inl ⟨rfl, beginCreate_sameMachines _⟩
  | creates stage goingOn answer =>
      have result := Option.some.inj (congrArg Prod.fst answer)
      obtain rfl : (state.provider.finishCreate slot.spec).2 = answered := congrArg Prod.snd answer
      rcases finishCreate_books state.provider slot.spec with
        ⟨error, refused, _⟩ | ⟨node, accepted, id, sequence, created⟩
      · cases refused.symm.trans result
      · refine .inr ⟨?_, sequence, id ▸ created⟩
        simp only [handedAt, found, answer]
        rw [Except.ok.inj (result.symm.trans accepted), id]
  | isRefused stage goingOn answer =>
      have result := Option.some.inj (congrArg Prod.fst answer)
      obtain rfl : (state.provider.finishCreate slot.spec).2 = answered := congrArg Prod.snd answer
      rcases finishCreate_books state.provider slot.spec with
        ⟨error, refused, same⟩ | ⟨node, accepted, _⟩
      · exact .inl ⟨by simp only [handedAt, found, answer], same⟩
      · cases accepted.symm.trans result
  | crashesLate stage goingOn answer => cases congrArg Prod.fst answer
  | expires | stopsCreating => exact .inl ⟨rfl, dropCreate_sameMachines _⟩
  | isReady stage goingOn answer | isUnready stage goingOn answer =>
      obtain rfl : (state.provider.checkReady _).2 = answered := congrArg Prod.snd answer
      exact .inl ⟨rfl, checkReady_sameMachines _ _⟩
  | leavesLine | stopsChecking => exact .inl ⟨rfl, rfl, rfl⟩
  | destroys stage answer | abandons stage answer =>
      obtain rfl : (state.provider.destroy _).2 = answered := congrArg Prod.snd answer
      exact .inl ⟨rfl, destroy_sameMachines _ _⟩

structure Booked (start : Simulation) (ids : List String) (simulation : Simulation) : Prop where
  numbered : ids = machineIds start.sequence ids.length
  sequence : simulation.sequence = start.sequence + ids.length
  created : simulation.createdIds = start.createdIds ++ ids

theorem Booked.same {start before after : Simulation} {ids : List String}
    (booked : Booked start ids before) (same : SameMachines before after) :
    Booked start ids after where
  numbered := booked.numbered
  sequence := same.1.trans booked.sequence
  created := (congrArg (List.map Node.id) same.2).trans booked.created

theorem Booked.add {start before after : Simulation} {ids : List String}
    (booked : Booked start ids before) (sequence : after.sequence = before.sequence + 1)
    (created : after.createdIds = before.createdIds ++ [machineId (before.sequence + 1)]) :
    Booked start (ids ++ [machineId (before.sequence + 1)]) after where
  numbered := by
    rw [List.length_append, List.length_singleton, machineIds_succ, ← booked.numbered, booked.sequence]
  sequence := by rw [sequence, booked.sequence, List.length_append]; rfl
  created := by rw [created, booked.created, List.append_assoc]

theorem Booked.step {plan : Plan} {start : Simulation} {ids : List String}
    {before after : State Simulation} {event : Event} (booked : Booked start ids before.provider)
    (step : Step Simulation.provider plan before event after) :
    Booked start (ids ++ handedAt Simulation.provider ⟨before, event⟩) after.provider := by
  cases step with
  | moves found move =>
      rw [State.moved_provider]
      rcases books_of_move found move with ⟨nothing, same⟩ | ⟨one, sequence, created⟩
      · rw [nothing, List.append_nil]
        exact booked.same same
      · rw [one]
        exact booked.add sequence created
  | receives inbox =>
      rename_i arrival rest
      rw [State.receive_provider]
      simpa [handedAt] using booked
  | isCancelled | notices | runsOut | finishes | begins =>
      simpa [handedAt, State.beginAttempt] using booked

theorem Run.booked {plan : Plan} {cancelled : Bool} {start : Simulation}
    {trace : List (Moment Simulation)} {state : State Simulation}
    (run : Run Simulation.provider plan (.initial plan cancelled start) trace state) :
    Booked start (handed Simulation.provider trace) state.provider := by
  refine run.keeps_with (fun past state => Booked start (handed Simulation.provider past) state.provider)
    ?_ [] ⟨rfl, rfl, (List.append_nil _).symm⟩
  intro past before event after booked step
  simpa [handed] using booked.step step

theorem ending_sameMachines {plan : Plan} {state : State Simulation} {answer : Answer}
    {after : Simulation} (ending : State.Ending Simulation.provider plan state answer after) :
    SameMachines state.provider after := by
  cases ending with
  | succeeds | leaves => exact ⟨rfl, rfl⟩
  | clearsUp failed told some answer | cannotClearUp failed told some answer =>
      obtain rfl : (state.provider.destroy _).2 = after := congrArg Prod.snd answer
      exact destroy_sameMachines _ _

end Simulated

theorem Completes.accounted_simulated {plan : Plan} {cancelled : Bool} {start : Simulation}
    {trace : List (Moment Simulation)} {final : State Simulation}
    (completes : Completes Simulation.provider plan cancelled start trace final) :
    ∃ report created, Answer.report? (final.verdict Simulation.provider plan).1 = some report ∧
      (final.verdict Simulation.provider plan).2.createdIds = start.createdIds ++ created ∧
      report.accounted.Nodup ∧ report.accounted.Perm created := by
  have booked := completes.run.booked
  have distinct : (handed Simulation.provider trace).Nodup :=
    booked.numbered ▸ Simulation.machineIds_nodup _ _
  obtain ⟨report, reported, same⟩ := completes.accounted distinct
  have ending := State.verdict_ending Simulation.provider plan final
  have created := (booked.same (ending_sameMachines ending)).created
  exact ⟨report, _, reported, created, same.nodup_iff.mpr distinct, same⟩

/-- A launch that has finished accounts for its machines: whatever order its steps came
in and whatever its provider answered, the ids that creations handed over are those of
the healthy, destroyed and orphaned machines of its report, each as often as it was
handed over. On the simulated provider these are the machines that it has created,
however the launch goes, and the launch that runs is one of those that finish. -/
theorem machines_accounted_once :
    (∀ (σ : Type) (provider : Provider σ) (plan : Plan) (cancelled : Bool) (start : σ)
      (trace : List (Moment σ)) (final : State σ),
      Completes provider plan cancelled start trace final → (handed provider trace).Nodup →
      ∃ report, Answer.report? (final.verdict provider plan).1 = some report ∧
        report.accounted.Nodup ∧ report.accounted.Perm (handed provider trace)) ∧
    (∀ (plan : Plan) (cancelled : Bool) (start : Simulation) (trace : List (Moment Simulation))
      (final : State Simulation), Completes Simulation.provider plan cancelled start trace final →
      ∃ report created, Answer.report? (final.verdict Simulation.provider plan).1 = some report ∧
        (final.verdict Simulation.provider plan).2.createdIds = start.createdIds ++ created ∧
        report.accounted.Nodup ∧ report.accounted.Perm created) ∧
    (∀ (topology : Topology) (bootstrap : RoleSet → Script) (options : LaunchOptions) (now : Nat)
      (start : Simulation), ∃ report created,
      Answer.report? (run Simulation.provider topology bootstrap options now start).1 = some report ∧
        (run Simulation.provider topology bootstrap options now start).2.2.createdIds =
          start.createdIds ++ created ∧
        report.accounted.Nodup ∧ report.accounted.Perm created) := by
  refine ⟨?_, ?_, ?_⟩
  · intro σ provider plan cancelled start trace final completes distinct
    obtain ⟨report, reported, same⟩ := completes.accounted distinct
    exact ⟨report, reported, same.nodup_iff.mpr distinct, same⟩
  · intro _ _ _ _ _ completes
    exact completes.accounted_simulated
  · intro topology bootstrap options now start
    obtain ⟨trace, final, ended, completes, answers, _⟩ :=
      run_completes Simulation.provider topology bootstrap options now start
    rw [answers]
    exact completes.accounted_simulated

/-- Two slots of one group move past each other; the machine of the first is not ready
and cannot be destroyed. -/
theorem machines_accounted_once_of_two :
    let plan := plan (plainTopology [⟨.ofList ["worker"], 2, 50, 1⟩] 0) (fun _ => ⟨[], []⟩) .none
    let start := { Simulation.new.setDue (.ofList ["worker"]) ⟨0, false, 1⟩ with
      faults.failDestroy := true }
    let events := [.proceed, .start 0, .start 1, .created 1, .created 0, .checked 0, .checked 1,
      .received, .discarded 0, .received, .proceed]
    let before := State.initial plan false start
    let trace := before.moments Simulation.provider plan events
    ∃ final, before.replay Simulation.provider plan events = some final ∧
      Completes Simulation.provider plan false start trace final ∧
      handed Simulation.provider trace = ["stub-00001", "stub-00002"] ∧
      ∃ report, Answer.report? (final.verdict Simulation.provider plan).1 = some report ∧
        report.accounted.Perm ["stub-00001", "stub-00002"] := by
  intro plan start events before trace
  have ends : (before.replay Simulation.provider plan events).map State.finished = some true := by
    decide +kernel
  have ids : handed Simulation.provider trace = ["stub-00001", "stub-00002"] := by decide +kernel
  obtain ⟨final, happens, finished⟩ := Option.map_eq_some_iff.mp ends
  have completes : Completes Simulation.provider plan false start trace final :=
    ⟨.of_replay happens, finished⟩
  obtain ⟨report, reported, _, same⟩ := machines_accounted_once.1 _ Simulation.provider plan false start
    trace final completes (ids ▸ by decide)
  exact ⟨final, happens, completes, ids, report, reported, ids ▸ same⟩

end Muster.Launch
