import Muster.Proofs.Launch.Counting
import Muster.Proofs.Launch.Aftermath

/-!
The cluster that a launch answers when it succeeds. Its machines come group by group as the
topology declares the groups, as many of each as were counted, and every machine carries the
roles of its group. None is lost on the way into the cluster, because no two machines that were
handed over share an id; one whose request crashed is in no list at all.
-/

namespace Muster

variable {σ : Type}

/-! ### Parts that are kept apart by a key -/

-- Among lists with different keys there is one list with this key.
theorem flatMap_of_key {α β κ : Type} [DecidableEq κ] (key : α → κ) (part : α → List β) {items : List α}
    (distinct : (items.map key).Nodup) {item : α} (member : item ∈ items) :
    (items.flatMap fun other => if key other = key item then part other else []) = part item := by
  induction items with
  | nil => cases member
  | cons first rest ih =>
      simp only [List.map_cons, List.nodup_cons, List.mem_map, not_exists, not_and] at distinct
      rw [List.flatMap_cons]
      rcases List.mem_cons.mp member with rfl | later
      · have others : (rest.flatMap fun other => if key other = key item then part other else []) = [] := by
          apply List.flatMap_eq_nil_iff.mpr
          intro other among
          simp [distinct.1 other among]
        simp [others]
      · have different : key first ≠ key item := fun same => distinct.1 item later same.symm
        simpa [different] using ih distinct.2 later

namespace Launch

/-! ### Machines carry the roles of their groups -/

namespace State

variable {provider : Provider σ} {plan : Plan}

structure Outfitted (state : State σ) : Prop where
  healthy : ∀ progress ∈ state.groups, ∀ machine ∈ progress.healthy, machine.roles = progress.outcome.roles
  arrivals : ∀ arrival ∈ state.inbox, ∀ machine, arrival.result = .healthy machine →
    ∀ progress, state.groups[arrival.group]? = some progress → machine.roles = progress.outcome.roles

theorem outfitted_initial (plan : Plan) (cancelled : Bool) (start : σ) :
    (State.initial plan cancelled start).Outfitted := by
  constructor
  · intro progress member
    obtain ⟨group, _, rfl⟩ := List.mem_map.mp member
    exact nofun
  · exact nofun

-- A slot that ends with a healthy machine has given it the roles that it was asked for.
theorem roles_of_move {state : State σ} {slot : Slot} {event : Event} {answered : σ} {machine : Instance}
    (move : Move provider plan state slot event answered (.ends (.healthy machine))) :
    machine.roles = slot.spec.roles := by
  cases move with
  | isReady => rfl

theorem Outfitted.moves {state : State σ} (outfitted : state.Outfitted) (sound : state.Sound plan)
    {slot : Slot} (member : slot ∈ state.slots) (answered : σ) {next : Next}
    (dressed : ∀ machine, next = .ends (.healthy machine) → machine.roles = slot.spec.roles) :
    (state.moved slot answered next).Outfitted := by
  constructor
  · rw [moved_groups]
    exact outfitted.healthy
  · rw [moved_groups, moved_inbox]
    intro arrival among machine result progress present
    rcases List.mem_append.mp among with old | new
    · exact outfitted.arrivals arrival old machine result progress present
    · cases next with
      | goes stage => cases new
      | ends answer =>
          obtain rfl := List.mem_singleton.mp new
          obtain ⟨group, declared, spec⟩ := sound.specs slot member
          have of := sound.groups slot.group group progress declared present
          rw [dressed machine (congrArg Next.ends result), spec, of.roles]
          rfl

theorem receive_roles (progress : GroupProgress) (result : SlotResult) :
    (progress.receive result).outcome.roles = progress.outcome.roles := by
  cases result <;> rfl

theorem Outfitted.receives {state : State σ} (outfitted : state.Outfitted) {arrival : Arrival}
    {rest : List Arrival} (inbox : state.inbox = arrival :: rest) :
    ({ state with inbox := rest }.receive arrival).Outfitted := by
  have heard := outfitted.arrivals arrival (inbox ▸ List.mem_cons_self)
  constructor
  · rw [receive_groups]
    intro progress member machine among
    obtain ⟨place, found⟩ := List.mem_iff_getElem?.mp member
    rw [List.getElem?_modify] at found
    obtain ⟨old, present, rfl⟩ := Option.map_eq_some_iff.mp found
    have before := outfitted.healthy old (List.mem_of_getElem? present)
    by_cases here : arrival.group = place
    · simp only [here, if_true] at among ⊢
      rw [receive_roles]
      cases result : arrival.result with
      | healthy fresh =>
          rw [result] at among
          rcases List.mem_append.mp among with known | new
          · exact before machine known
          · obtain rfl := List.mem_singleton.mp new
            exact heard machine result old (here ▸ present)
      | failed cause destroyed orphaned =>
          rw [result] at among
          exact before machine among
    · simp only [here, if_false] at among ⊢
      exact before machine among
  · rw [receive_groups, receive_inbox]
    intro other later machine result progress found
    rw [List.getElem?_modify] at found
    obtain ⟨old, present, rfl⟩ := Option.map_eq_some_iff.mp found
    have told := outfitted.arrivals other (inbox ▸ List.mem_cons_of_mem _ later) machine result old present
    split
    · rw [receive_roles]
      exact told
    · exact told

theorem Outfitted.happens {before after : State σ} {event : Option Event} (sound : before.Sound plan)
    (outfitted : before.Outfitted) (happens : Happens provider plan before event after) : after.Outfitted := by
  cases happens with
  | crashes found working left => exact outfitted.moves sound (mem_of_slot? found) left nofun
  | steps happens =>
      cases step_sound provider plan _ _ _ happens with
      | moves found move =>
          refine outfitted.moves sound (mem_of_slot? found) _ ?_
          rintro machine rfl
          exact roles_of_move move
      | receives inbox => exact outfitted.receives inbox
      | isCancelled | notices | runsOut | finishes => exact ⟨outfitted.healthy, outfitted.arrivals⟩
      | begins settled =>
          obtain ⟨_, quiet⟩ := before.isPending_eq_false.mp settled
          constructor
          · intro progress member machine among
            obtain ⟨old, present, rfl⟩ := List.mem_map.mp member
            rw [GroupProgress.launch_healthy] at among
            have same : old.launch.outcome.roles = old.outcome.roles := by
              unfold GroupProgress.launch
              split <;> rfl
            exact same ▸ outfitted.healthy old present machine among
          · intro arrival member
            exact (List.not_mem_nil (quiet ▸ member)).elim

end State

theorem Course.outfitted {provider : Provider σ} {plan : Plan} {cancelled : Bool} {start : σ}
    {changes : List (Change σ)} {state : State σ}
    (course : Course provider plan (.initial plan cancelled start) changes state) : state.Outfitted :=
  course.keeps_sound (fun _ state => state.Outfitted)
    (fun _ _ _ _ sound outfitted happens => outfitted.happens sound happens)
    (State.outfitted_initial plan cancelled start)

/-! ### Group by group -/

def carrying (roles : RoleSet) (machines : List Instance) : List Instance :=
  machines.filter fun machine => machine.roles = roles

namespace State

-- The roles of a group tell its machines from those of the other groups.
theorem Outfitted.carrying_healthy {plan : Plan} {state : State σ} (outfitted : state.Outfitted)
    (sound : state.Sound plan) (feasible : plan.topology.Feasible) {progress : GroupProgress}
    (member : progress ∈ state.groups) :
    carrying progress.outcome.roles state.healthy = progress.healthy := by
  have roles : (state.groups.map fun progress => progress.outcome.roles) =
      plan.topology.groups.map InstanceGroup.roles := by
    apply sound.map_groups
    intro index group progress declared present
    exact (sound.groups index group progress declared present).roles
  have own (other : GroupProgress) (among : other ∈ state.groups) :
      carrying progress.outcome.roles other.healthy =
        if other.outcome.roles = progress.outcome.roles then other.healthy else [] := by
    have dressed := outfitted.healthy other among
    split
    · rename_i same
      apply List.filter_eq_self.mpr
      intro machine healthy
      simpa using (dressed machine healthy).trans same
    · rename_i different
      apply List.filter_eq_nil_iff.mpr
      intro machine healthy
      simpa [dressed machine healthy] using different
  calc carrying progress.outcome.roles state.healthy
      = state.groups.flatMap fun other => carrying progress.outcome.roles other.healthy := by
        exact List.filter_flatMap
    _ = state.groups.flatMap fun other =>
          if other.outcome.roles = progress.outcome.roles then other.healthy else [] := by
        rw [List.flatMap_def, List.flatMap_def]
        exact congrArg List.flatten (List.map_congr_left own)
    _ = progress.healthy := flatMap_of_key _ _ (roles ▸ feasible.distinct) member

section

variable {plan : Plan} {state : State σ} (outfitted : state.Outfitted) (sound : state.Sound plan)
  (feasible : plan.topology.Feasible)

include outfitted sound feasible

theorem Outfitted.carrying_group {index : Nat} {group : InstanceGroup} {progress : GroupProgress}
    (declared : plan.topology.groups[index]? = some group) (present : state.groups[index]? = some progress) :
    carrying group.roles state.healthy = progress.healthy := by
  rw [← (sound.groups index group progress declared present).roles]
  exact outfitted.carrying_healthy sound feasible (List.mem_of_getElem? present)

theorem Outfitted.roles_once {machine : Instance} (member : machine ∈ state.healthy) :
    plan.topology.groups.countP (fun group => group.roles = machine.roles) = 1 := by
  obtain ⟨progress, among, healthy⟩ := List.mem_flatMap.mp member
  obtain ⟨group, of, declared⟩ := sound.group_of among
  have once := feasible.distinct.count (a := group.roles)
  rw [if_pos (List.mem_map_of_mem declared), List.count, List.countP_map] at once
  rw [← once, outfitted.healthy progress among machine healthy, of.roles]
  apply List.countP_congr
  intro other _
  simp

-- The healthy machines of a launch are those of the first group, then those of the second, and so on.
theorem Outfitted.healthy_order :
    state.healthy = plan.topology.groups.flatMap fun group => carrying group.roles state.healthy := by
  have same : state.groups.map GroupProgress.healthy =
      plan.topology.groups.map fun group => carrying group.roles state.healthy := by
    apply sound.map_groups
    intro index group progress declared present
    exact (outfitted.carrying_group sound feasible declared present).symm
  rw [List.flatMap_def, ← same]
  rfl

end

end State

structure AsDeclared (topology : Topology) (cluster : Cluster) (report : LaunchReport) : Prop where
  name : cluster.name = topology.clusterName
  properties : cluster.properties = .empty
  roles : ∀ machine ∈ cluster.instances,
    topology.groups.countP (fun group => group.roles = machine.roles) = 1
  size : report.groups.length = topology.groups.length
  counts : ∀ (index : Nat) group outcome, topology.groups[index]? = some group →
    report.groups[index]? = some outcome → outcome.roles = group.roles ∧
      (carrying group.roles cluster.instances).length = outcome.succeeded ∧
      group.required.toNat ≤ outcome.succeeded ∧ outcome.succeeded ≤ group.target.toNat
  order : cluster.instances = topology.groups.flatMap fun group => carrying group.roles cluster.instances
  distinct : cluster.ids.Nodup
  reported : report.instances = cluster.instances
  spared : ∀ machine ∈ cluster.instances, machine.id ∉ report.destroyed ∧ machine.id ∉ report.orphaned

/-- Every machine that is healthy in the end is in the cluster of a launch that succeeds. -/
theorem Course.asDeclared {provider : Provider σ} {plan : Plan} {cancelled : Bool} {start : σ}
    {changes : List (Change σ)} {final : State σ} (feasible : plan.topology.Feasible)
    (course : Course provider plan (.initial plan cancelled start) changes final)
    (finished : final.finished = true) (distinct : (handedOver provider changes).Nodup)
    {cluster : Cluster} {report : LaunchReport}
    (succeeds : (final.verdict provider plan).1 = .ok (cluster, report)) :
    AsDeclared plan.topology cluster report := by
  have sound := course.sound
  have outfitted := course.outfitted
  obtain ⟨told, reported, groups, adds⟩ := course.addsUp finished
  -- no id is in two places when the launch is over
  obtain ⟨_, same, among⟩ := course.held_subperm
  have apart := same.nodup_iff.mp (distinct.sublist among)
  rw [State.held_of_settled (sound.settled finished), List.append_assoc] at apart
  obtain ⟨healthyDistinct, _, lost⟩ := List.nodup_append.mp apart
  have ending := final.verdict_ending provider plan
  rw [succeeds] at ending reported
  cases reported
  generalize (final.verdict provider plan).2 = after at ending
  cases ending with
  | succeeds succeeded =>
      have instances := Cluster.ofInstances_instances plan.topology.clusterName final.healthy healthyDistinct
      constructor
      case name => exact Cluster.addAll_name _ _
      case properties => exact Cluster.addAll_properties _ _
      case roles =>
        rw [instances]
        exact fun machine member => outfitted.roles_once sound feasible member
      case size => exact (List.length_map _).trans sound.size
      case counts =>
        intro index group outcome declared present
        change (final.groups.map GroupProgress.outcome)[index]? = some outcome at present
        rw [List.getElem?_map] at present
        obtain ⟨progress, there, rfl⟩ := Option.map_eq_some_iff.mp present
        have of := sound.groups index group progress declared there
        have counts := adds index progress there
        rw [instances, outfitted.carrying_group sound feasible declared there]
        refine ⟨of.roles, counts.succeeded.symm, ?_, of.target ▸ counts.within⟩
        rw [← of.required]
        exact succeeded.2 _ (List.mem_map_of_mem (List.mem_of_getElem? there))
      case order =>
        rw [instances]
        exact outfitted.healthy_order sound feasible
      case distinct => exact Cluster.distinct _
      case reported => rfl
      case spared =>
        rw [instances]
        intro machine member
        have healthy := List.mem_map_of_mem (f := Instance.id) member
        constructor
        · intro destroyed
          exact lost _ healthy _ (List.mem_append_left _ destroyed) rfl
        · intro orphaned
          exact lost _ healthy _ (List.mem_append_right _ orphaned) rfl

/-- A launch of a valid topology that succeeds answers the cluster that was declared, however its
steps came, whichever of its requests crashed and whatever its provider answered, as long as no
two machines that were handed over share an id: every machine has the roles of one group, the
groups come in their order, and each has as many machines as its report counts, which are enough
and not too many. The report lists the machines of the cluster, and none of them as lost. -/
theorem launched_as_declared (topology : Topology) (bootstrap : RoleSet → Script) (options : LaunchOptions)
    (valid : topology.validate = .ok ()) :
    let plan := Launch.plan topology bootstrap options
    (∀ (σ : Type) (provider : Provider σ) (cancelled : Bool) (start : σ) (changes : List (Change σ))
      (final : State σ) (cluster : Cluster) (report : LaunchReport),
      Course provider plan (.initial plan cancelled start) changes final → final.finished = true →
      (handedOver provider changes).Nodup → (final.verdict provider plan).1 = .ok (cluster, report) →
      AsDeclared topology cluster report) ∧
    (∀ (σ : Type) (provider : Provider σ) (now : Nat) (start : σ) (cluster : Cluster) (report : LaunchReport),
      (run provider topology bootstrap options now start).1 = .ok (cluster, report) →
      ∃ trace final, Completes provider plan (options.cancelAt.any (· ≤ now)) start trace final ∧
        (final.verdict provider plan).1 = .ok (cluster, report) ∧
        ((handed provider trace).Nodup → AsDeclared topology cluster report)) ∧
    (∀ (now : Nat) (start : Simulation) (cluster : Cluster) (report : LaunchReport),
      (run Simulation.provider topology bootstrap options now start).1 = .ok (cluster, report) →
      AsDeclared topology cluster report) := by
  intro plan
  have feasible : plan.topology.Feasible := Topology.feasible_of_validate valid
  have declared {σ : Type} {provider : Provider σ} {now : Nat} {start : σ} {cluster : Cluster}
      {report : LaunchReport} (succeeds : (run provider topology bootstrap options now start).1 =
        .ok (cluster, report)) :
      ∃ trace final, Completes provider plan (options.cancelAt.any (· ≤ now)) start trace final ∧
        (final.verdict provider plan).1 = .ok (cluster, report) ∧
        ((handed provider trace).Nodup → AsDeclared topology cluster report) := by
    obtain ⟨trace, final, ended, completes, answers, _⟩ :=
      run_completes provider topology bootstrap options now start
    rw [answers] at succeeds
    refine ⟨trace, final, completes, succeeds, fun distinct => ?_⟩
    exact completes.run.course.asDeclared feasible completes.finished
      (handedOver_of_run provider plan trace ▸ distinct) succeeds
  refine ⟨?_, fun _ _ _ _ _ _ succeeds => declared succeeds, ?_⟩
  · intro σ provider cancelled start changes final cluster report course finished distinct succeeds
    exact course.asDeclared feasible finished distinct succeeds
  · intro now start cluster report succeeds
    obtain ⟨trace, final, completes, _, asDeclared⟩ := declared succeeds
    exact asDeclared completes.run.handed_nodup

/-- One worker is refused, and the other two are healthy before the master is; in the cluster
the master comes first. -/
theorem launched_as_declared_of_three :
    let topology := plainTopology [⟨.ofList ["master"], 1, 100, 1⟩, ⟨.ofList ["worker"], 3, 50, 1⟩] 0
    let plan := plan topology (fun _ => ⟨[], []⟩) .none
    let start := Simulation.new.setDue (.ofList ["worker"]) ⟨1, false, 0⟩
    let before := State.initial plan false start
    let events := [.proceed, .start 0, .start 1, .created 1, .start 2, .created 2, .checked 2, .received,
      .received, .start 3, .created 3, .checked 3, .received, .created 0, .checked 0, .received, .proceed]
    let trace := before.moments Simulation.provider plan events
    topology.validate = .ok () ∧
    ∃ (final : State Simulation) (cluster : Cluster) (report : LaunchReport),
      Course Simulation.provider plan before (trace.map (Moment.change Simulation.provider plan)) final ∧
      (final.verdict Simulation.provider plan).1 = .ok (cluster, report) ∧
      cluster.ids = ["stub-00003", "stub-00001", "stub-00002"] ∧ AsDeclared topology cluster report := by
  intro topology plan start before events trace
  have valid : topology.validate = .ok () := by decide +kernel
  have ends : ((before.replay Simulation.provider plan events).map fun final =>
      (final.finished, ((final.verdict Simulation.provider plan).1.toOption.map fun answer => answer.1.ids))) =
      some (true, some ["stub-00003", "stub-00001", "stub-00002"]) := by decide +kernel
  have ids : handed Simulation.provider trace = ["stub-00001", "stub-00002", "stub-00003"] := by decide +kernel
  obtain ⟨final, happens, same⟩ := Option.map_eq_some_iff.mp ends
  obtain ⟨finished, answers⟩ := Prod.mk.inj same
  obtain ⟨⟨cluster, report⟩, answered, listed⟩ := Option.map_eq_some_iff.mp answers
  have succeeds : (final.verdict Simulation.provider plan).1 = .ok (cluster, report) := by
    cases verdict : (final.verdict Simulation.provider plan).1 with
    | error _ => rw [verdict] at answered; cases answered
    | ok _ => rw [verdict] at answered; cases answered; rfl
  have course := (Run.of_replay happens).course
  have distinct : (handedOver Simulation.provider (trace.map (Moment.change Simulation.provider plan))).Nodup := by
    rw [handedOver_of_run, ids]
    decide
  exact ⟨valid, final, cluster, report, course, succeeds, listed,
    (launched_as_declared topology (fun _ => ⟨[], []⟩) .none valid).1 _ Simulation.provider false start _ final
      cluster report course finished distinct succeeds⟩

end Launch

end Muster
