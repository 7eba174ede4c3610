import Muster.Proofs.Lifecycle.Checks
import Muster.Proofs.Lifecycle.Leaving
import Muster.Proofs.Lifecycle.Published
import Muster.Proofs.Lifecycle.Reloading
import Muster.Proofs.Lifecycle.Steady

/-!
Phases that are run again. With scripted handlers and a provider whose answers do not change, a
phase goes in the same way on two clusters that would be the same if all their machines had been
asked for their host names. One that has succeeded leaves a cluster on which, loaded from its
manifest, it succeeds again and changes nothing.
-/

namespace Muster

variable {σ : Type} {answers : Answers} {holds : σ → Prop}

/-! ### Machines that have been settled -/

theorem Answers.settle_settle (answers : Answers) (machine : Instance) :
    answers.settle (answers.settle machine) = answers.settle machine := by
  obtain ⟨node, roles, _ | hosts⟩ := machine
  · simp only [settle, Option.none_or]
    cases (answers.hosts node).toOption <;> rfl
  · rfl

-- What is remembered of a settled machine settles to the same again.
theorem Answers.settle_remembered (answers : Answers) {machine : Instance} (named : machine.hosts ≠ some .unknown) :
    answers.settle (answers.settle machine).remembered = answers.settle machine := by
  obtain ⟨node, roles, _ | hosts⟩ := machine
  · simp only [settle, Instance.remembered, Option.none_or]
    cases (answers.hosts node).toOption with
    | none => rfl
    | some hosts => by_cases unknown : hosts = .unknown <;> simp [Option.filter, unknown]
  · have known : hosts ≠ .unknown := fun same => named (same ▸ rfl)
    simp [settle, Instance.remembered, Option.filter, known]

namespace RolloutPlan

variable {plan : RolloutPlan} {machine other : Instance}

theorem settle_roles (plan : RolloutPlan) (answers : Answers) (machine : Instance) :
    (plan.settle answers machine).roles = machine.roles := by
  unfold settle
  split <;> rfl

theorem settle_bare (plan : RolloutPlan) (answers : Answers) (machine : Instance) :
    (plan.settle answers machine).bare = machine.bare := by
  unfold settle
  split <;> rfl

theorem settle_of_settle (plan : RolloutPlan) (answers : Answers) (machine : Instance) :
    answers.settle (plan.settle answers machine) = answers.settle machine := by
  unfold settle
  split
  · rfl
  · exact answers.settle_settle machine

theorem settle_remembered (plan : RolloutPlan) (answers : Answers) (named : machine.hosts ≠ some .unknown) :
    answers.settle (plan.settle answers machine).remembered = answers.settle machine := by
  unfold settle
  split
  · rw [Instance.remembered_eq_self.mpr named]
  · exact answers.settle_remembered named

theorem settle_again (plan : RolloutPlan) (answers : Answers) (named : machine.hosts ≠ some .unknown) :
    plan.settle answers (plan.settle answers machine).remembered = plan.settle answers machine := by
  have roles : (plan.settle answers machine).remembered.roles = machine.roles := plan.settle_roles answers machine
  rw [settle, roles]
  split
  · rename_i idle
    rw [settle, if_pos idle, Instance.remembered_eq_self.mpr named]
  · rename_i busy
    rw [plan.settle_remembered answers named, settle, if_neg busy]

-- Machines that settle to the same run the same.
theorem succeeds_of_settle (same : answers.settle other = answers.settle machine)
    (succeeds : plan.Succeeds answers machine) : plan.Succeeds answers other := by
  have node : (answers.settle other).node = (answers.settle machine).node := congrArg Instance.node same
  have roles : (answers.settle other).roles = (answers.settle machine).roles := congrArg Instance.roles same
  change other.node = machine.node at node
  change other.roles = machine.roles at roles
  rw [Succeeds, node, roles, same]
  exact succeeds

end RolloutPlan

def Cluster.SameSettled (answers : Answers) (before after : Cluster) : Prop :=
  after.instances.map answers.settle = before.instances.map answers.settle

theorem Cluster.SameSettled.sameNodes {before after : Cluster} (same : before.SameSettled answers after) :
    before.SameNodes after := by
  have bare (cluster : Cluster) :
      cluster.instances.map Instance.bare = (cluster.instances.map answers.settle).map Instance.bare := by
    rw [List.map_map]
    rfl
  rw [SameNodes, bare after, bare before, same]

/-! ### Hooks and effects -/

def PhasePlan.rollout (plan : PhasePlan σ) (queue : StatementQueue) : RolloutPlan :=
  ⟨plan.topology, queue, concurrency plan.topology plan.options⟩

structure PhaseEvent.Twins (answers : Answers) (holds : σ → Prop) (first second : PhaseEvent σ) : Prop where
  machines : first.cluster.SameSettled answers second.cluster
  firewall : second.firewall = first.firewall
  queue : second.queue = first.queue
  firstHolds : holds first.provider
  secondHolds : holds second.provider

theorem Handler.scripted_twins {first second : PhaseEvent σ} (twins : first.Twins answers holds second) (role : String)
    (hook : Hook) (phase : Phase) (topology : Topology) :
    let did := (Handler.scripted role : Handler σ).hook hook phase topology first
    let again := (Handler.scripted role : Handler σ).hook hook phase topology second
    again.1 = did.1 ∧ did.2.Twins answers holds again.2 := by
  have hosts := twins.machines.sameNodes.hosts role
  obtain ⟨machines, firewall, queue, firstHolds, secondHolds⟩ := twins
  cases hook with
  | before =>
      cases phase with
      | configure =>
          change (Scripted.beforeConfigure role topology second).1 = (Scripted.beforeConfigure role topology first).1 ∧
            (Scripted.beforeConfigure role topology first).2.Twins answers holds
              (Scripted.beforeConfigure role topology second).2
          simp only [Scripted.beforeConfigure, hosts, firewall]
          cases Scripted.ports topology role with
          | error error => exact ⟨rfl, machines, firewall, queue, firstHolds, secondHolds⟩
          | ok ports => exact ⟨rfl, machines, rfl, by simp only [Scripted.queue, queue], firstHolds, secondHolds⟩
      | bootstrap | start | stop | cleanup =>
          change _ ∧ (Scripted.queue topology role _ [] first).Twins answers holds (Scripted.queue topology role _ [] second)
          exact ⟨rfl, machines, firewall, by simp only [Scripted.queue, queue], firstHolds, secondHolds⟩
  | after => cases phase <;> exact ⟨rfl, machines, firewall, queue, firstHolds, secondHolds⟩

structure PhaseEvent.RolledOut (answers : Answers) (holds : σ → Prop) (work : RolloutPlan) (before after : PhaseEvent σ) :
    Prop where
  holds : holds after.provider
  name : after.cluster.name = before.cluster.name
  properties : after.cluster.properties = before.cluster.properties
  machines : after.cluster.instances = before.cluster.instances.map (work.settle answers)
  queue : after.queue = before.queue

namespace PhaseRun

variable {plan : PhasePlan σ} {first second run : PhaseRun σ}

theorem authorize_twins (steady : plan.provider.Steady answers holds) (twins : first.event.Twins answers holds second.event)
    (succeeds : (authorize plan first).1 = .ok ()) : (authorize plan second).1 = .ok () ∧
      (authorize plan first).2.event.Twins answers holds (authorize plan second).2.event := by
  have pending := Firewall.pending_sameNodes twins.machines.sameNodes first.event.firewall
  rw [← twins.firewall] at pending
  obtain ⟨did, firstStays⟩ := steady.authorize (first.event.firewall.pending first.event.cluster) _ twins.firstHolds
  obtain ⟨again, secondStays⟩ := steady.authorize (first.event.firewall.pending first.event.cluster) _ twins.secondHolds
  rw [twins.firewall] at pending
  simp only [authorize, twins.firewall, pending] at succeeds ⊢
  split
  · exact ⟨rfl, twins⟩
  · rename_i due
    rw [if_neg due] at succeeds
    rcases asked : plan.provider.authorize (first.event.firewall.pending first.event.cluster) first.event.provider
      with ⟨error | ⟨⟩, left⟩
    · rw [asked] at succeeds
      cases succeeds
    · rcases repeated : plan.provider.authorize (first.event.firewall.pending first.event.cluster) second.event.provider
        with ⟨error | ⟨⟩, after⟩
      · rw [asked] at did
        rw [repeated, ← did] at again
        cases again
      · rw [asked] at firstStays
        rw [repeated] at secondStays
        exact ⟨rfl, twins.machines, rfl, twins.queue, firstStays, secondStays⟩

theorem authorize_holds (steady : plan.provider.Steady answers holds) (here : holds run.event.provider) :
    holds (authorize plan run).2.event.provider := by
  have still := (steady.authorize (run.event.firewall.pending run.event.cluster) _ here).2
  simp only [authorize]
  split
  · exact here
  · split
    all_goals
      rename_i asked
      rw [asked] at still
      exact still

theorem rollOut_comes (steady : plan.provider.Steady answers holds) (run : PhaseRun σ) (here : holds run.event.provider) :
    let work := plan.rollout run.event.queue
    ((rollOut plan run).1 = .ok () ↔ ∀ machine ∈ run.event.cluster.instances, work.Succeeds answers machine) ∧
      run.event.RolledOut answers holds work (rollOut plan run).2.event := by
  intro work
  by_cases empty : run.event.queue.isEmpty = true
  · have idle (machine : Instance) : (work.queue.forRoles machine.roles).isEmpty = true := by
      rw [show work.queue.forRoles machine.roles = [] from StatementQueue.forRoles_of_isEmpty empty machine.roles]
      rfl
    have settled : work.settle answers = id := funext fun machine => if_pos (idle machine)
    simp only [rollOut, empty, if_true]
    constructor
    · simp [RolloutPlan.Succeeds, idle]
    · exact ⟨here, rfl, rfl, by rw [settled, List.map_id], rfl⟩
  · have positive : 0 < work.limit := concurrency_positive _ _
    have comes := Rollout.run_comes steady positive run.event.cluster here
    constructor
    · rw [(rollOut_run plan run).1]
      exact (Rollout.verdict_judges plan.phase _).succeeds.trans comes.calls
    · simp only [rollOut]
      rw [if_neg empty]
      split <;> exact ⟨comes.holds, comes.name, comes.properties, comes.machines, rfl⟩

theorem rollOut_firewall (plan : PhasePlan σ) (run : PhaseRun σ) :
    (rollOut plan run).2.event.firewall = run.event.firewall := by
  simp only [rollOut]
  split
  · rfl
  · split <;> rfl

theorem rollOut_twins (steady : plan.provider.Steady answers holds) (twins : first.event.Twins answers holds second.event)
    (succeeds : (rollOut plan first).1 = .ok ()) : (rollOut plan second).1 = .ok () ∧
      (rollOut plan first).2.event.Twins answers holds (rollOut plan second).2.event := by
  obtain ⟨did, left⟩ := rollOut_comes steady first twins.firstHolds
  obtain ⟨again, after⟩ := rollOut_comes steady second twins.secondHolds
  rw [twins.queue] at again after
  have all := did.mp succeeds
  constructor
  · refine again.mpr fun machine member => ?_
    have settled : answers.settle machine ∈ first.event.cluster.instances.map answers.settle :=
      twins.machines ▸ List.mem_map_of_mem member
    obtain ⟨other, among, same⟩ := List.mem_map.mp settled
    exact RolloutPlan.succeeds_of_settle same.symm (all other among)
  · refine ⟨?_, ?_, ?_, left.holds, after.holds⟩
    · have settles (before : Cluster) : (before.instances.map ((plan.rollout first.event.queue).settle answers)).map
          answers.settle = before.instances.map answers.settle := by
        rw [List.map_map]
        exact List.map_congr_left fun machine _ => RolloutPlan.settle_of_settle _ answers machine
      rw [Cluster.SameSettled, left.machines, after.machines, settles, settles]
      exact twins.machines
    · rw [rollOut_firewall, rollOut_firewall, twins.firewall]
    · rw [left.queue, after.queue, twins.queue]

end PhaseRun

inductive PhaseStep.IsPlain : PhaseStep σ → Prop where
  | call (hook : Hook) (role : String) : IsPlain (.call hook (.scripted role))
  | authorize : IsPlain (.effect .authorize)
  | rollOut : IsPlain (.effect .rollOut)

namespace PhaseRun

variable {plan : PhasePlan σ} {first second run ended : PhaseRun σ}

theorem perform_twins (steady : plan.provider.Steady answers holds) {step : PhaseStep σ} (plain : step.IsPlain)
    (twins : first.event.Twins answers holds second.event) (succeeds : (perform plan step first).1 = .ok ()) :
    (perform plan step second).1 = .ok () ∧
      (perform plan step first).2.event.Twins answers holds (perform plan step second).2.event := by
  cases plain with
  | call hook role =>
      obtain ⟨same, after⟩ := Handler.scripted_twins twins role hook plan.phase plan.topology
      constructor
      · rw [call_result] at succeeds ⊢
        rw [same]
        exact succeeds
      · change (call plan hook _ first).2.event.Twins answers holds (call plan hook _ second).2.event
        rw [call_event, call_event]
        exact after
  | authorize => exact authorize_twins steady twins succeeds
  | rollOut => exact rollOut_twins steady twins succeeds

-- By induction over the steps: what succeeds for one of the twins succeeds for the other.
theorem inOrder_twins (steady : plan.provider.Steady answers holds) {steps : List (PhaseStep σ)}
    (plain : ∀ step ∈ steps, step.IsPlain) (twins : first.event.Twins answers holds second.event)
    (succeeds : inOrder (perform plan) steps first = (.ok (), ended)) :
    ∃ again, inOrder (perform plan) steps second = (.ok (), again) ∧ ended.event.Twins answers holds again.event := by
  induction steps generalizing first second with
  | nil =>
      cases succeeds
      exact ⟨second, rfl, twins⟩
  | cons step rest ih =>
      obtain ⟨after, performed, later⟩ := inOrder_cons_ok succeeds
      obtain ⟨does, still⟩ := perform_twins steady (plain step List.mem_cons_self) twins (congrArg Prod.fst performed)
      rw [performed] at still
      rcases repeated : perform plan step second with ⟨error | ⟨⟩, other⟩
      · rw [repeated] at does
        cases does
      · rw [repeated] at still
        rw [inOrder_of_ok repeated]
        exact ih (fun step member => plain step (List.mem_cons_of_mem _ member)) still later

/-! ### What a phase leaves -/

theorem befores_leave (plan : PhasePlan σ) (roles : List String) (run : PhaseRun σ) :
    let left := (inOrder (perform plan) ((roles.map .scripted).map (.call .before)) run).2
    left.event.cluster = run.event.cluster ∧ left.event.provider = run.event.provider := by
  refine inOrder_keeps (fun left : PhaseRun σ => left.event.cluster = run.event.cluster ∧
    left.event.provider = run.event.provider) ?_ ⟨rfl, rfl⟩
  intro step member found ⟨cluster, provider⟩
  rw [List.map_map] at member
  obtain ⟨role, _, rfl⟩ := List.mem_map.mp member
  have asked := (Handler.scripted_event role .before plan.phase plan.topology found.event).2
  change (call plan .before _ found).2.event.cluster = _ ∧ (call plan .before _ found).2.event.provider = _
  rw [call_event]
  refine ⟨?_, asked.trans provider⟩
  cases plan.phase with
  | configure =>
      change (Handler.Scripted.beforeConfigure role plan.topology found.event).2.cluster = _
      simp only [Handler.Scripted.beforeConfigure]
      split <;> exact cluster
  | bootstrap | start | stop | cleanup => exact cluster

end PhaseRun

/-- What the hooks after a phase make of a cluster: those after CONFIGURE publish where their roles are
reached, and others do nothing. -/
def Phase.afterwards (phase : Phase) (roles : List String) (cluster : Cluster) : Cluster :=
  if phase = .configure then cluster.publish roles else cluster

theorem Phase.afterwards_frame (phase : Phase) (roles : List String) (cluster : Cluster) :
    (phase.afterwards roles cluster).name = cluster.name ∧
      (phase.afterwards roles cluster).instances = cluster.instances := by
  unfold afterwards
  split
  · exact ⟨cluster.publish_name roles, cluster.publish_instances roles⟩
  · exact ⟨rfl, rfl⟩

theorem Phase.afterwards_again (phase : Phase) (roles : List String) (cluster : Cluster) :
    phase.afterwards roles (phase.afterwards roles cluster) = phase.afterwards roles cluster := by
  unfold afterwards
  split
  · exact cluster.publish_publish roles
  · rfl

namespace PhaseRun

variable {plan : PhasePlan σ} {run ended : PhaseRun σ}

-- By induction over the roles: none of the hooks can fail.
theorem afters_leave (plan : PhasePlan σ) (roles : List String) (run : PhaseRun σ) :
    ∃ left, inOrder (perform plan) ((roles.map .scripted).map (.call .after)) run = (.ok (), left) ∧
      left.event = { run.event with cluster := plan.phase.afterwards roles run.event.cluster } := by
  induction roles generalizing run with
  | nil => exact ⟨run, rfl, by simp [Phase.afterwards, Cluster.publish]⟩
  | cons role rest ih =>
      have called : ∃ after, perform plan (.call .after (.scripted role)) run = (.ok (), after) ∧
          after.event = { run.event with cluster := plan.phase.afterwards [role] run.event.cluster } := by
        cases phase : plan.phase with
        | configure =>
            simp only [perform, call, Handler.scripted, phase, Handler.Scripted.afterConfigure]
            exact ⟨_, rfl, rfl⟩
        | bootstrap | start | stop | cleanup =>
            simp only [perform, call, Handler.scripted, phase, HookAction.nothing]
            exact ⟨_, rfl, rfl⟩
      obtain ⟨after, performed, event⟩ := called
      obtain ⟨left, later, published⟩ := ih after
      refine ⟨left, (inOrder_of_ok performed).trans later, ?_⟩
      rw [published, event]
      unfold Phase.afterwards
      split <;> rfl

theorem effects_leave (steady : plan.provider.Steady answers holds) (transition : plan.phase ∈ [.configure, .start, .stop])
    (here : holds run.event.provider)
    (succeeds : inOrder (perform plan) (plan.phase.effects.map .effect) run = (.ok (), ended)) :
    run.event.RolledOut answers holds (plan.rollout run.event.queue) ended.event := by
  have last {found : PhaseRun σ} (still : holds found.event.provider)
      (done : inOrder (perform plan) [.effect .rollOut] found = (.ok (), ended)) :
      found.event.RolledOut answers holds (plan.rollout found.event.queue) ended.event := by
    obtain ⟨after, performed, nothing⟩ := inOrder_cons_ok done
    cases nothing
    have comes := (rollOut_comes steady found still).2
    rw [show rollOut plan found = _ from performed] at comes
    exact comes
  simp only [List.mem_cons, List.not_mem_nil, or_false] at transition
  rcases transition with phase | phase | phase
  · rw [phase] at succeeds
    obtain ⟨after, performed, later⟩ := inOrder_cons_ok succeeds
    have still := authorize_holds steady here
    have cluster := authorize_cluster plan run
    have queue : (authorize plan run).2.event.queue = run.event.queue := by
      simp only [authorize]
      split
      · rfl
      · split <;> rfl
    rw [show authorize plan run = _ from performed] at still cluster queue
    obtain ⟨holds, name, properties, machines, same⟩ := last still later
    rw [cluster] at name properties machines
    rw [queue] at machines same
    exact ⟨holds, name, properties, machines, same⟩
  · rw [phase] at succeeds
    exact last here succeeds
  · rw [phase] at succeeds
    exact last here succeeds

structure Transits (answers : Answers) (holds : σ → Prop) (plan : PhasePlan σ) (roles : List String) (cluster : Cluster)
    (ended : PhaseRun σ) (rolled : Cluster) : Prop where
  holds : holds ended.event.provider
  name : rolled.name = cluster.name
  properties : rolled.properties = cluster.properties
  machines : rolled.instances = cluster.instances.map ((plan.rollout ended.event.queue).settle answers)
  left : ended.event.cluster = plan.phase.afterwards roles rolled

theorem transition_leaves {roles : List String} (steady : plan.provider.Steady answers holds)
    (transition : plan.phase ∈ [.configure, .start, .stop]) (here : holds run.event.provider)
    (succeeds : inOrder (perform plan) (plan.phase.steps (roles.map .scripted)) run = (.ok (), ended)) :
    ∃ rolled, Transits answers holds plan roles run.event.cluster ended rolled := by
  obtain ⟨worked, begun, same, _⟩ := inOrder_split (congrArg Prod.fst succeeds)
  have ends := same.symm.trans succeeds
  obtain ⟨opened, first, same, _⟩ := inOrder_split (congrArg Prod.fst begun)
  have works := same.symm.trans begun
  obtain ⟨cluster, provider⟩ := befores_leave plan roles run
  rw [first] at cluster provider
  obtain ⟨holds, name, properties, machines, queue⟩ := effects_leave steady transition (provider ▸ here) works
  obtain ⟨left, done, event⟩ := afters_leave plan roles worked
  cases done.symm.trans ends
  rw [cluster] at name properties machines
  refine ⟨worked.event.cluster, ?_, name, properties, ?_, ?_⟩
  · rw [event]
    exact holds
  · rw [machines, event, queue]
  · rw [event]

theorem Transits.sameNodes {roles : List String} {cluster rolled : Cluster}
    (transits : Transits answers holds plan roles cluster ended rolled) : cluster.SameNodes ended.event.cluster := by
  rw [Cluster.SameNodes, transits.left, (plan.phase.afterwards_frame roles rolled).2, transits.machines, List.map_map]
  exact List.map_congr_left fun machine _ => RolloutPlan.settle_bare _ answers machine

-- What is recalled of the cluster afterwards are the machines that it had before.
theorem Transits.sameSettled {roles : List String} {cluster loaded rolled : Cluster}
    (transits : Transits answers holds plan roles cluster ended rolled) (named : cluster.IsNamed)
    (recalls : loaded.Recalls ended.event.cluster) : cluster.SameSettled answers loaded := by
  rw [Cluster.SameSettled, recalls.instances, transits.left, (plan.phase.afterwards_frame roles rolled).2,
    transits.machines, List.map_map, List.map_map]
  exact List.map_congr_left fun machine member => RolloutPlan.settle_remembered _ answers (named machine member)

/-- A phase that is repeated on what is recalled of the cluster leaves the same cluster. -/
theorem Transits.again {roles : List String} {cluster loaded rolled repeated : Cluster} {again : PhaseRun σ}
    (transits : Transits answers holds plan roles cluster ended rolled) (named : cluster.IsNamed)
    (recalls : loaded.Recalls ended.event.cluster) (queue : again.event.queue = ended.event.queue)
    (repeats : Transits answers holds plan roles loaded again repeated) :
    again.event.cluster = ended.event.cluster := by
  obtain ⟨keptName, keptInstances⟩ := plan.phase.afterwards_frame roles rolled
  rw [← transits.left] at keptName keptInstances
  have machines : repeated.instances = ended.event.cluster.instances := by
    rw [repeats.machines, recalls.instances, keptInstances, transits.machines, queue, List.map_map, List.map_map]
    exact List.map_congr_left fun machine member => RolloutPlan.settle_again _ answers (named machine member)
  have same : repeated = ended.event.cluster :=
    Cluster.eq_of_parts (repeats.name.trans recalls.name) machines (repeats.properties.trans recalls.properties)
  rw [repeats.left, same, transits.left]
  exact plan.phase.afterwards_again roles rolled

end PhaseRun

/-! ### Phases -/

def Registry.IsScripted (registry : Registry σ) : Prop := registry.Each fun role handler => handler = .scripted role

theorem Registry.withScripted_isScripted {registry : Registry σ} (scripted : registry.IsScripted) (topology : Topology) :
    (registry.withScripted topology).IsScripted :=
  withScripted_each scripted topology fun _ => rfl

namespace Dispatcher

variable {dispatcher : Dispatcher σ} {phase : Phase} {topology : Topology} {cluster : Cluster}

theorem scripted_of_found (scripted : dispatcher.registry.IsScripted) {handlers : List (Handler σ)}
    (found : dispatcher.handlersFor phase topology cluster = .ok handlers) :
    ∃ roles : List String, handlers = roles.map .scripted := by
  refine ⟨handlers.map Handler.role, ?_⟩
  rw [List.map_map]
  refine ((List.map_congr_left fun handler member => ?_).trans (List.map_id _)).symm
  obtain ⟨role, registered⟩ := registered_of_found found member
  rw [scripted role handler registered]
  rfl

theorem checkExclusions_sameNodes {other : Cluster} (same : cluster.SameNodes other) (pairs : List (String × String)) :
    checkExclusions phase topology other pairs = checkExclusions phase topology cluster pairs := by
  induction pairs with
  | nil => rfl
  | cons pair rest ih =>
      have apart : checkApart phase topology other pair.1 pair.2 = checkApart phase topology cluster pair.1 pair.2 := by
        cases phase with
        | bootstrap => rfl
        | configure | start | stop | cleanup => exact same.checkDisjoint pair.1 pair.2
      simp only [checkExclusions, apart, ih]

-- Which handlers a phase has depends on the nodes and roles of the cluster alone.
theorem handlersFor_sameNodes {other : Cluster} (same : cluster.SameNodes other) :
    dispatcher.handlersFor phase topology other = dispatcher.handlersFor phase topology cluster := by
  have roles : rolesFor phase topology other = rolesFor phase topology cluster := by
    cases phase with
    | bootstrap => rfl
    | configure | start | stop | cleanup => exact same.roleNames
  simp only [handlersFor, roles, checkExclusions_sameNodes same]

theorem steps_plain (transition : phase ∈ [.configure, .start, .stop]) (roles : List String) :
    ∀ step ∈ phase.steps (roles.map (Handler.scripted (σ := σ))), step.IsPlain := by
  intro step member
  have calls (hook : Hook) (among : step ∈ (roles.map Handler.scripted).map (.call hook)) : step.IsPlain := by
    rw [List.map_map] at among
    obtain ⟨role, _, rfl⟩ := List.mem_map.mp among
    exact .call hook role
  simp only [Phase.steps, List.mem_append] at member
  rcases member with (before | effect) | after
  · exact calls .before before
  · obtain ⟨effect, among, rfl⟩ := List.mem_map.mp effect
    simp only [List.mem_cons, List.not_mem_nil, or_false] at transition
    rcases transition with rfl | rfl | rfl
    · rcases List.mem_pair.mp among with rfl | rfl
      · exact .authorize
      · exact .rollOut
    all_goals
      obtain rfl := List.mem_singleton.mp among
      exact .rollOut
  · exact calls .after after

/-- What a phase leaves that can be repeated: on what is recalled of its cluster, and with the provider in
any state of its kind, it succeeds again and leaves the same cluster. -/
structure Repeatable (holds : σ → Prop) (dispatcher : Dispatcher σ) (phase : Phase) (topology : Topology)
    (cluster : Cluster) (left : PhaseOutcome σ) : Prop where
  steady : holds left.state
  name : left.cluster.name = cluster.name
  nodes : cluster.SameNodes left.cluster
  properties : phase ≠ .configure → left.cluster.properties = cluster.properties
  again : ∀ loaded now state, loaded.Recalls left.cluster → holds state →
    (dispatcher.run phase topology loaded now state).result = .ok () ∧
      (dispatcher.run phase topology loaded now state).cluster = left.cluster

theorem run_repeatable (steady : dispatcher.provider.Steady answers holds) (scripted : dispatcher.registry.IsScripted)
    (transition : phase ∈ [.configure, .start, .stop]) (named : cluster.IsNamed) {now : Nat} {state : σ} (here : holds state)
    (succeeds : (dispatcher.run phase topology cluster now state).result = .ok ()) :
    dispatcher.Repeatable holds phase topology cluster (dispatcher.run phase topology cluster now state) := by
  cases found : dispatcher.handlersFor phase topology cluster with
  | error error =>
      rw [run_of_refused now state found] at succeeds
      cases succeeds
  | ok handlers =>
      obtain ⟨roles, rfl⟩ := scripted_of_found scripted found
      rw [run_of_found now state found] at succeeds ⊢
      rcases done : inOrder (PhaseRun.perform (dispatcher.planOf phase topology)) (phase.steps (roles.map .scripted))
        (dispatcher.begun phase topology cluster now state) with ⟨error | ⟨⟩, ended⟩
      · rw [done] at succeeds
        cases succeeds
      · have steady : (dispatcher.planOf phase topology).provider.Steady answers holds := steady
        obtain ⟨rolled, transits⟩ := PhaseRun.transition_leaves steady transition here done
        obtain ⟨name, _⟩ := phase.afterwards_frame roles rolled
        have nodes := transits.sameNodes
        refine ⟨transits.holds, ?_, nodes, ?_, ?_⟩
        · exact (congrArg Cluster.name transits.left).trans (name.trans transits.name)
        · intro other
          have same : phase.afterwards roles rolled = rolled := if_neg other
          exact (congrArg Cluster.properties (transits.left.trans same)).trans transits.properties
        · intro loaded later state recalls still
          have same := transits.sameSettled named recalls
          have again : dispatcher.handlersFor phase topology loaded = .ok (roles.map .scripted) :=
            (handlersFor_sameNodes same.sameNodes).trans found
          have twins : (dispatcher.begun phase topology cluster now _).event.Twins answers holds
              (dispatcher.begun phase topology loaded later state).event := ⟨same, rfl, rfl, here, still⟩
          obtain ⟨other, repeated, stay⟩ := PhaseRun.inOrder_twins steady (steps_plain transition roles) twins done
          obtain ⟨_, repeats⟩ := PhaseRun.transition_leaves steady transition still repeated
          rw [run_of_found later state again, repeated]
          exact ⟨rfl, transits.again named recalls stay.queue repeats⟩

end Dispatcher

end Muster
