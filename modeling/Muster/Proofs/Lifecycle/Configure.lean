import Muster.Proofs.Firewall.Expansion
import Muster.Proofs.Lifecycle.Scripted
import Muster.Provider.Simulated

/-!
What CONFIGURE does with scripted handlers. Before it does anything the hooks have opened ports and queued what the
machines run; after it the hooks publish where the roles are reached. The list of a role is made twice, and
is the same both times, since nothing that lies between changes where a machine is reached.
-/

namespace Muster

open Handler.Scripted

variable {σ : Type}

/-! ### What is run on a machine -/

def Deed.ranOn (id : String) : Deed → Option (Script × Bool)
  | .run other script succeeded => if other = id then some (script, succeeded) else none
  | _ => none

theorem Deed.ranOn_of_act {deed : Deed} (other : deed.act ≠ .effect .rollOut) (id : String) : deed.ranOn id = none := by
  cases deed with
  | run => exact (other rfl).elim
  | hook | launch | authorize | destroy => rfl

theorem Deed.ranOn_nil {deeds : List Deed} (others : ∀ deed ∈ deeds, deed.act ≠ .effect .rollOut) (id : String) :
    deeds.filterMap (ranOn id) = [] :=
  List.filterMap_eq_nil_iff.mpr fun deed member => ranOn_of_act (others deed member) id

-- Of calls on different machines there is one on this one.
theorem RolloutCall.ranOn_of_mem {calls : List RolloutCall} {call : RolloutCall}
    (distinct : (calls.map fun call => call.machine.id).Nodup) (member : call ∈ calls) :
    (calls.map deed).filterMap (Deed.ranOn call.machine.id) = [(call.script, call.failure.isNone)] := by
  obtain ⟨front, back, rfl⟩ := List.append_of_mem member
  have apart : ∀ other ∈ front ++ back, other.machine.id ≠ call.machine.id := by
    rw [List.map_append, List.map_cons, List.nodup_middle, ← List.map_append] at distinct
    intro other among same
    exact (List.nodup_cons.mp distinct).1 (List.mem_map.mpr ⟨other, among, same⟩)
  have none (part : List RolloutCall) (within : ∀ other ∈ part, other ∈ front ++ back) :
      (part.map deed).filterMap (Deed.ranOn call.machine.id) = [] := by
    rw [List.filterMap_map, List.filterMap_eq_nil_iff]
    intro other among
    exact if_neg (apart other (within other among))
  rw [List.map_append, List.map_cons, List.filterMap_append, List.filterMap_cons,
    none front fun _ => List.mem_append_left _, none back fun _ => List.mem_append_right _]
  simp [RolloutCall.deed, Deed.ranOn]

namespace PhaseRun

variable {plan : PhasePlan σ} {run ended : PhaseRun σ}

/-- A rollout that succeeds has run one script on every machine that has something to run. -/
theorem rollOut_ran (succeeds : rollOut plan run = (.ok (), ended)) {machine : Instance}
    (member : machine ∈ run.event.cluster.instances) (due : run.event.queue.forRoles machine.roles ≠ []) :
    ∃ told script, ended.deeds = run.deeds ++ told ∧ told.filterMap (Deed.ranOn machine.id) = [(script, true)] ∧
      script.statements = run.event.queue.forRoles machine.roles := by
  obtain ⟨verdict, deeds⟩ := rollOut_run plan run
  rw [succeeds] at verdict deeds
  obtain ⟨events, follows⟩ := Rollout.run_follows plan.provider (plan.rollout run.event.queue) run.event.cluster
    run.event.provider
  have sound := (Rollout.follow_sound follows Rollout.sound_initial).1
  have served := sound.ended (Rollout.run_ended (concurrency_positive _ _) _ _)
  have passed := (Rollout.verdict_judges plan.phase _).succeeds.mp verdict.symm
  have busy : machine ∈ (plan.rollout run.event.queue).due run.event.cluster.instances := by
    simpa [RolloutPlan.due, PhasePlan.rollout, List.isEmpty_iff] using ⟨member, due⟩
  obtain ⟨call, called, rfl⟩ := List.mem_map.mp (served.mem_iff.mpr busy)
  have distinct : ((Rollout.run plan.provider (plan.rollout run.event.queue) run.event.cluster
      run.event.provider).calls.map fun call => call.machine.id).Nodup := by
    have ids := (served.map Instance.id).nodup_iff.mpr
      (run.event.cluster.distinct.sublist (List.Sublist.map _ List.filter_sublist))
    rwa [List.map_map] at ids
  obtain ⟨state, script⟩ := (sound.made call called).script
  refine ⟨_, call.script, deeds, ?_, ?_⟩
  · exact (RolloutCall.ranOn_of_mem distinct called).trans (by rw [passed call called]; rfl)
  · rw [script]
    rfl

end PhaseRun

/-! ### What a rollout leaves alone -/

theorem Rollout.run_properties (provider : Provider σ) (plan : RolloutPlan) (cluster : Cluster) (state : σ) :
    (run provider plan cluster state).cluster.properties = cluster.properties := by
  have keeps (rollout : Rollout σ) (event : RolloutEvent) (next : Rollout σ)
      (happens : rollout.step provider plan event = some next) (kept : rollout.cluster.properties = cluster.properties) :
      next.cluster.properties = cluster.properties := by
    rcases step_cases happens with ⟨same, _⟩ | ⟨machine, hosts, noted, _⟩ | ⟨node, script, same, _⟩
    · exact same ▸ kept
    · exact noted ▸ (rollout.cluster.noteHosts_frame machine.id hosts).2.trans kept
    · exact same ▸ kept
  exact run_keeps keeps rfl

theorem PhaseRun.rollOut_properties (plan : PhasePlan σ) (run : PhaseRun σ) :
    (rollOut plan run).2.event.cluster.properties = run.event.cluster.properties := by
  have kept := Rollout.run_properties plan.provider (plan.rollout run.event.queue) run.event.cluster run.event.provider
  simp only [rollOut]
  split
  · rfl
  · split <;> exact kept

theorem Cluster.publish_other {key : String} {roles : List String} (other : ∀ role ∈ roles, key ≠ hostsKey role)
    (cluster : Cluster) : (cluster.publish roles).property key = cluster.property key := by
  induction roles generalizing cluster with
  | nil => rfl
  | cons role rest ih =>
      obtain ⟨here, later⟩ := List.forall_mem_cons.mp other
      refine (ih later _).trans ?_
      exact (SortedMap.get?_insert _ _ _ _).trans (if_neg here)

/-! ### Where a role is reached -/

theorem Handler.Scripted.hosts_eq (cluster : Cluster) (role : String) : hosts cluster role =
    (cluster.instances.filter fun machine => role ∈ machine.roles).map fun machine =>
      machine.node.privateIp.getD machine.address := by
  have carries : (fun machine : Instance => machine.hasRole role) = fun machine => decide (role ∈ machine.roles) := by
    funext machine
    rw [Bool.eq_iff_iff, decide_eq_true_eq]
    exact SortedSet.contains_eq_true _ _
  rw [hosts, Cluster.withRole, carries]
  rfl

theorem Handler.Scripted.call_mem_queued (topology : Topology) (cluster : Cluster) (role : String) :
    .call (function topology role .configure) (hosts cluster role) ∈ queued topology .configure cluster role := by
  have args : arguments .configure cluster role = hosts cluster role := if_pos rfl
  rw [queued, statements, args]
  split <;> simp

/-! ### CONFIGURE step by step -/

namespace PhaseRun

variable {plan : PhasePlan σ} {run ended : PhaseRun σ} {roles : List String}

-- The deeds of some steps are of their kinds.
theorem inOrder_acts (plan : PhasePlan σ) (steps : List (PhaseStep σ)) (run : PhaseRun σ) :
    ∃ told, (inOrder (perform plan) steps run).2.deeds = run.deeds ++ told ∧
      ∀ deed ∈ told, ∃ step ∈ steps, deed.act = step.act := by
  refine ⟨_, inOrder_deeds plan steps run, fun deed member => ?_⟩
  obtain ⟨entry, among, noted⟩ := List.mem_flatMap.mp member
  obtain ⟨listed, performed⟩ := performed_of_mem among
  exact ⟨entry.step, listed, (perform_noted plan performed).1.kind deed noted⟩

def RunsNothing (before after : PhaseRun σ) : Prop :=
  ∃ told, after.deeds = before.deeds ++ told ∧ ∀ deed ∈ told, deed.act ≠ .effect .rollOut

theorem runsNothing_calls (plan : PhasePlan σ) (hook : Hook) (handlers : List (Handler σ)) (run : PhaseRun σ) :
    run.RunsNothing (inOrder (perform plan) (handlers.map (.call hook)) run).2 := by
  obtain ⟨told, added, kind⟩ := inOrder_acts plan (handlers.map (.call hook)) run
  refine ⟨told, added, fun deed member act => ?_⟩
  obtain ⟨step, among, same⟩ := kind deed member
  obtain ⟨handler, _, rfl⟩ := List.mem_map.mp among
  cases same.symm.trans act

structure Configures (plan : PhasePlan σ) (roles : List String) (begun prepared authorized rolled ended : PhaseRun σ) :
    Prop where
  accepted : ∀ role ∈ roles, refusal? plan.topology .configure role = none
  prepares : prepared.event = begun.event.prepared plan.topology .configure roles
  authorizes : authorize plan prepared = (.ok (), authorized)
  rolls : rollOut plan authorized = (.ok (), rolled)
  publishes : ended.event.cluster = rolled.event.cluster.publish roles
  before : begun.RunsNothing prepared
  after : rolled.RunsNothing ended

theorem configures_of_ok (configure : plan.phase = .configure)
    (succeeds : inOrder (perform plan) (Phase.configure.steps (roles.map .scripted)) run = (.ok (), ended)) :
    ∃ prepared authorized rolled, Configures plan roles run prepared authorized rolled ended := by
  rw [Phase.configure_steps] at succeeds
  obtain ⟨prepared, before, same, _⟩ := inOrder_split (congrArg Prod.fst succeeds)
  rw [same] at succeeds
  obtain ⟨authorized, authorizes, later⟩ := inOrder_cons_ok succeeds
  obtain ⟨rolled, rolls, afterwards⟩ := inOrder_cons_ok later
  obtain ⟨left, ends, event⟩ := afters_leave plan roles rolled
  cases ends.symm.trans afterwards
  have quietBefore := runsNothing_calls plan .before (roles.map .scripted) run
  have quietAfter := runsNothing_calls plan .after (roles.map .scripted) rolled
  rw [before] at quietBefore
  rw [ends] at quietAfter
  have accepted : ∀ role ∈ roles, refusal? plan.topology plan.phase role = none := by
    by_contra refused
    obtain ⟨_, _, _, _, _, _, fails, _⟩ := befores_refused plan run (by simpa using refused)
    cases fails.symm.trans before
  cases (befores_prepare plan accepted run).symm.trans before
  rw [configure] at accepted event
  exact ⟨_, authorized, rolled, accepted, configure ▸ rfl, authorizes, rolls, congrArg PhaseEvent.cluster event,
    quietBefore, quietAfter⟩

namespace Configures

variable {begun prepared authorized rolled : PhaseRun σ}
  (configures : Configures plan roles begun prepared authorized rolled ended)

include configures

theorem cluster_eq : authorized.event.cluster = begun.event.cluster := by
  have same := authorize_cluster plan prepared
  rw [configures.authorizes, configures.prepares] at same
  exact same

theorem queue_eq : authorized.event.queue = (begun.event.prepared plan.topology .configure roles).queue := by
  have same := effect_queue plan .authorize prepared
  rw [show perform plan (.effect .authorize) prepared = _ from configures.authorizes, configures.prepares] at same
  exact same

theorem sameNodes : begun.event.cluster.SameNodes rolled.event.cluster := by
  have same := rollOut_sameNodes plan authorized
  rwa [configures.rolls, configures.cluster_eq] at same

theorem properties : rolled.event.cluster.properties = begun.event.cluster.properties := by
  have same := rollOut_properties plan authorized
  rwa [configures.rolls, configures.cluster_eq] at same

theorem ran (new : begun.deeds = []) {machine : Instance} (member : machine ∈ begun.event.cluster.instances)
    (due : (begun.event.prepared plan.topology .configure roles).queue.forRoles machine.roles ≠ []) :
    ∃ script, ended.deeds.filterMap (Deed.ranOn machine.id) = [(script, true)] ∧
      script.statements = (begun.event.prepared plan.topology .configure roles).queue.forRoles machine.roles := by
  obtain ⟨first, before, beforeActs⟩ := configures.before
  obtain ⟨second, asked, askedActs⟩ := effect_kind plan .authorize prepared
  obtain ⟨last, after, afterActs⟩ := configures.after
  rw [← configures.queue_eq] at due ⊢
  obtain ⟨told, script, rolls, ran, statements⟩ := rollOut_ran configures.rolls (configures.cluster_eq ▸ member) due
  rw [show perform plan (.effect .authorize) prepared = _ from configures.authorizes] at asked
  have quiet : ∀ deed ∈ second, deed.act ≠ .effect .rollOut := by
    intro deed among act
    cases (askedActs deed among).symm.trans act
  refine ⟨script, ?_, statements⟩
  rw [after, rolls, asked, before, new, List.nil_append, List.filterMap_append, List.filterMap_append,
    List.filterMap_append, Deed.ranOn_nil beforeActs, Deed.ranOn_nil quiet, Deed.ranOn_nil afterActs, ran]
  rfl

theorem hosts_published {role : String} (listed : role ∈ roles) : ended.event.cluster.property (hostsKey role) =
    some (",".intercalate (hosts begun.event.cluster role)) := by
  have published : (rolled.event.cluster.publish roles).Publishes role := Cluster.publish_publishes listed
  rw [← configures.publishes, Cluster.Publishes] at published
  rw [published, hosts, Cluster.withRole, configures.publishes, Cluster.publish_instances]
  exact congrArg (fun list => some (",".intercalate list)) (configures.sameNodes.hosts role)

theorem others_kept {key : String} (other : ∀ role ∈ roles, key ≠ hostsKey role) :
    ended.event.cluster.property key = begun.event.cluster.property key := by
  rw [configures.publishes, Cluster.publish_other other, Cluster.property, configures.properties, Cluster.property]

-- The statements of a machine are without repetitions, so that the call is made once if it is made for one of its roles.
theorem call_made (new : begun.deeds = []) (fresh : begun.event.queue = .empty) {machine : Instance}
    (member : machine ∈ begun.event.cluster.instances) {role : String} (carries : role ∈ machine.roles)
    (listed : role ∈ roles) :
    ∃ script, ended.deeds.filterMap (Deed.ranOn machine.id) = [(script, true)] ∧
      script.statements.count (.call (function plan.topology role .configure) (hosts begun.event.cluster role)) = 1 := by
  have made : .call (function plan.topology role .configure) (hosts begun.event.cluster role) ∈
      (begun.event.prepared plan.topology .configure roles).queue.forRoles machine.roles :=
    (PhaseEvent.mem_prepared fresh plan.topology .configure roles machine.roles).mpr
      ⟨role, carries, listed, call_mem_queued plan.topology begun.event.cluster role⟩
  obtain ⟨script, ran, statements⟩ := configures.ran new member (List.ne_nil_of_mem made)
  refine ⟨script, ran, ?_⟩
  rw [statements]
  exact List.count_eq_one_of_mem (nodup_firstOccurrences _) made

end Configures

end PhaseRun

/-! ### What is granted -/

-- A rule of a role opens its ports to the default sources on every machine that carries the role.
theorem Firewall.target_applied {firewall : Firewall} {cluster : Cluster} {role : String} {listed : List UInt16}
    (settled : firewall.pending cluster = []) (has : firewall.Has ((FirewallRule.forRole role).withPorts listed))
    {machine : Instance} (member : machine ∈ cluster.instances) (carries : role ∈ machine.roles) {port : UInt16}
    (opened : port ∈ listed) {cidr : String} (source : cidr ∈ firewall.defaultSources) :
    machine.target port cidr ∈ firewall.applied := by
  have opens : port ∈ ((FirewallRule.forRole role).withPorts listed).ports := (SortedSet.mem_ofList listed port).mpr opened
  have added : (FirewallRule.forRole role).withPorts listed ∈ firewall.rules := by
    refine has.resolve_left fun closed => ?_
    rw [SortedSet.isEmpty, List.isEmpty_iff] at closed
    rw [← SortedSet.mem_toList, closed] at opens
    cases opens
  have covers : ((FirewallRule.forRole role).withPorts listed).destination.covers machine = true :=
    (SortedSet.intersects_eq_true _ _).mpr ⟨role, carries, (SortedSet.mem_ofList [role] role).mpr List.mem_cons_self⟩
  exact pending_eq_nil.mp settled _ ⟨_, added, machine, member, covers, rfl, rfl, opens, source⟩

namespace Dispatcher

variable {dispatcher : Dispatcher σ} {phase : Phase} {topology : Topology} {cluster : Cluster} {now : Nat} {state : σ}

theorem configured_target (scripted : dispatcher.registry.IsScripted)
    (succeeds : (dispatcher.run .configure topology cluster now state).result = .ok ()) {machine : Instance}
    (member : machine ∈ cluster.instances) {role : String} (carries : role ∈ machine.roles) {listed : List UInt16}
    (read : Handler.Scripted.ports topology role = .ok listed) {port : UInt16} (opened : port ∈ listed) {cidr : String}
    (source : cidr ∈ (dispatcher.run .configure topology cluster now state).dispatcher.firewall.defaultSources) :
    machine.target port cidr ∈ (dispatcher.run .configure topology cluster now state).dispatcher.firewall.applied := by
  let adds (role : String) : List FirewallRule := Handler.Scripted.opened topology role .configure
  have opens : dispatcher.registry.Each fun _ handler => handler.Opens (adds handler.role) .configure topology :=
    fun name handler registered => scripted name handler registered ▸ Handler.scripted_opens name .configure topology
  have repeats : Repeats adds (dispatcher.history .configure topology cluster now state) := repeats_of_each opens
  have rules : adds role = [(FirewallRule.forRole role).withPorts listed] := by
    simp only [adds, Handler.Scripted.opened, read]
  cases found : dispatcher.handlersFor .configure topology cluster with
  | error refused =>
      rw [run_of_refused now state found] at succeeds
      cases succeeds
  | ok handlers =>
      have among : .scripted role ∈ handlers := by
        rw [handlers_scripted (fun name _ handler registered => scripted name handler registered) found]
        exact List.mem_map_of_mem ((mem_rolesOf _ role).mpr ⟨_, List.mem_map_of_mem member, carries⟩)
      rw [run_of_found now state found] at succeeds source ⊢
      rw [history_of_found now state found] at repeats
      have configured := PhaseRun.configured_of_ok succeeds repeats
      have settled := configured.settled
      rw [Firewall.pending_sameNodes configured.nodes] at settled
      have has := configured.added (.scripted role) among _ (rules ▸ List.mem_cons_self)
      exact Firewall.target_applied settled has member carries opened source

theorem mem_deedsOfAll {calls : List (PhaseCall σ)} {deed : Deed} (member : deed ∈ dispatcher.deedsOfAll calls) :
    ∃ early call late, calls = early ++ call :: late ∧ deed ∈ ((dispatcher.afterAll early).answer call).deeds := by
  induction calls generalizing dispatcher with
  | nil => cases member
  | cons call rest ih =>
      rcases List.mem_append.mp member with here | later
      · exact ⟨[], call, rest, rfl, here⟩
      · obtain ⟨early, other, late, rfl, among⟩ := ih later
        exact ⟨call :: early, other, late, rfl, among⟩

theorem configure_of_authorize {targets : List IngressTarget} {succeeded : Bool}
    (told : .authorize targets succeeded ∈ (dispatcher.run phase topology cluster now state).deeds) :
    phase = .configure := by
  cases found : dispatcher.handlersFor phase topology cluster with
  | error refused =>
      rw [run_of_refused now state found] at told
      cases told
  | ok handlers =>
      rw [run_of_found now state found] at told
      obtain ⟨deeds, added, acts⟩ := PhaseRun.inOrder_acts (dispatcher.planOf phase topology) (phase.steps handlers)
        (dispatcher.begun phase topology cluster now state)
      rw [added] at told
      obtain ⟨step, among, act⟩ := acts _ told
      have effect := Phase.mem_of_effect (PhaseStep.act_eq_effect.mp act.symm ▸ among)
      cases phase with
      | configure => rfl
      | bootstrap | start | stop | cleanup => simp [Phase.effects] at effect

-- What a new dispatcher knows to be granted is what its phases tell of, and its default sources stay.
theorem afterAll_leads {provider : Provider σ} {registry : Registry σ} {declared : Topology} {options : LaunchOptions}
    (scripted : registry.IsScripted) (calls : List (PhaseCall σ)) :
    let begun := Dispatcher.new provider registry declared options
    begun.firewall.Leads ((begun.deedsOfAll calls).flatMap Deed.granted) (begun.afterAll calls).firewall := by
  intro begun
  have within : begun.registry.Within PhaseEvent.AddsRules := fun role handler registered hook phase topology event =>
    scripted role handler registered ▸ (Handler.scripted_opens role phase topology).addsRules hook event
  have leads := (stepsOfAll_course (hooksAddRules_of_within within calls)).leads
  rw [deedsOfAll_eq, List.flatMap_assoc]
  exact leads

theorem granted_of_applied {provider : Provider σ} {registry : Registry σ} {declared : Topology} {options : LaunchOptions}
    (scripted : registry.IsScripted) {calls : List (PhaseCall σ)} {target : IngressTarget}
    (applied : target ∈ ((Dispatcher.new provider registry declared options).afterAll calls).firewall.applied) :
    ∃ early call late, calls = early ++ call :: late ∧ call.phase = .configure ∧
      ∃ targets, .authorize targets true ∈
        (((Dispatcher.new provider registry declared options).afterAll early).answer call).deeds ∧ target ∈ targets := by
  rw [(afterAll_leads scripted calls).applied] at applied
  obtain ⟨deed, told, granted⟩ := List.mem_flatMap.mp applied
  obtain ⟨early, call, late, parts, among⟩ := mem_deedsOfAll told
  cases deed with
  | authorize targets succeeded =>
      cases succeeded with
      | true => exact ⟨early, call, late, parts, configure_of_authorize among, targets, among, granted⟩
      | false => cases granted
  | hook | launch | run | destroy => cases granted

/-! ### CONFIGURE as a whole -/

theorem refused_of_ports (scripted : dispatcher.registry.IsScripted) {handlers : List (Handler σ)}
    (found : dispatcher.handlersFor .configure topology cluster = .ok handlers)
    (unreadable : ∃ role ∈ cluster.roleNames, ∃ entry ∈ portEntries topology role, ∀ port, ¬ SpellsPort entry port) :
    let outcome := dispatcher.run .configure topology cluster now state
    (∃ role ∈ cluster.roleNames, ∃ entry ∈ portEntries topology role, (∀ port, ¬ SpellsPort entry port) ∧
      outcome.result = .error (.handler role .configure .before (.config (.invalid
        ("roles." ++ role ++ ".properties.ports") ("'" ++ .ofList entry ++ "' is not a port"))))) ∧
    (∀ deed ∈ outcome.deeds, ∃ role succeeded, deed = .hook .before role succeeded) ∧
    outcome.cluster = cluster ∧ outcome.state = state := by
  intro outcome
  have handlers_eq := handlers_scripted (fun name _ handler registered => scripted name handler registered) found
  rw [handlers_eq] at found
  have refused : ∃ role ∈ cluster.roleNames.toList, refusal? topology .configure role ≠ none := by
    obtain ⟨role, member, entry, listed, bad⟩ := unreadable
    refine ⟨role, member, fun accepted => ?_⟩
    obtain ⟨port, spells⟩ := refusal?_eq_none.mp accepted rfl entry listed
    exact bad port spells
  obtain ⟨role, member, error, called, left, refusal, ends, same, still, deeds, hooks⟩ :=
    PhaseRun.phase_refused (dispatcher.planOf .configure topology) (dispatcher.begun .configure topology cluster now state)
      refused
  obtain ⟨entry, listed, bad, rfl⟩ := ports_eq_error (refusal?_eq_some.mp refusal).2
  have ran : outcome = _ := run_of_found now state found
  rw [show inOrder _ (Phase.configure.steps (List.map _ (rolesFor .configure topology cluster).toList)) _ = _
    from ends] at ran
  rw [ran]
  refine ⟨⟨role, member, entry, listed, bad, rfl⟩, fun deed told => ?_, same, still⟩
  rw [deeds] at told
  exact hooks deed told

theorem configures_of_run (scripted : dispatcher.registry.IsScripted)
    (succeeds : (dispatcher.run .configure topology cluster now state).result = .ok ()) :
    ∃ prepared authorized rolled ended,
      PhaseRun.Configures (dispatcher.planOf .configure topology) cluster.roleNames.toList
        (dispatcher.begun .configure topology cluster now state) prepared authorized rolled ended ∧
      (dispatcher.run .configure topology cluster now state).cluster = ended.event.cluster ∧
      (dispatcher.run .configure topology cluster now state).deeds = ended.deeds := by
  cases found : dispatcher.handlersFor .configure topology cluster with
  | error refused =>
      rw [run_of_refused now state found] at succeeds
      cases succeeds
  | ok handlers =>
      rw [handlers_scripted (fun name _ handler registered => scripted name handler registered) found] at found
      rw [run_of_found now state found] at succeeds ⊢
      rcases done : inOrder (PhaseRun.perform (dispatcher.planOf .configure topology))
        (Phase.configure.steps ((rolesFor .configure topology cluster).toList.map .scripted))
        (dispatcher.begun .configure topology cluster now state) with ⟨error | ⟨⟩, ended⟩
      · rw [done] at succeeds
        cases succeeds
      · obtain ⟨prepared, authorized, rolled, configures⟩ := PhaseRun.configures_of_ok rfl done
        exact ⟨prepared, authorized, rolled, ended, configures, rfl, rfl⟩

/-- A dispatcher whose handlers are all scripted publishes in CONFIGURE, for every role of the cluster, where its machines
are reached, and changes no other property; it has run one script on every machine that carries a role, which calls the
function of the role once with the same list; and every port that a role lists has been granted, in this CONFIGURE or an
earlier one, to all default sources on every machine that carries the role. If a role lists something that is
neither blank nor a port, the hook of such a role fails, and nothing but hooks has been called before. -/
theorem configure_publishes (provider : Provider σ) (registry : Registry σ) (declared : Topology) (options : LaunchOptions)
    (scripted : registry.IsScripted) (calls : List (PhaseCall σ)) (topology : Topology) (cluster : Cluster) (now : Nat)
    (state : σ) :
    let begun : Dispatcher σ := .new provider registry declared options
    let outcome := (begun.afterAll calls).run .configure topology cluster now state
    let reached (role : String) : List String := (cluster.instances.filter fun machine => role ∈ machine.roles).map
      fun machine => machine.node.privateIp.getD machine.address
    (outcome.result = .ok () →
      (∀ role ∈ cluster.roleNames,
        outcome.cluster.property (role ++ ".hosts") = some (",".intercalate (reached role))) ∧
      (∀ key, (∀ role ∈ cluster.roleNames, key ≠ role ++ ".hosts") →
        outcome.cluster.property key = cluster.property key) ∧
      (∀ machine ∈ cluster.instances, ∀ role ∈ machine.roles, ∃ script,
        outcome.deeds.filterMap (Deed.ranOn machine.id) = [(script, true)] ∧
        script.statements.count (.call (function topology role .configure) (reached role)) = 1) ∧
      ∀ machine ∈ cluster.instances, ∀ role ∈ machine.roles, ∀ entry ∈ portEntries topology role, ∀ port,
        SpellsPort entry port →
        ∀ cidr ∈ (if declared.clientCidrs = [] then ["0.0.0.0/0"] else declared.clientCidrs),
        ∃ early call late, calls ++ [⟨.configure, topology, cluster, now, state⟩] = early ++ call :: late ∧
          call.phase = .configure ∧ ∃ targets, .authorize targets true ∈ ((begun.afterAll early).answer call).deeds ∧
            machine.target port cidr ∈ targets) ∧
    ((∃ handlers, (begun.afterAll calls).handlersFor .configure topology cluster = .ok handlers) →
      (∃ role ∈ cluster.roleNames, ∃ entry ∈ portEntries topology role, ∀ port, ¬ SpellsPort entry port) →
      (∃ role ∈ cluster.roleNames, ∃ entry ∈ portEntries topology role, (∀ port, ¬ SpellsPort entry port) ∧
        outcome.result = .error (.handler role .configure .before (.config (.invalid
          ("roles." ++ role ++ ".properties.ports") ("'" ++ .ofList entry ++ "' is not a port"))))) ∧
      (∀ deed ∈ outcome.deeds, ∃ role succeeded, deed = .hook .before role succeeded) ∧
      outcome.cluster = cluster ∧ outcome.state = state) := by
  intro begun outcome reached
  have same : ∀ role, hosts cluster role = reached role := hosts_eq cluster
  have still : (begun.afterAll calls).registry.IsScripted := (begun.afterAll_registry calls).symm ▸ scripted
  refine ⟨fun succeeds => ?_, fun ⟨handlers, found⟩ unreadable => refused_of_ports still found unreadable⟩
  obtain ⟨_, _, _, ended, configures, cluster_eq, deeds_eq⟩ := configures_of_run still succeeds
  refine ⟨fun role member => ?_, fun key other => ?_, fun machine member role carries => ?_, ?_⟩
  · rw [show outcome.cluster = _ from cluster_eq, ← same]
    exact configures.hosts_published member
  · rw [show outcome.cluster = _ from cluster_eq]
    exact configures.others_kept other
  · have listed : role ∈ cluster.roleNames := (mem_rolesOf _ role).mpr ⟨_, List.mem_map_of_mem member, carries⟩
    rw [show outcome.deeds = _ from deeds_eq, ← same]
    exact configures.call_made rfl rfl member carries listed
  · intro machine member role carries entry among port spells cidr source
    have listed : role ∈ cluster.roleNames := (mem_rolesOf _ role).mpr ⟨_, List.mem_map_of_mem member, carries⟩
    obtain ⟨ports, read⟩ := exists_ports_iff.mpr (refusal?_eq_none.mp (configures.accepted role listed) rfl)
    let all : List (PhaseCall σ) := calls ++ [⟨.configure, topology, cluster, now, state⟩]
    have last : begun.afterAll all = outcome.dispatcher := begun.afterAll_append calls _
    have sources : cidr ∈ outcome.dispatcher.firewall.defaultSources := by
      rw [← last, (afterAll_leads scripted all).sources]
      simpa [Dispatcher.new, Firewall.forTopology, Firewall.new, Firewall.world] using source
    have opened := (mem_ports read).mpr ⟨entry, among, spells⟩
    have applied := configured_target still succeeds member carries read opened sources
    exact granted_of_applied scripted (last ▸ applied)

-- One of the machines carries both roles, and the other one has no address within. A port that is a word is refused.
theorem configure_publishes_of_two :
    let topology (ports : String) := { Launch.plainTopology [] 0 with
      roles := .ofList [("web", { RoleConfig.empty with properties := .ofList [("ports", ports)] })] }
    let registry : Registry Simulation := .ofHandlers [.scripted "db", .scripted "web"]
    let first : Instance := .ofNode ⟨"i-1", none, some "10.0.0.1", .empty⟩ (.ofList ["db", "web"])
    let second : Instance := .ofNode ⟨"i-2", some "198.51.100.2", none, .empty⟩ (.ofList ["web"])
    let cluster : Cluster := .ofInstances "small" [first, second]
    let begun : Dispatcher Simulation := .new Simulation.provider registry (topology "80, +443") .none
    let done := begun.run .configure (topology "80, +443") cluster 0 .new
    let refused := begun.run .configure (topology "80,http") cluster 0 .new
    registry.IsScripted ∧ done.result = .ok () ∧
    done.cluster.property "web.hosts" = some "10.0.0.1,198.51.100.2" ∧
    (∃ script, done.deeds.filterMap (Deed.ranOn "i-1") = [(script, true)] ∧
      script.statements.count (.call "configure_web" ["10.0.0.1", "198.51.100.2"]) = 1) ∧
    (∃ targets, .authorize targets true ∈ done.deeds ∧ second.target 443 "0.0.0.0/0" ∈ targets) ∧
    (∃ handlers, begun.handlersFor .configure (topology "80,http") cluster = .ok handlers) ∧
    refused.result = .error (.handler "web" .configure .before (.config (.invalid
      "roles.web.properties.ports" "'http' is not a port"))) ∧
    (∀ deed ∈ refused.deeds, ∃ role succeeded, deed = .hook .before role succeeded) ∧ refused.state = .new := by
  intro topology registry first second cluster begun done refused
  have scripted : registry.IsScripted := Registry.register_each (Registry.register_each Registry.empty_each rfl) rfl
  have succeeds : done.result = .ok () := by decide +kernel
  have found : begun.handlersFor .configure (topology "80,http") cluster = .ok [.scripted "db", .scripted "web"] := rfl
  have unreadable : ∀ port, ¬ SpellsPort "http".toList port := by
    intro port spells
    have none : readPort "http".toList = none := by decide
    cases (readPort_of_spells spells).symm.trans none
  have numeric : SpellsPort "+443".toList 443 := readPort_sound (by decide)
  have whole := configure_publishes Simulation.provider registry (topology "80, +443") .none scripted []
  obtain ⟨published, _, called, granted⟩ := (whole (topology "80, +443") cluster 0 .new).1 succeeds
  obtain ⟨_, hooks, _, still⟩ := (whole (topology "80,http") cluster 0 .new).2 ⟨_, found⟩
    ⟨"web", by decide +kernel, "http".toList, by decide +kernel, unreadable⟩
  refine ⟨scripted, succeeds, ?_, ?_, ?_, ⟨_, found⟩, by decide +kernel, hooks, still⟩
  · exact (published "web" (by decide +kernel)).trans (by decide +kernel)
  · exact called first (by decide +kernel) "web" (by decide +kernel)
  · obtain ⟨early, call, late, parts, _, targets, told, member⟩ := granted second (by decide +kernel) "web"
      (by decide +kernel) "+443".toList (by decide +kernel) 443 numeric "0.0.0.0/0" (by decide +kernel)
    cases early with
    | nil =>
        cases parts
        exact ⟨targets, told, member⟩
    | cons _ early => simp at parts

end Dispatcher

end Muster
