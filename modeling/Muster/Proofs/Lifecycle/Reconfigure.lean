import Muster.Proofs.Lifecycle.Ingress

/-!
CONFIGURE again. When it has succeeded, the rules of the topology and of the hooks are there and
all that they permit on the machines is granted; so to run it once more with the same rules on the
same machines adds nothing and asks for nothing. With what holds of any phases this is the whole
story of one dispatcher and its firewall.
-/

namespace Muster

variable {σ : Type}

/-! ### Machines stay as they are -/

theorem Cluster.noteHosts_sameNodes (cluster : Cluster) (id : String) (hosts : Option Hosts) :
    cluster.SameNodes (cluster.noteHosts id hosts) := by
  cases hosts with
  | none => exact .of_instances rfl
  | some hosts =>
      simp only [SameNodes, noteHosts, rememberHosts, List.map_map]
      apply List.map_congr_left
      intro machine _
      simp only [Function.comp_apply]
      split <;> rfl

theorem Rollout.run_sameNodes (provider : Provider σ) (plan : RolloutPlan) (cluster : Cluster) (state : σ) :
    cluster.SameNodes (run provider plan cluster state).cluster := by
  have keeps (rollout : Rollout σ) (event : RolloutEvent) (next : Rollout σ)
      (happens : rollout.step provider plan event = some next) (kept : cluster.SameNodes rollout.cluster) :
      cluster.SameNodes next.cluster := by
    rcases step_cases happens with ⟨same, _⟩ | ⟨machine, hosts, noted, _⟩ | ⟨node, script, same, _⟩
    · exact same ▸ kept
    · exact noted ▸ kept.trans (rollout.cluster.noteHosts_sameNodes machine.id hosts)
    · exact same ▸ kept
  exact run_keeps keeps (.of_instances rfl)

theorem PhaseRun.rollOut_sameNodes (plan : PhasePlan σ) (run : PhaseRun σ) :
    run.event.cluster.SameNodes (rollOut plan run).2.event.cluster := by
  have kept := Rollout.run_sameNodes plan.provider ⟨plan.topology, run.event.queue, concurrency plan.topology
    plan.options⟩ run.event.cluster run.event.provider
  simp only [rollOut]
  split
  · exact .of_instances rfl
  · split <;> exact kept

/-- CONFIGURE up to its authorization, and what comes after it. -/
theorem Phase.configure_steps (handlers : List (Handler σ)) : Phase.configure.steps handlers =
    handlers.map (.call .before) ++ .effect .authorize :: .effect .rollOut :: handlers.map (.call .after) := by
  simp [steps, effects]

/-- Of the hooks that were called, each before the phase has added the rules of its role, those after
it have added none, and none has brought in machines or taken any out. -/
structure Repeats (adds : String → List FirewallRule) (done : List (Performed (PhaseStep σ) (PhaseRun σ) Error)) :
    Prop where
  before : ∀ entry ∈ done, ∀ handler, entry.step = .call .before handler →
    entry.left.event.firewall = entry.found.event.firewall.addRules (adds handler.role)
  after : ∀ entry ∈ done, ∀ handler, entry.step = .call .after handler →
    entry.left.event.firewall = entry.found.event.firewall
  nodes : ∀ entry ∈ done, ∀ hook handler, entry.step = .call hook handler →
    entry.found.event.cluster.SameNodes entry.left.event.cluster

namespace Repeats

variable {adds : String → List FirewallRule} {done : List (Performed (PhaseStep σ) (PhaseRun σ) Error)}

theorem addsRules (repeats : Repeats adds done) : HooksAddRules done := by
  intro entry member hook handler step
  cases hook with
  | before => exact ⟨_, repeats.before entry member handler step⟩
  | after => exact ⟨[], repeats.after entry member handler step⟩

variable {plan : PhasePlan σ} {handlers : List (Handler σ)} {entry : Performed (PhaseStep σ) (PhaseRun σ) Error}

-- Nothing that is done in CONFIGURE brings in machines or takes any out.
theorem sameNodes (repeats : Repeats adds done) (member : entry ∈ done)
    (among : entry.step ∈ Phase.configure.steps handlers)
    (performed : PhaseRun.perform plan entry.step entry.found = (entry.result, entry.left)) :
    entry.found.event.cluster.SameNodes entry.left.event.cluster := by
  cases step : entry.step with
  | call hook handler => exact repeats.nodes entry member hook handler step
  | effect effect =>
      rw [step] at among performed
      have belongs := Phase.mem_of_effect among
      rw [← show (PhaseRun.perform plan (.effect effect) entry.found).2 = entry.left from congrArg Prod.snd performed]
      cases effect with
      | launch | destroy => simp [Phase.effects] at belongs
      | authorize => exact .of_instances (congrArg Cluster.instances (PhaseRun.authorize_cluster plan entry.found))
      | rollOut => exact PhaseRun.rollOut_sameNodes plan entry.found

-- What comes after the authorization makes nothing pending.
theorem pending_same (repeats : Repeats adds done) (member : entry ∈ done)
    (among : entry.step ∈ .effect .rollOut :: handlers.map (.call .after))
    (performed : PhaseRun.perform plan entry.step entry.found = (entry.result, entry.left)) :
    entry.left.event.firewall.pending entry.left.event.cluster = entry.pending := by
  have nodes : entry.found.event.cluster.SameNodes entry.left.event.cluster := by
    apply repeats.sameNodes member _ performed
    · exact handlers
    · rw [Phase.configure_steps]
      exact List.mem_append_right _ (List.mem_cons_of_mem _ among)
  have firewall : entry.left.event.firewall = entry.found.event.firewall := by
    rcases List.mem_cons.mp among with rolls | called
    · have same := PhaseRun.effect_firewall plan (nofun : Effect.rollOut ≠ .authorize) entry.found
      rwa [← rolls, performed] at same
    · obtain ⟨handler, _, step⟩ := List.mem_map.mp called
      exact repeats.after entry member handler step.symm
  rw [firewall, Firewall.pending_sameNodes nodes]
  rfl

-- Where the rules are there already and nothing is pending, nothing is asked for.
theorem nothing_asked (repeats : Repeats adds done) (member : entry ∈ done)
    (among : entry.step ∈ Phase.configure.steps handlers)
    (performed : PhaseRun.perform plan entry.step entry.found = (entry.result, entry.left))
    (added : ∀ handler ∈ handlers, ∀ rule ∈ adds handler.role, entry.found.event.firewall.Has rule)
    (settled : entry.pending = []) : entry.left.event.firewall = entry.found.event.firewall ∧
      ∀ targets succeeded, .authorize targets succeeded ∉ entry.deeds := by
  have noted := (PhaseRun.perform_noted plan performed).1
  by_cases authorize : entry.step = .effect .authorize
  · cases Performed.authorizes_of_performed authorize performed with
    | nothing settled passed quiet same => simp [same, quiet]
    | refused due | granted due => exact (due settled).elim
  · refine ⟨?_, fun targets succeeded told => authorize (noted.step_of_told told)⟩
    cases step : entry.step with
    | effect effect =>
        have other : effect ≠ .authorize := fun same => authorize (same ▸ step)
        have same := PhaseRun.effect_firewall plan other entry.found
        rwa [← step, performed] at same
    | call hook handler =>
        cases hook with
        | before =>
            rw [repeats.before entry member handler step]
            exact Firewall.addRules_of_has (added handler (Phase.mem_of_call (step ▸ among)))
        | after => exact repeats.after entry member handler step

end Repeats

namespace PhaseRun

variable {plan : PhasePlan σ} {adds : String → List FirewallRule} {handlers : List (Handler σ)} {run : PhaseRun σ}

structure Configured (adds : String → List FirewallRule) (handlers : List (Handler σ)) (begun ended : PhaseRun σ) :
    Prop where
  known : ∀ rule, begun.event.firewall.Has rule → ended.event.firewall.Has rule
  added : ∀ handler ∈ handlers, ∀ rule ∈ adds handler.role, ended.event.firewall.Has rule
  nodes : begun.event.cluster.SameNodes ended.event.cluster
  settled : ended.event.firewall.pending ended.event.cluster = []

structure Quiet (begun later : PhaseRun σ) : Prop where
  nodes : begun.event.cluster.SameNodes later.event.cluster
  firewall : later.event.firewall = begun.event.firewall
  unasked : ∀ targets succeeded, .authorize targets succeeded ∉ later.deeds

theorem nothing_asked_of_settled
    (repeats : Repeats adds (Muster.history (perform plan) (Phase.configure.steps handlers) run))
    (added : ∀ handler ∈ handlers, ∀ rule ∈ adds handler.role, run.event.firewall.Has rule)
    (settled : run.event.firewall.pending run.event.cluster = []) (new : run.deeds = []) :
    let ended := (inOrder (perform plan) (Phase.configure.steps handlers) run).2
    ended.event.firewall = run.event.firewall ∧ ∀ targets succeeded, .authorize targets succeeded ∉ ended.deeds := by
  have ended : run.Quiet (inOrder (perform plan) (Phase.configure.steps handlers) run).2 := by
    refine inOrder_kept run.Quiet ?_ ⟨.of_instances rfl, rfl, by simp [new]⟩
    rintro entry member ⟨nodes, firewall, unasked⟩
    obtain ⟨among, performed⟩ := performed_of_mem member
    have nothing : entry.pending = [] := by
      rw [Performed.pending, firewall, Firewall.pending_sameNodes nodes]
      exact settled
    obtain ⟨same, untold⟩ := repeats.nothing_asked member among performed (firewall ▸ added) nothing
    refine ⟨nodes.trans (repeats.sameNodes member among performed), same.trans firewall, ?_⟩
    intro targets succeeded told
    rw [(perform_noted plan performed).2] at told
    rcases List.mem_append.mp told with early | late
    · exact unasked targets succeeded early
    · exact untold targets succeeded late
  exact ⟨ended.firewall, ended.unasked⟩

variable (succeeds : (inOrder (perform plan) (Phase.configure.steps handlers) run).1 = .ok ())
  (repeats : Repeats adds (Muster.history (perform plan) (Phase.configure.steps handlers) run))

include succeeds repeats

theorem settled_of_configure :
    let ended := (inOrder (perform plan) (Phase.configure.steps handlers) run).2
    ended.event.firewall.pending ended.event.cluster = [] := by
  rw [Phase.configure_steps] at *
  obtain ⟨middle, _, same, parts⟩ := inOrder_split succeeds
  rw [same] at succeeds ⊢
  rcases performed : perform plan (.effect .authorize) middle with ⟨error | ⟨⟩, after⟩
  · rw [inOrder_of_error performed] at succeeds
    cases succeeds
  · rw [inOrder_of_ok performed]
    rw [parts, history_of_ok performed] at repeats
    have authorizes : (⟨.effect .authorize, middle, .ok (), after⟩ :
        Performed (PhaseStep σ) (PhaseRun σ) Error).Authorizes plan.provider :=
      Performed.authorizes_of_performed rfl performed
    refine inOrder_kept (fun run : PhaseRun σ => run.event.firewall.pending run.event.cluster = []) ?_
      (authorizes.settled rfl)
    intro entry member settled
    obtain ⟨among, done⟩ := performed_of_mem member
    exact (repeats.pending_same (List.mem_append_right _ (List.mem_cons_of_mem _ member)) among done).trans settled

theorem configured_of_ok :
    Configured adds handlers run (inOrder (perform plan) (Phase.configure.steps handlers) run).2 := by
  have course := Dispatcher.history_course repeats.addsRules
  constructor
  case known => exact fun rule has => has.mono course.leads
  case added =>
    intro handler member rule listed
    have due : .call .before handler ∈ Phase.configure.steps handlers :=
      List.mem_append_left _ (List.mem_append_left _ (List.mem_map_of_mem member))
    obtain ⟨entry, called, step, _⟩ := mem_history_of_ok succeeds due
    have added := repeats.before entry called handler step
    obtain ⟨_, granted, leads⟩ := course.mem_leads called
    have here : entry.left.event.firewall.Has rule := by
      rw [added]
      exact Firewall.addRules_has _ listed
    exact here.mono leads
  case nodes =>
    refine inOrder_kept (fun other : PhaseRun σ => run.event.cluster.SameNodes other.event.cluster) ?_ (.of_instances rfl)
    intro entry member kept
    obtain ⟨among, performed⟩ := performed_of_mem member
    exact kept.trans (repeats.sameNodes member among performed)
  case settled => exact settled_of_configure succeeds repeats

end PhaseRun

namespace Dispatcher

variable {dispatcher : Dispatcher σ} {topology : Topology} {cluster : Cluster} {now : Nat} {state : σ}

theorem begun_has (dispatcher : Dispatcher σ) (topology : Topology) (cluster : Cluster) (now : Nat) (state : σ)
    {rule : FirewallRule} (listed : rule ∈ Firewall.configRules topology) :
    (dispatcher.begun .configure topology cluster now state).event.firewall.Has rule := by
  change (dispatcher.firewall.addConfigRules topology).Has rule
  rw [Firewall.addConfigRules_eq]
  exact Firewall.addRules_has _ listed

theorem repeats_of_each {phase : Phase} {adds : String → List FirewallRule}
    (each : dispatcher.registry.Each fun _ handler => handler.Opens (adds handler.role) phase topology) :
    Repeats adds (dispatcher.history phase topology cluster now state) := by
  constructor
  case before =>
    intro entry member handler step
    obtain ⟨⟨role, registered⟩, left⟩ := called_of_mem member step
    rw [left]
    exact (each role handler registered).before _
  case after =>
    intro entry member handler step
    obtain ⟨⟨role, registered⟩, left⟩ := called_of_mem member step
    rw [left]
    exact (each role handler registered).after _
  case nodes =>
    intro entry member hook handler step
    obtain ⟨⟨role, registered⟩, left⟩ := called_of_mem member step
    rw [left]
    exact (each role handler registered).nodes hook _

theorem repeats_of_each_twice {phase : Phase} (adds : String → List FirewallRule)
    (each : dispatcher.registry.Each fun _ handler => handler.Opens (adds handler.role) phase topology)
    (cluster other : Cluster) (now later : Nat) (state found : σ) :
    Repeats adds (dispatcher.history phase topology cluster now state) ∧
      Repeats adds
        ((dispatcher.run phase topology cluster now state).dispatcher.history phase topology other later found) :=
  ⟨repeats_of_each each, repeats_of_each ((dispatcher.run_registry phase topology cluster now state) ▸ each)⟩

-- In a CONFIGURE that succeeds there is an authorization, after which nothing is pending.
theorem authorized_of_ok (succeeds : (dispatcher.run .configure topology cluster now state).result = .ok ()) :
    ∃ entry ∈ dispatcher.history .configure topology cluster now state, entry.step = .effect .authorize ∧
      entry.left.event.firewall.pending entry.left.event.cluster = [] := by
  cases passes : dispatcher.handlersFor .configure topology cluster with
  | error refused =>
      rw [run_of_refused now state passes] at succeeds
      cases succeeds
  | ok handlers =>
      rw [run_of_found now state passes] at succeeds
      rw [history_of_found now state passes]
      have due : .effect .authorize ∈ Phase.configure.steps handlers := by
        rw [Phase.configure_steps]
        exact List.mem_append_right _ List.mem_cons_self
      obtain ⟨entry, among, step, passed⟩ := mem_history_of_ok succeeds due
      have authorizes := Performed.authorizes_of_performed step (performed_of_mem among).2
      exact ⟨entry, among, step, authorizes.settled passed⟩

theorem configure_again {adds : String → List FirewallRule} (later : Nat) (found : σ)
    (succeeds : (dispatcher.run .configure topology cluster now state).result = .ok ())
    (repeats : Repeats adds (dispatcher.history .configure topology cluster now state)) :
    let first := dispatcher.run .configure topology cluster now state
    let second := first.dispatcher.run .configure topology first.cluster later found
    Repeats adds (first.dispatcher.history .configure topology first.cluster later found) →
    second.dispatcher.firewall = first.dispatcher.firewall ∧
      ∀ targets succeeded, .authorize targets succeeded ∉ second.deeds := by
  intro first second again
  cases passes : dispatcher.handlersFor .configure topology cluster with
  | error refused =>
      rw [run_of_refused now state passes] at succeeds
      cases succeeds
  | ok handlers =>
      rw [run_of_found now state passes] at succeeds
      rw [history_of_found now state passes] at repeats
      have configured := PhaseRun.configured_of_ok succeeds repeats
      have ended : first = _ := run_of_found now state passes
      cases passed : first.dispatcher.handlersFor .configure topology first.cluster with
      | error refused =>
          have same : second = _ := run_of_refused later found passed
          rw [same]
          exact ⟨rfl, nofun⟩
      | ok others =>
          have same : second = _ := run_of_found later found passed
          rw [history_of_found later found passed] at again
          have roles : rolesFor .configure topology first.cluster = rolesFor .configure topology cluster := by
            rw [ended]
            exact configured.nodes.roleNames
          have resolved := resolved_of_found passed
          rw [roles, ended] at resolved
          obtain rfl : handlers = others := Except.ok.inj ((resolved_of_found passes).symm.trans resolved)
          have begun : (first.dispatcher.begun .configure topology first.cluster later found).event.firewall =
              first.dispatcher.firewall := by
            change first.dispatcher.firewall.addConfigRules topology = first.dispatcher.firewall
            rw [Firewall.addConfigRules_eq, ended]
            exact Firewall.addRules_of_has fun rule listed =>
              configured.known rule (begun_has dispatcher topology cluster now state listed)
          have calm := PhaseRun.nothing_asked_of_settled again (by
            rw [begun, ended]
            exact configured.added) (by
            rw [begun, ended]
            exact configured.settled) rfl
          rw [begun] at calm
          rw [same]
          exact calm

/-- A new dispatcher asks for every permission until it is granted, and no longer, through any phases
on any clusters, whatever the provider answers and wherever a phase fails, as long as its hooks only
add rules. What was granted is all different, and is what the firewall remembers; a refusal changes
nothing, and what was refused is asked for again where the machine is still there; an authorization
that succeeds leaves nothing pending. After a CONFIGURE that has succeeded another one with the same
rules on the same machines changes no rule and asks for nothing. -/
theorem ingress_granted_once (begun : Dispatcher σ) (new : begun.firewall.applied = []) (calls : List (PhaseCall σ))
    (hooks : HooksAddRules (begun.stepsOfAll calls)) :
    let ended := begun.afterAll calls
    let granted := (begun.deedsOfAll calls).flatMap Deed.granted
    granted.Nodup ∧ ended.firewall.applied = granted ∧
    (∀ entry ∈ begun.stepsOfAll calls,
      (entry.step = .effect .authorize → entry.Authorizes begun.provider) ∧
      (∀ targets succeeded, .authorize targets succeeded ∈ entry.deeds → entry.step = .effect .authorize) ∧
      (entry.step = .effect .authorize → entry.result = .ok () →
        entry.left.event.firewall.pending entry.left.event.cluster = [] ∧
        ∀ target, entry.left.event.firewall.Permits entry.left.event.cluster target →
          target ∈ entry.left.event.firewall.applied)) ∧
    (begun.stepsOfAll calls).Pairwise Performed.OfferedAgain ∧
    ∀ topology cluster now state,
      let first := ended.run .configure topology cluster now state
      let done := ended.history .configure topology cluster now state
      first.result = .ok () →
      (∃ entry ∈ done, entry.step = .effect .authorize ∧
        entry.left.event.firewall.pending entry.left.event.cluster = []) ∧
      ∀ later found adds,
        let second := first.dispatcher.run .configure topology first.cluster later found
        Repeats adds done → Repeats adds (first.dispatcher.history .configure topology first.cluster later found) →
        second.dispatcher.firewall = first.dispatcher.firewall ∧
          ∀ targets succeeded, .authorize targets succeeded ∉ second.deeds := by
  intro ended granted
  have leads := (stepsOfAll_course hooks).leads
  have same : (begun.stepsOfAll calls).flatMap Performed.granted = granted := by
    simp only [granted, deedsOfAll_eq, List.flatMap_assoc]
    rfl
  rw [same] at leads
  have applied : ended.firewall.applied = granted := by
    rw [leads.applied, new, List.nil_append]
  refine ⟨applied ▸ leads.fresh (new ▸ List.nodup_nil), applied, ?_, offered_again hooks, ?_⟩
  · intro entry member
    obtain ⟨plan, same, performed⟩ := performed_of_stepsOfAll member
    have noted := (PhaseRun.perform_noted plan performed).1
    refine ⟨?_, ?_, ?_⟩
    · exact fun step => same ▸ Performed.authorizes_of_performed step performed
    · exact fun targets succeeded told => noted.step_of_told told
    · intro step succeeds
      have settled := (Performed.authorizes_of_performed step performed).settled succeeds
      exact ⟨settled, Firewall.pending_eq_nil.mp settled⟩
  · intro topology cluster now state first done succeeds
    refine ⟨authorized_of_ok succeeds, ?_⟩
    intro later found adds second repeats again
    exact configure_again later found succeeds repeats again

-- The first request is refused, the second one granted, and when a machine has come in it is asked
-- for that one alone; then there is nothing left to ask for.
theorem ingress_granted_once_of_three :
    let topology := { Launch.plainTopology [] 0 with
      roles := .ofList [("worker", { RoleConfig.empty with properties := .ofList [("ports", "22")] })] }
    let cluster (ids : List String) : Cluster :=
      .ofInstances "small" (ids.map fun id => .ofNode ⟨id, none, none, .empty⟩ (.ofList ["worker"]))
    let target (id : String) : IngressTarget := ⟨id, id, 22, Firewall.world⟩
    let refusing := { Simulation.new with faults := { SimulatedFaults.none with failAuthorize := true } }
    let begun : Dispatcher Simulation :=
      .new Simulation.provider (Registry.ofHandlers [.scripted "worker"]) topology .none
    let calls : List (PhaseCall Simulation) := [
      ⟨.configure, topology, cluster ["i-1", "i-2"], 0, refusing⟩,
      ⟨.configure, topology, cluster ["i-1", "i-2"], 0, .new⟩,
      ⟨.configure, topology, cluster ["i-1", "i-2", "i-3"], 0, .new⟩]
    (begun.deedsOfAll calls).filter (fun deed => deed.act = .effect .authorize) =
      [.authorize [target "i-1", target "i-2"] false, .authorize [target "i-1", target "i-2"] true,
        .authorize [target "i-3"] true] ∧
    (begun.afterAll calls).firewall.applied = (begun.deedsOfAll calls).flatMap Deed.granted ∧
    (begun.stepsOfAll calls).Pairwise Performed.OfferedAgain ∧
    ∃ first second, first = (begun.afterAll calls).run .configure topology (cluster ["i-2", "i-3"]) 0 .new ∧
      second = first.dispatcher.run .configure topology first.cluster 0 .new ∧ first.result = .ok () ∧
      second.dispatcher.firewall = first.dispatcher.firewall ∧
      ∀ targets succeeded, .authorize targets succeeded ∉ second.deeds := by
  intro topology cluster target refusing begun calls
  have within : begun.registry.Within PhaseEvent.AddsRules :=
    Registry.register_within Registry.empty_within fun hook phase topology event =>
      (Handler.scripted_opens "worker" phase topology).addsRules hook event
  let adds (role : String) : List FirewallRule := Handler.Scripted.opened topology role .configure
  have opens : (begun.afterAll calls).registry.Each fun _ handler =>
      handler.Opens (adds handler.role) .configure topology := by
    rw [begun.afterAll_registry calls]
    exact Registry.register_each Registry.empty_each (Handler.scripted_opens "worker" .configure topology)
  have succeeds :
      ((begun.afterAll calls).run .configure topology (cluster ["i-2", "i-3"]) 0 .new).result = .ok () := by
    decide +kernel
  obtain ⟨_, applied, _, offered, again⟩ := ingress_granted_once begun rfl calls (hooksAddRules_of_within within calls)
  obtain ⟨once, twice⟩ := repeats_of_each_twice adds opens (cluster ["i-2", "i-3"]) _ 0 0 Simulation.new .new
  obtain ⟨same, nothing⟩ := (again topology (cluster ["i-2", "i-3"]) 0 .new succeeds).2 0 .new adds once twice
  exact ⟨by decide +kernel, applied, offered, _, _, rfl, rfl, succeeds, same, nothing⟩

end Dispatcher

end Muster
