import Muster.Proofs.Controller.Checkpoints
import Muster.Proofs.Lifecycle.Ingress

/-!
What operations ask the provider to grant. Every operation begins with a new dispatcher, which
knows nothing of what was granted in earlier ones. Within one operation nothing is granted twice;
but its CONFIGURE asks for all that the rules permit, however often it has been granted.
-/

namespace Muster

variable {σ : Type}

/-! ### At most one authorization -/

def PhaseStep.NotAgain (effect : Effect) (step later : PhaseStep σ) : Prop :=
  step = .effect effect → later ≠ .effect effect

theorem Phase.steps_once (phase : Phase) (handlers : List (Handler σ)) (effect : Effect) :
    (phase.steps handlers).Pairwise (PhaseStep.NotAgain effect) := by
  have calls (hook : Hook) : (handlers.map (.call hook)).Pairwise (PhaseStep.NotAgain effect) := by
    rw [List.pairwise_map]
    exact List.pairwise_of_forall nofun
  have distinct : phase.effects.Nodup := by
    cases phase <;> decide
  have effects : (phase.effects.map .effect).Pairwise (PhaseStep.NotAgain (σ := σ) effect) := by
    rw [List.pairwise_map]
    refine distinct.imp ?_
    rintro first second different ⟨⟩ ⟨⟩
    exact different rfl
  rw [steps, List.pairwise_append, List.pairwise_append]
  refine ⟨⟨calls .before, effects, ?_⟩, calls .after, ?_⟩
  · rintro _ called _ _ rfl
    simp at called
  · rintro _ _ _ called _ rfl
    simp at called

namespace Dispatcher

variable {dispatcher : Dispatcher σ} {call : PhaseCall σ} {calls : List (PhaseCall σ)}
  {entry : Performed (PhaseStep σ) (PhaseRun σ) Error}

theorem steps_once (dispatcher : Dispatcher σ) (call : PhaseCall σ) (effect : Effect) :
    (dispatcher.steps call).Pairwise fun entry later => PhaseStep.NotAgain effect entry.step later.step := by
  rw [← List.pairwise_map, steps, history]
  cases dispatcher.handlersFor call.phase call.topology call.cluster with
  | error refused => exact .nil
  | ok handlers => exact (call.phase.steps_once handlers effect).sublist (history_isPrefix _ _ _).sublist

theorem configure_of_steps (member : entry ∈ dispatcher.steps call) (step : entry.step = .effect .authorize) :
    call.phase = .configure := by
  obtain ⟨handlers, _, listed, _⟩ := performed_of_history member
  have belongs : .authorize ∈ call.phase.effects := Phase.mem_of_effect (step ▸ listed)
  cases phase : call.phase <;> simp [phase, Phase.effects] at belongs ⊢

theorem configure_of_stepsOfAll (member : entry ∈ dispatcher.stepsOfAll calls)
    (step : entry.step = .effect .authorize) : ∃ call ∈ calls, call.phase = .configure := by
  induction calls generalizing dispatcher with
  | nil => cases member
  | cons call rest ih =>
      rcases List.mem_append.mp member with early | late
      · exact ⟨call, List.mem_cons_self, configure_of_steps early step⟩
      · obtain ⟨other, among, phase⟩ := ih late
        exact ⟨other, List.mem_cons_of_mem _ among, phase⟩

-- Where no phase is run twice there is one authorization at most.
theorem authorizes_once (distinct : (calls.map PhaseCall.phase).Nodup) :
    (dispatcher.stepsOfAll calls).Pairwise fun entry later => PhaseStep.NotAgain .authorize entry.step later.step := by
  induction calls generalizing dispatcher with
  | nil => exact .nil
  | cons call rest ih =>
      obtain ⟨fresh, others⟩ := List.nodup_cons.mp distinct
      refine List.pairwise_append.mpr ⟨dispatcher.steps_once call .authorize, ih others, ?_⟩
      intro entry early later late step again
      obtain ⟨other, among, phase⟩ := configure_of_stepsOfAll late again
      have same : other.phase = call.phase := phase.trans (configure_of_steps early step).symm
      exact fresh (same ▸ List.mem_map_of_mem among)

end Dispatcher

def Performed.AsksAgain (entry later : Performed (PhaseStep σ) (PhaseRun σ) Error) : Prop :=
  ∀ targets succeeded, .authorize targets succeeded ∈ entry.deeds → later.step = .effect .authorize →
    entry.found.event.cluster.SameNodes later.found.event.cluster →
    later.found.event.firewall.rules = entry.found.event.firewall.rules →
      ∃ again, later.deeds = [.authorize targets again]

/-! ### The phases of an operation -/

def ControlStep.phaseCalls (topology : Topology) (found : Progress σ) : ControlStep → List (PhaseCall σ)
  | .run phase => [⟨phase, topology, found.cluster, found.site.now, found.site.provider⟩]
  | .load | .save | .delete => []

def ControlStep.phases : ControlStep → List Phase
  | .run phase => [phase]
  | .load | .save | .delete => []

theorem ControlStep.phaseCalls_phases (topology : Topology) (found : Progress σ) (step : ControlStep) :
    (step.phaseCalls topology found).map PhaseCall.phase = step.phases := by
  cases step <;> rfl

def Operation.phases (operation : Operation) : List Phase := operation.steps.flatMap ControlStep.phases

namespace Controller

variable (controller : Controller σ)

def phaseCalls (operation : Operation) (site : Site σ) : List (PhaseCall σ) :=
  (controller.history operation site).flatMap fun entry => entry.step.phaseCalls controller.topology entry.found

def phaseSteps (operation : Operation) (site : Site σ) : List (Performed (PhaseStep σ) (PhaseRun σ) Error) :=
  (controller.dispatcher (controller.begin site)).stepsOfAll (controller.phaseCalls operation site)

theorem phaseCalls_isPrefix (operation : Operation) (site : Site σ) :
    (controller.phaseCalls operation site).map PhaseCall.phase <+: operation.phases := by
  have phases : (controller.phaseCalls operation site).map PhaseCall.phase =
      ((controller.history operation site).map Performed.step).flatMap ControlStep.phases := by
    simp only [phaseCalls, List.map_flatMap, List.flatMap_map, ControlStep.phaseCalls_phases]
  obtain ⟨rest, all⟩ := history_isPrefix controller.perform operation.steps (controller.begin site)
  rw [phases, Operation.phases, ← all, List.flatMap_append]
  exact List.prefix_append _ _

theorem phaseCalls_distinct (operation : Operation) (site : Site σ) :
    ((controller.phaseCalls operation site).map PhaseCall.phase).Nodup := by
  refine List.Nodup.sublist (controller.phaseCalls_isPrefix operation site).sublist ?_
  cases operation <;> decide

structure Runs (before : Progress σ) (calls : List (PhaseCall σ)) (after : Progress σ) : Prop where
  left : controller.dispatcher after = (controller.dispatcher before).afterAll calls
  deeds : after.deeds = before.deeds ++ (controller.dispatcher before).deedsOfAll calls

variable {controller}

theorem Runs.trans {before middle after : Progress σ} {first second : List (PhaseCall σ)}
    (begins : controller.Runs before first middle) (goesOn : controller.Runs middle second after) :
    controller.Runs before (first ++ second) after where
  left := by
    rw [goesOn.left, begins.left, Dispatcher.afterAll_append]
  deeds := by
    rw [goesOn.deeds, begins.deeds, begins.left, Dispatcher.deedsOfAll_append, List.append_assoc]

theorem Runs.nothing {before after : Progress σ} (firewall : after.firewall = before.firewall)
    (deeds : after.deeds = before.deeds) : controller.Runs before [] after where
  left := by
    rw [dispatcher, firewall]
    rfl
  deeds := deeds.trans (List.append_nil _).symm

variable (controller)

theorem perform_runs (step : ControlStep) (progress : Progress σ) :
    controller.Runs progress (step.phaseCalls controller.topology progress) (controller.perform step progress).2 := by
  cases step with
  | load =>
      simp only [perform, load]
      split <;> exact .nothing rfl rfl
  | run phase =>
      constructor
      case left =>
        exact (Dispatcher.run_same (controller.dispatcher progress) phase controller.topology progress.cluster
          progress.site.now progress.site.provider).symm
      case deeds =>
        exact congrArg (progress.deeds ++ ·) (List.append_nil _).symm
  | save | delete => exact .nothing rfl rfl

theorem inOrder_runs (steps : List ControlStep) (progress : Progress σ) :
    controller.Runs progress
      ((Muster.history controller.perform steps progress).flatMap fun entry =>
        entry.step.phaseCalls controller.topology entry.found)
      (inOrder controller.perform steps progress).2 := by
  induction steps generalizing progress with
  | nil => exact .nothing rfl rfl
  | cons step rest ih =>
      have here := controller.perform_runs step progress
      rcases performed : controller.perform step progress with ⟨error | ⟨⟩, after⟩
      · rw [history_of_error performed, inOrder_of_error performed, List.flatMap_singleton]
        rw [performed] at here
        exact here
      · rw [history_of_ok performed, inOrder_of_ok performed, List.flatMap_cons]
        rw [performed] at here
        exact here.trans (ih after)

theorem execute_runs (operation : Operation) (site : Site σ) : controller.Runs (controller.begin site)
    (controller.phaseCalls operation site) (controller.execute operation site).2 :=
  controller.inOrder_runs operation.steps (controller.begin site)

/-! ### What operations ask for -/

/-- The deeds of an operation are those of its phases. It asks for permissions once at most, in
CONFIGURE, and then for everything that its rules permit; what is granted is all different, and is
what its dispatcher remembers. -/
structure GrantsAfresh (operation : Operation) (site : Site σ) : Prop where
  deeds : (controller.execute operation site).2.deeds =
    (controller.phaseSteps operation site).flatMap Performed.deeds
  once : (controller.phaseSteps operation site).Pairwise fun entry later =>
    PhaseStep.NotAgain .authorize entry.step later.step
  configures : ∀ entry ∈ controller.phaseSteps operation site, entry.step = .effect .authorize →
    operation = .launch ∨ operation = .configure
  asks : ∀ entry ∈ controller.phaseSteps operation site, entry.step = .effect .authorize →
    entry.Authorizes controller.provider ∧
      entry.pending = entry.found.event.firewall.resolve entry.found.event.cluster
  distinct : ((controller.execute operation site).2.deeds.flatMap Deed.granted).Nodup
  applied : (controller.execute operation site).2.firewall.applied =
    (controller.execute operation site).2.deeds.flatMap Deed.granted

def visits : List Operation → Site σ → List (Operation × Site σ)
  | [], _ => []
  | operation :: rest, site => (operation, site) :: visits rest (controller.execute operation site).2.site

variable {controller} {operation other : Operation} {site found : Site σ}
  {entry later : Performed (PhaseStep σ) (PhaseRun σ) Error}

theorem configures_of_authorize (member : entry ∈ controller.phaseSteps operation site)
    (step : entry.step = .effect .authorize) : operation = .launch ∨ operation = .configure := by
  obtain ⟨call, among, configure⟩ := Dispatcher.configure_of_stepsOfAll member step
  have listed : call.phase ∈ operation.phases :=
    (controller.phaseCalls_isPrefix operation site).subset (List.mem_map_of_mem among)
  rw [configure] at listed
  revert listed
  cases operation <;> decide

theorem authorizes_once (controller : Controller σ) (operation : Operation) (site : Site σ) :
    (controller.phaseSteps operation site).Pairwise fun entry later =>
      PhaseStep.NotAgain .authorize entry.step later.step :=
  Dispatcher.authorizes_once (controller.phaseCalls_distinct operation site)

-- What is done before an authorization has granted nothing.
theorem leads_to_authorize (hooks : HooksAddRules (controller.phaseSteps operation site))
    (member : entry ∈ controller.phaseSteps operation site) (step : entry.step = .effect .authorize) :
    (Firewall.forTopology controller.topology).Leads [] entry.found.event.firewall := by
  obtain ⟨early, late, split⟩ := List.append_of_mem member
  have once := controller.authorizes_once operation site
  have course := Dispatcher.stepsOfAll_course hooks
  have nothing : early.flatMap Performed.granted = [] := by
    rw [List.flatMap_eq_nil_iff]
    intro sooner among
    have before : sooner ∈ controller.phaseSteps operation site := split ▸ List.mem_append_left _ among
    obtain ⟨plan, _, performed⟩ := Dispatcher.performed_of_stepsOfAll before
    have noted := (PhaseRun.perform_noted plan performed).1
    apply noted.granted_nil
    intro authorizes
    rw [split, List.pairwise_append] at once
    exact once.2.2 sooner among entry List.mem_cons_self (PhaseStep.act_eq_effect.mp authorizes) step
  rw [show Dispatcher.stepsOfAll _ _ = early ++ entry :: late from split] at course
  exact nothing ▸ course.found_leads

theorem authorizes_all (hooks : HooksAddRules (controller.phaseSteps operation site))
    (member : entry ∈ controller.phaseSteps operation site) (step : entry.step = .effect .authorize) :
    entry.Authorizes controller.provider ∧
      entry.pending = entry.found.event.firewall.resolve entry.found.event.cluster := by
  obtain ⟨plan, same, performed⟩ := Dispatcher.performed_of_stepsOfAll member
  have provider : plan.provider = controller.provider := same
  have new := (leads_to_authorize hooks member step).applied
  exact ⟨provider ▸ Performed.authorizes_of_performed step performed, Firewall.pending_of_new new _⟩

theorem grants_afresh (hooks : HooksAddRules (controller.phaseSteps operation site)) :
    controller.GrantsAfresh operation site := by
  have runs := controller.execute_runs operation site
  have deeds : (controller.execute operation site).2.deeds =
      (controller.phaseSteps operation site).flatMap Performed.deeds :=
    runs.deeds.trans (Dispatcher.deedsOfAll_eq _ _)
  have granted : (controller.phaseSteps operation site).flatMap Performed.granted =
      (controller.execute operation site).2.deeds.flatMap Deed.granted := by
    rw [deeds, List.flatMap_assoc]
    rfl
  have leads : (Firewall.forTopology controller.topology).Leads
      ((controller.execute operation site).2.deeds.flatMap Deed.granted)
      (controller.execute operation site).2.firewall := by
    have course := Dispatcher.stepsOfAll_course hooks
    rw [← runs.left] at course
    exact granted ▸ course.leads
  have applied : (controller.execute operation site).2.firewall.applied =
      (controller.execute operation site).2.deeds.flatMap Deed.granted := leads.applied
  constructor
  case deeds => exact deeds
  case once => exact controller.authorizes_once operation site
  case configures => exact fun entry member step => configures_of_authorize member step
  case asks => exact fun entry member step => authorizes_all hooks member step
  case distinct => exact applied ▸ leads.fresh List.nodup_nil
  case applied => exact applied

theorem asks_again (hooks : HooksAddRules (controller.phaseSteps operation site))
    (others : HooksAddRules (controller.phaseSteps other found))
    (member : entry ∈ controller.phaseSteps operation site) (among : later ∈ controller.phaseSteps other found) :
    entry.AsksAgain later := by
  intro targets succeeded told step nodes rules
  obtain ⟨plan, _, performed⟩ := Dispatcher.performed_of_stepsOfAll member
  have authorized := (PhaseRun.perform_noted plan performed).1.step_of_told told
  obtain ⟨authorizes, all⟩ := authorizes_all hooks member authorized
  obtain ⟨next, again⟩ := authorizes_all others among step
  have before := (leads_to_authorize hooks member authorized).sources
  have after := (leads_to_authorize others among step).sources
  obtain ⟨asked, due⟩ := authorizes.pending_of_told told
  have same : later.pending = targets := by
    rw [asked, all, again]
    exact Firewall.resolve_same nodes rules (after.trans before.symm)
  rcases next.told with ⟨none, _⟩ | ⟨_, succeeds, deeds⟩
  · exact (due (same.symm.trans none)).elim
  · exact ⟨succeeds, same ▸ deeds⟩

/-- Through any operations one after another, wherever they fail, as long as the hooks only add rules:
each of them grants afresh, and what one has asked for, with success or without, a later one asks for
again when the machines and the rules are the same. -/
theorem operations_grant_afresh (controller : Controller σ) (operations : List Operation) (site : Site σ)
    (hooks : ∀ visit ∈ controller.visits operations site, HooksAddRules (controller.phaseSteps visit.1 visit.2)) :
    (∀ visit ∈ controller.visits operations site, controller.GrantsAfresh visit.1 visit.2) ∧
    (controller.visits operations site).Pairwise fun earlier later =>
      ∀ entry ∈ controller.phaseSteps earlier.1 earlier.2, ∀ again ∈ controller.phaseSteps later.1 later.2,
        entry.AsksAgain again := by
  constructor
  · exact fun visit member => grants_afresh (hooks visit member)
  · apply List.pairwise_of_forall_mem_list
    intro earlier first later second entry member again among
    exact asks_again (hooks earlier first) (hooks later second) member among

def openWorker : Controller Simulation :=
  .new { Launch.plainTopology [⟨.ofList ["worker"], 1, 100, 1⟩] 0 with firewallRules := .ofList [("all", [22])] }
    Simulation.provider .memory SortedMap.empty

-- The machine and the rule are the same, and the permission that the launch was granted is asked for again.
theorem configure_grants_again :
    let site : Site Simulation := ⟨.new, .ofTree .empty, 0, .epoch⟩
    let target : IngressTarget := ⟨"stub-00001", "203.0.0.2", 22, "0.0.0.0/0"⟩
    let launched := (openWorker.execute .launch site).2
    let configured := (openWorker.execute .configure launched.site).2
    configured.cluster.instances = launched.cluster.instances ∧
    configured.firewall.rules = launched.firewall.rules ∧
    .authorize [target] true ∈ launched.deeds ∧ .authorize [target] true ∈ configured.deeds := by
  decide +kernel

-- A launch and two more CONFIGUREs, with the same request in each.
theorem operations_grant_afresh_of_three :
    let site : Site Simulation := ⟨.new, .ofTree .empty, 0, .epoch⟩
    let target : IngressTarget := ⟨"stub-00001", "203.0.0.2", 22, "0.0.0.0/0"⟩
    let visits := openWorker.visits [.launch, .configure, .configure] site
    (visits.map fun visit =>
      (openWorker.execute visit.1 visit.2).2.deeds.filter fun deed => deed.act = .effect .authorize) =
        [[.authorize [target] true], [.authorize [target] true], [.authorize [target] true]] ∧
    (∀ visit ∈ visits, openWorker.GrantsAfresh visit.1 visit.2) ∧
    visits.Pairwise fun earlier later =>
      ∀ entry ∈ openWorker.phaseSteps earlier.1 earlier.2, ∀ again ∈ openWorker.phaseSteps later.1 later.2,
        entry.AsksAgain again := by
  intro site target visits
  have within : openWorker.registry.Within PhaseEvent.AddsRules :=
    Registry.withScripted_within Registry.empty_within openWorker.topology
      fun role hook phase topology event => (Handler.scripted_opens role phase topology).addsRules hook event
  refine ⟨by decide +kernel, ?_⟩
  exact operations_grant_afresh openWorker [.launch, .configure, .configure] site
    fun visit _ => Dispatcher.hooksAddRules_of_within within _

end Controller

end Muster
