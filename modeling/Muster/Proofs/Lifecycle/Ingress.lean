import Muster.Proofs.Firewall
import Muster.Proofs.Lifecycle.Protocol

/-!
What a dispatcher asks the provider to grant, over any phases on any clusters, as long as its
hooks do no more to the firewall than to add rules. Every step leads from one firewall to a later
one, and so do all steps together: what was granted is not asked for again, and what was refused is.
-/

namespace Muster

variable {σ : Type}

/-! ### Single steps -/

def Deed.granted : Deed → List IngressTarget
  | .authorize targets true => targets
  | _ => []

theorem Deed.granted_of_act {deed : Deed} (other : deed.act ≠ .effect .authorize) : deed.granted = [] := by
  cases deed with
  | authorize targets succeeded => exact (other rfl).elim
  | hook | launch | run | destroy => rfl

theorem PhaseStep.act_eq_effect {step : PhaseStep σ} {effect : Effect} :
    step.act = .effect effect ↔ step = .effect effect := by
  cases step <;> simp [act]

/-- Rules were added to the firewall, and nothing else was done to it. -/
def PhaseEvent.AddsRules (before after : PhaseEvent σ) : Prop :=
  ∃ rules, after.firewall = before.firewall.addRules rules

namespace Performed

variable (entry : Performed (PhaseStep σ) (PhaseRun σ) Error)

def granted : List IngressTarget := entry.deeds.flatMap Deed.granted

def pending : List IngressTarget := entry.found.event.firewall.pending entry.found.event.cluster

/-- What can come of an authorization: there is nothing to ask for; the provider refuses, and the
firewall stays as it is; or it grants everything that is pending, and this is noted. -/
inductive Authorizes (provider : Provider σ) : Prop where
  | nothing (settled : entry.pending = []) (passed : entry.result = .ok ()) (quiet : entry.deeds = [])
      (same : entry.left = entry.found)
  | refused {error : ProviderError} {cause : Error} (due : entry.pending ≠ [])
      (answer : provider.authorize entry.pending entry.found.event.provider = (.error error, entry.left.event.provider))
      (failed : entry.result = .error cause) (told : entry.deeds = [.authorize entry.pending false])
      (firewall : entry.left.event.firewall = entry.found.event.firewall)
      (cluster : entry.left.event.cluster = entry.found.event.cluster)
  | granted (due : entry.pending ≠ [])
      (answer : provider.authorize entry.pending entry.found.event.provider = (.ok (), entry.left.event.provider))
      (passed : entry.result = .ok ()) (told : entry.deeds = [.authorize entry.pending true])
      (firewall : entry.left.event.firewall = entry.found.event.firewall.markApplied entry.pending)
      (cluster : entry.left.event.cluster = entry.found.event.cluster)

/-- What a step is refused is asked for in a later one, unless it has been granted since or its
machine is not there any more. -/
def OfferedAgain (later : Performed (PhaseStep σ) (PhaseRun σ) Error) : Prop :=
  ∀ targets, .authorize targets false ∈ entry.deeds → later.step = .effect .authorize → ∀ target ∈ targets,
    Firewall.Remains entry.found.event.cluster later.found.event.cluster target →
      target ∈ later.found.event.firewall.applied ∨
        ∃ asked succeeded, later.deeds = [.authorize asked succeeded] ∧ target ∈ asked

variable {entry} {plan : PhasePlan σ}

theorem authorizes_of_performed (step : entry.step = .effect .authorize)
    (performed : PhaseRun.perform plan entry.step entry.found = (entry.result, entry.left)) :
    entry.Authorizes plan.provider := by
  obtain ⟨_, found, result, left⟩ := entry
  obtain rfl : _ = PhaseStep.effect .authorize := step
  simp only [PhaseRun.perform, PhaseRun.authorize] at performed
  split at performed
  · rename_i none
    cases performed
    exact .nothing (List.isEmpty_iff.mp none) rfl (by simp [deeds]) rfl
  · rename_i due
    have due : found.event.firewall.pending found.event.cluster ≠ [] := by simpa using due
    split at performed
    · rename_i error answered answer
      cases performed
      exact .refused due answer rfl (by simp [deeds, PhaseRun.note, pending]) rfl rfl
    · rename_i answered answer
      cases performed
      exact .granted due answer rfl (by simp [deeds, PhaseRun.note, pending]) rfl rfl

namespace Authorizes

variable {provider : Provider σ} (authorizes : entry.Authorizes provider)

include authorizes

theorem cluster : entry.left.event.cluster = entry.found.event.cluster := by
  cases authorizes with
  | nothing settled passed quiet same => rw [same]
  | refused due answer failed told firewall cluster => exact cluster
  | granted due answer passed told firewall cluster => exact cluster

theorem leads : entry.found.event.firewall.Leads entry.granted entry.left.event.firewall := by
  cases authorizes with
  | nothing settled passed quiet same =>
      rw [same, Performed.granted, quiet]
      exact .refl _
  | refused due answer failed told firewall cluster =>
      rw [firewall, Performed.granted, told]
      exact .refl _
  | granted due answer passed told firewall cluster =>
      rw [firewall, Performed.granted, told, List.flatMap_singleton]
      exact Firewall.markApplied_leads _ _

-- What has been asked for with success is not pending any more.
theorem settled (succeeds : entry.result = .ok ()) :
    entry.left.event.firewall.pending entry.left.event.cluster = [] := by
  cases authorizes with
  | nothing settled passed quiet same =>
      rw [same]
      exact settled
  | refused due answer failed told firewall cluster => cases failed.symm.trans succeeds
  | granted due answer passed told firewall cluster =>
      rw [firewall, cluster]
      exact Firewall.pending_markApplied _ _

-- The provider is asked once for all that is pending, or there is nothing to ask for.
theorem told : entry.pending = [] ∧ entry.deeds = [] ∨
    entry.pending ≠ [] ∧ ∃ succeeded, entry.deeds = [.authorize entry.pending succeeded] := by
  cases authorizes with
  | nothing settled passed quiet same => exact .inl ⟨settled, quiet⟩
  | refused due answer failed told firewall cluster => exact .inr ⟨due, false, told⟩
  | granted due answer passed told firewall cluster => exact .inr ⟨due, true, told⟩

theorem pending_of_told {targets : List IngressTarget} {succeeded : Bool}
    (listed : .authorize targets succeeded ∈ entry.deeds) : targets = entry.pending ∧ targets ≠ [] := by
  rcases authorizes.told with ⟨_, quiet⟩ | ⟨due, _, told⟩
  · rw [quiet] at listed
    cases listed
  · rw [told] at listed
    cases List.mem_singleton.mp listed
    exact ⟨rfl, due⟩

end Authorizes

theorem Noted.granted_nil (noted : entry.Noted) (other : entry.act ≠ .effect .authorize) : entry.granted = [] := by
  rw [granted, List.flatMap_eq_nil_iff]
  intro deed member
  exact Deed.granted_of_act (noted.kind deed member ▸ other)

theorem Noted.step_of_told (noted : entry.Noted) {targets : List IngressTarget} {succeeded : Bool}
    (told : .authorize targets succeeded ∈ entry.deeds) : entry.step = .effect .authorize :=
  PhaseStep.act_eq_effect.mp (noted.kind _ told).symm

end Performed

theorem PhaseRun.effect_firewall (plan : PhasePlan σ) {effect : Effect} (other : effect ≠ .authorize)
    (run : PhaseRun σ) : (perform plan (.effect effect) run).2.event.firewall = run.event.firewall := by
  cases effect with
  | launch =>
      simp only [perform, launch]
      split <;> rfl
  | authorize => exact (other rfl).elim
  | rollOut =>
      simp only [perform, rollOut]
      split
      · rfl
      · split <;> rfl
  | destroy =>
      simp only [perform, destroy]
      split
      · rfl
      · split <;> rfl

def HooksAddRules (done : List (Performed (PhaseStep σ) (PhaseRun σ) Error)) : Prop :=
  ∀ entry ∈ done, ∀ hook handler, entry.step = .call hook handler → entry.found.event.AddsRules entry.left.event

-- A step leads from the firewall that it finds to the one that it leaves.
theorem Performed.leads {plan : PhasePlan σ} {entry : Performed (PhaseStep σ) (PhaseRun σ) Error}
    (performed : PhaseRun.perform plan entry.step entry.found = (entry.result, entry.left))
    (hooks : ∀ hook handler, entry.step = .call hook handler → entry.found.event.AddsRules entry.left.event) :
    entry.found.event.firewall.Leads entry.granted entry.left.event.firewall := by
  have noted := (PhaseRun.perform_noted plan performed).1
  cases step : entry.step with
  | call hook handler =>
      obtain ⟨rules, added⟩ := hooks hook handler step
      have other : entry.act ≠ .effect .authorize := by simp [act, PhaseStep.act_eq_effect, step]
      rw [noted.granted_nil other, added]
      exact Firewall.addRules_leads _ rules
  | effect effect =>
      by_cases authorize : effect = .authorize
      · exact (authorizes_of_performed (authorize ▸ step) performed).leads
      · have other : entry.act ≠ .effect .authorize := by simp [act, PhaseStep.act_eq_effect, step, authorize]
        have same := PhaseRun.effect_firewall plan authorize entry.found
        rw [← step, performed] at same
        rw [noted.granted_nil other, same]
        exact .refl _

structure Handler.Opens (handler : Handler σ) (rules : List FirewallRule) (phase : Phase) (topology : Topology) :
    Prop where
  before : ∀ event, (handler.hook .before phase topology event).2.firewall = event.firewall.addRules rules
  after : ∀ event, (handler.hook .after phase topology event).2.firewall = event.firewall
  nodes : ∀ hook (event : PhaseEvent σ), event.cluster.SameNodes (handler.hook hook phase topology event).2.cluster

theorem Handler.Opens.addsRules {handler : Handler σ} {rules : List FirewallRule} {phase : Phase} {topology : Topology}
    (opens : handler.Opens rules phase topology) (hook : Hook) (event : PhaseEvent σ) :
    event.AddsRules (handler.hook hook phase topology event).2 := by
  cases hook with
  | before => exact ⟨rules, opens.before event⟩
  | after => exact ⟨[], opens.after event⟩

def Handler.Scripted.opened (topology : Topology) (role : String) : Phase → List FirewallRule
  | .configure =>
      match ports topology role with
      | .ok ports => [(FirewallRule.forRole role).withPorts ports]
      | .error _ => []
  | _ => []

theorem Handler.scripted_opens (role : String) (phase : Phase) (topology : Topology) :
    (Handler.scripted role : Handler σ).Opens (Scripted.opened topology role phase) phase topology := by
  have before (event : PhaseEvent σ) :
      (Scripted.beforeConfigure role topology event).2.firewall =
          event.firewall.addRules (Scripted.opened topology role .configure) ∧
        (Scripted.beforeConfigure role topology event).2.cluster = event.cluster := by
    cases read : Scripted.ports topology role with
    | error refused =>
        simp only [Scripted.beforeConfigure, Scripted.opened, read]
        exact ⟨rfl, trivial⟩
    | ok ports =>
        simp only [Scripted.beforeConfigure, Scripted.opened, read]
        exact ⟨rfl, rfl⟩
  constructor
  case before =>
    intro event
    cases phase with
    | configure => exact (before event).1
    | bootstrap | start | stop | cleanup => rfl
  case after =>
    intro event
    cases phase <;> rfl
  case nodes =>
    intro hook event
    apply Cluster.SameNodes.of_instances
    cases hook with
    | before =>
        cases phase with
        | configure => exact congrArg Cluster.instances (before event).2
        | bootstrap | start | stop | cleanup => rfl
    | after => cases phase <;> rfl

/-! ### Phases one after another -/

inductive Firewall.Course : Firewall → List (Performed (PhaseStep σ) (PhaseRun σ) Error) → Firewall → Prop where
  | ends {before after : Firewall} (grows : before.Leads [] after) : Course before [] after
  | step {before after : Firewall} {entry : Performed (PhaseStep σ) (PhaseRun σ) Error}
      {rest : List (Performed (PhaseStep σ) (PhaseRun σ) Error)} (grows : before.Leads [] entry.found.event.firewall)
      (leads : entry.found.event.firewall.Leads entry.granted entry.left.event.firewall)
      (course : Course entry.left.event.firewall rest after) : Course before (entry :: rest) after

namespace Firewall.Course

variable {before middle after : Firewall} {done more : List (Performed (PhaseStep σ) (PhaseRun σ) Error)}

theorem after_growing (course : Course middle done after) (grows : before.Leads [] middle) :
    Course before done after := by
  cases course with
  | ends later => exact .ends (grows.trans later)
  | step later leads course => exact .step (grows.trans later) leads course

theorem append (first : Course before done middle) (second : Course middle more after) :
    Course before (done ++ more) after := by
  induction first with
  | ends grows => exact second.after_growing grows
  | step grows leads _ ih => exact .step grows leads (ih second)

theorem leads (course : Course before done after) : before.Leads (done.flatMap Performed.granted) after := by
  induction course with
  | ends grows => exact grows
  | step grows leads _ ih => exact grows.trans (leads.trans ih)

theorem mem_leads (course : Course before done after) {entry : Performed (PhaseStep σ) (PhaseRun σ) Error}
    (member : entry ∈ done) : (∃ granted, before.Leads granted entry.found.event.firewall) ∧
      ∃ granted, entry.left.event.firewall.Leads granted after := by
  induction course with
  | ends grows => cases member
  | step grows leads course ih =>
      rcases List.mem_cons.mp member with rfl | among
      · exact ⟨⟨_, grows⟩, ⟨_, course.leads⟩⟩
      · obtain ⟨⟨granted, early⟩, late⟩ := ih among
        exact ⟨⟨_, grows.trans (leads.trans early)⟩, late⟩

-- What a step finds comes of the steps before it.
theorem found_leads {early late : List (Performed (PhaseStep σ) (PhaseRun σ) Error)}
    {entry : Performed (PhaseStep σ) (PhaseRun σ) Error} (course : Course before (early ++ entry :: late) after) :
    before.Leads (early.flatMap Performed.granted) entry.found.event.firewall := by
  induction early generalizing before with
  | nil =>
      cases course with
      | step grows leads course => exact grows
  | cons first rest ih =>
      cases course with
      | step grows leads course => exact grows.trans (leads.trans (ih course))

theorem pairwise (course : Course before done after) : done.Pairwise fun entry later =>
    ∃ granted, entry.left.event.firewall.Leads granted later.found.event.firewall := by
  induction course with
  | ends grows => exact .nil
  | step grows leads course ih => exact .cons (fun later member => (course.mem_leads member).1) ih

end Firewall.Course

structure PhaseCall (σ : Type) where
  phase : Phase
  topology : Topology
  cluster : Cluster
  now : Nat
  state : σ

namespace Dispatcher

def answer (dispatcher : Dispatcher σ) (call : PhaseCall σ) : PhaseOutcome σ :=
  dispatcher.run call.phase call.topology call.cluster call.now call.state

def steps (dispatcher : Dispatcher σ) (call : PhaseCall σ) : List (Performed (PhaseStep σ) (PhaseRun σ) Error) :=
  dispatcher.history call.phase call.topology call.cluster call.now call.state

def afterAll (dispatcher : Dispatcher σ) : List (PhaseCall σ) → Dispatcher σ
  | [] => dispatcher
  | call :: rest => (dispatcher.answer call).dispatcher.afterAll rest

def stepsOfAll (dispatcher : Dispatcher σ) : List (PhaseCall σ) → List (Performed (PhaseStep σ) (PhaseRun σ) Error)
  | [] => []
  | call :: rest => dispatcher.steps call ++ (dispatcher.answer call).dispatcher.stepsOfAll rest

def deedsOfAll (dispatcher : Dispatcher σ) : List (PhaseCall σ) → List Deed
  | [] => []
  | call :: rest => (dispatcher.answer call).deeds ++ (dispatcher.answer call).dispatcher.deedsOfAll rest

theorem afterAll_append (dispatcher : Dispatcher σ) (first second : List (PhaseCall σ)) :
    dispatcher.afterAll (first ++ second) = (dispatcher.afterAll first).afterAll second := by
  induction first generalizing dispatcher with
  | nil => rfl
  | cons call rest ih => exact ih _

theorem deedsOfAll_append (dispatcher : Dispatcher σ) (first second : List (PhaseCall σ)) :
    dispatcher.deedsOfAll (first ++ second) =
      dispatcher.deedsOfAll first ++ (dispatcher.afterAll first).deedsOfAll second := by
  induction first generalizing dispatcher with
  | nil => rfl
  | cons call rest ih =>
      rw [List.cons_append, deedsOfAll, deedsOfAll, afterAll, ih, List.append_assoc]

-- A phase changes nothing of its dispatcher but the firewall.
theorem run_same (dispatcher : Dispatcher σ) (phase : Phase) (topology : Topology) (cluster : Cluster) (now : Nat)
    (state : σ) : (dispatcher.run phase topology cluster now state).dispatcher =
      { dispatcher with firewall := (dispatcher.run phase topology cluster now state).dispatcher.firewall } := by
  cases found : dispatcher.handlersFor phase topology cluster with
  | error refused => rw [run_of_refused _ _ found]
  | ok handlers => rw [run_of_found _ _ found]

theorem run_registry (dispatcher : Dispatcher σ) (phase : Phase) (topology : Topology) (cluster : Cluster) (now : Nat)
    (state : σ) : (dispatcher.run phase topology cluster now state).dispatcher.registry = dispatcher.registry := by
  rw [run_same]

theorem run_provider (dispatcher : Dispatcher σ) (phase : Phase) (topology : Topology) (cluster : Cluster) (now : Nat)
    (state : σ) : (dispatcher.run phase topology cluster now state).dispatcher.provider = dispatcher.provider := by
  rw [run_same]

theorem afterAll_registry (dispatcher : Dispatcher σ) (calls : List (PhaseCall σ)) :
    (dispatcher.afterAll calls).registry = dispatcher.registry := by
  induction calls generalizing dispatcher with
  | nil => rfl
  | cons call rest ih => exact (ih _).trans (dispatcher.run_registry _ _ _ _ _)

theorem rulesFor_leads (dispatcher : Dispatcher σ) (phase : Phase) (topology : Topology) :
    dispatcher.firewall.Leads [] (dispatcher.rulesFor phase topology) := by
  cases phase with
  | configure =>
      rw [rulesFor, Firewall.addConfigRules_eq]
      exact Firewall.addRules_leads _ _
  | bootstrap | start | stop | cleanup => exact .refl _

theorem history_course {plan : PhasePlan σ} {todo : List (PhaseStep σ)} {run : PhaseRun σ}
    (hooks : HooksAddRules (Muster.history (PhaseRun.perform plan) todo run)) :
    Firewall.Course run.event.firewall (Muster.history (PhaseRun.perform plan) todo run)
      (inOrder (PhaseRun.perform plan) todo run).2.event.firewall := by
  induction todo generalizing run with
  | nil => exact .ends (.refl _)
  | cons step rest ih =>
      rcases performed : PhaseRun.perform plan step run with ⟨error | ⟨⟩, after⟩
      · rw [history_of_error performed] at hooks ⊢
        rw [inOrder_of_error performed]
        have leads := Performed.leads performed (hooks _ List.mem_cons_self)
        exact .step (.refl _) leads (.ends (.refl _))
      · rw [history_of_ok performed] at hooks ⊢
        rw [inOrder_of_ok performed]
        have leads := Performed.leads performed (hooks _ List.mem_cons_self)
        exact .step (.refl _) leads (ih fun entry member => hooks entry (List.mem_cons_of_mem _ member))

theorem steps_course {dispatcher : Dispatcher σ} {call : PhaseCall σ} (hooks : HooksAddRules (dispatcher.steps call)) :
    Firewall.Course dispatcher.firewall (dispatcher.steps call) (dispatcher.answer call).dispatcher.firewall := by
  rw [steps, answer] at *
  cases found : dispatcher.handlersFor call.phase call.topology call.cluster with
  | error refused =>
      rw [history, found, run_of_refused _ _ found]
      exact .ends (.refl _)
  | ok handlers =>
      rw [history_of_found _ _ found] at hooks ⊢
      rw [run_of_found _ _ found]
      exact (history_course hooks).after_growing (dispatcher.rulesFor_leads call.phase call.topology)

theorem stepsOfAll_course {dispatcher : Dispatcher σ} {calls : List (PhaseCall σ)}
    (hooks : HooksAddRules (dispatcher.stepsOfAll calls)) :
    Firewall.Course dispatcher.firewall (dispatcher.stepsOfAll calls) (dispatcher.afterAll calls).firewall := by
  induction calls generalizing dispatcher with
  | nil => exact .ends (.refl _)
  | cons call rest ih =>
      have first := steps_course fun entry member => hooks entry (List.mem_append_left _ member)
      exact first.append (ih fun entry member => hooks entry (List.mem_append_right _ member))

theorem deedsOfAll_eq (dispatcher : Dispatcher σ) (calls : List (PhaseCall σ)) :
    dispatcher.deedsOfAll calls = (dispatcher.stepsOfAll calls).flatMap Performed.deeds := by
  induction calls generalizing dispatcher with
  | nil => rfl
  | cons call rest ih =>
      have first := (dispatcher.history_madeOf call.phase call.topology call.cluster call.now call.state).deeds
      rw [deedsOfAll, stepsOfAll, List.flatMap_append, ih, answer, first]
      rfl

-- Handlers that do nothing else to the firewall have not done so in any phase.
theorem hooksAddRules_of_within {dispatcher : Dispatcher σ} (within : dispatcher.registry.Within PhaseEvent.AddsRules)
    (calls : List (PhaseCall σ)) : HooksAddRules (dispatcher.stepsOfAll calls) := by
  induction calls generalizing dispatcher with
  | nil => exact nofun
  | cons call rest ih =>
      intro entry member hook handler step
      rcases List.mem_append.mp member with early | late
      · obtain ⟨⟨role, registered⟩, left⟩ := called_of_mem early step
        rw [left]
        exact within role handler registered hook call.phase call.topology entry.found.event
      · refine ih ?_ entry late hook handler step
        rw [answer, run_registry]
        exact within

-- Every phase has the same provider, and what is done is done as its plan has it.
theorem performed_of_stepsOfAll {dispatcher : Dispatcher σ} {calls : List (PhaseCall σ)}
    {entry : Performed (PhaseStep σ) (PhaseRun σ) Error} (member : entry ∈ dispatcher.stepsOfAll calls) :
    ∃ plan : PhasePlan σ, plan.provider = dispatcher.provider ∧
      PhaseRun.perform plan entry.step entry.found = (entry.result, entry.left) := by
  induction calls generalizing dispatcher with
  | nil => cases member
  | cons call rest ih =>
      rcases List.mem_append.mp member with early | late
      · obtain ⟨handlers, _, _, performed⟩ := performed_of_history early
        exact ⟨_, rfl, performed⟩
      · obtain ⟨plan, same, performed⟩ := ih late
        exact ⟨plan, same.trans (dispatcher.run_provider _ _ _ _ _), performed⟩

theorem offered_again {dispatcher : Dispatcher σ} {calls : List (PhaseCall σ)}
    (hooks : HooksAddRules (dispatcher.stepsOfAll calls)) :
    (dispatcher.stepsOfAll calls).Pairwise Performed.OfferedAgain := by
  refine List.Pairwise.imp_of_mem ?_ (stepsOfAll_course hooks).pairwise
  rintro entry later among afterwards ⟨granted, leads⟩ targets told step target member remains
  obtain ⟨plan, _, performed⟩ := performed_of_stepsOfAll among
  obtain ⟨other, _, next⟩ := performed_of_stepsOfAll afterwards
  have noted := (PhaseRun.perform_noted plan performed).1
  have authorizes := Performed.authorizes_of_performed (noted.step_of_told told) performed
  rw [(authorizes.pending_of_told told).1] at member
  have permitted := (Firewall.mem_pending.mp member).1
  by_cases known : target ∈ later.found.event.firewall.applied
  · exact .inl known
  · have still := permitted.mono (authorizes.leads.trans leads) remains
    have due : target ∈ later.pending := Firewall.mem_pending.mpr ⟨still, known⟩
    rcases (Performed.authorizes_of_performed step next).told with ⟨none, _⟩ | ⟨_, succeeded, asked⟩
    · rw [none] at due
      cases due
    · exact .inr ⟨_, succeeded, asked, due⟩

end Dispatcher

end Muster
