import Muster.Proofs.Launch.Running
import Muster.Proofs.Lifecycle.Steps

/-!
Phases that leave the machines alone. A hook may do what it likes to the phase in
progress; what is asked of it is that it lets no machine run that did not, and that it
takes none out of the cluster that runs. Authorizing rules and rolling out statements
ask nothing else of the provider, and so phases that do no more than that keep every
running machine in their cluster.
-/

namespace Muster

open Simulation

variable {σ : Type} (part : σ → Simulation)

structure Spares (cluster : Cluster) (state : σ) (after : Cluster) (answered : σ) : Prop where
  name : after.name = cluster.name
  running : ∀ id ∈ (part answered).runningIds, id ∈ (part state).runningIds
  listed : ∀ id ∈ cluster.ids, id ∈ (part answered).runningIds → id ∈ after.ids

def HookAction.Spares (action : HookAction σ) : Prop := ∀ topology event,
  Muster.Spares part event.cluster event.provider (action topology event).2.cluster
    (action topology event).2.provider

def Handler.Spares (handler : Handler σ) : Prop := ∀ hook phase, (handler.hook hook phase).Spares part

def Registry.Spares (registry : Registry σ) : Prop :=
  ∀ role handler, registry.get? role = some handler → handler.Spares part

variable {part} {cluster middle after : Cluster} {state between answered : σ}

namespace Spares

theorem of_same (name : after.name = cluster.name) (ids : after.ids = cluster.ids)
    (running : (part answered).runningIds = (part state).runningIds) :
    Spares part cluster state after answered :=
  ⟨name, fun _ runs => running ▸ runs, fun _ listed _ => ids ▸ listed⟩

theorem refl (cluster : Cluster) (state : σ) : Spares part cluster state cluster state :=
  .of_same rfl rfl rfl

theorem trans (first : Spares part cluster state middle between)
    (second : Spares part middle between after answered) : Spares part cluster state after answered where
  name := second.name.trans first.name
  running := fun id runs => first.running id (second.running id runs)
  listed := fun id listed runs => second.listed id (first.listed id listed (second.running id runs)) runs

end Spares

/-! ### Handlers that leave the machines alone -/

theorem Handler.scripted_spares (role : String) : (Handler.scripted role : Handler σ).Spares part := by
  intro hook phase topology event
  obtain ⟨same, provider⟩ := Handler.scripted_event role hook phase topology event
  exact .of_same same.name same.ids (congrArg (fun state => (part state).runningIds) provider)

-- What hooks do to the machines, as it is asked of all the handlers of a registry.
def PhaseEvent.Spares (part : σ → Simulation) (before after : PhaseEvent σ) : Prop :=
  Muster.Spares part before.cluster before.provider after.cluster after.provider

namespace Registry

theorem spares_iff_within {registry : Registry σ} :
    registry.Spares part ↔ registry.Within (PhaseEvent.Spares part) := Iff.rfl

theorem empty_spares : Registry.Spares part (SortedMap.empty : Registry σ) :=
  spares_iff_within.mpr empty_within

theorem register_spares {registry : Registry σ} (spares : registry.Spares part) {handler : Handler σ}
    (fresh : handler.Spares part) : (registry.register handler).Spares part :=
  spares_iff_within.mpr (register_within (spares_iff_within.mp spares) fresh)

theorem withScripted_spares {registry : Registry σ} (spares : registry.Spares part) (topology : Topology) :
    (registry.withScripted topology).Spares part :=
  spares_iff_within.mpr (withScripted_within (spares_iff_within.mp spares) topology Handler.scripted_spares)

end Registry

/-! ### Phases that leave the machines alone -/

namespace Simulation

theorem resolveHosts_running (simulation : Simulation) (id : String) :
    (simulation.resolveHosts id).2.runningIds = simulation.runningIds := by
  unfold resolveHosts
  dsimp only
  split <;> rfl

theorem runScript_running (simulation : Simulation) (id : String) (script : Script) :
    (simulation.runScript id script).2.runningIds = simulation.runningIds := by
  unfold runScript
  split
  · rfl
  · dsimp only
    split <;> rfl

theorem authorize_running (simulation : Simulation) (targets : List IngressTarget) :
    (simulation.authorize targets).2.runningIds = simulation.runningIds := by
  unfold authorize
  split <;> rfl

end Simulation

theorem Provider.running_of_shown {α : Type} {answer : α × σ} {shown : α × Simulation}
    (same : shown = answer.map id part) (kept : shown.2.runningIds = (part state).runningIds) :
    (part answer.2).runningIds = (part state).runningIds := by
  rw [same] at kept
  exact kept

section

variable {provider : Provider σ} (shows : provider.Shows Simulation.provider part)

include shows

namespace Rollout

theorem step_spares {plan : RolloutPlan} {rollout next : Rollout σ} {event : RolloutEvent}
    (happens : rollout.step provider plan event = some next) :
    Spares part rollout.cluster rollout.provider next.cluster next.provider := by
  obtain ⟨name, ids⟩ := step_machines happens
  refine .of_same name ids ?_
  rcases step_cases happens with ⟨_, same⟩ | ⟨machine, _, _, asked⟩ | ⟨node, script, _, ran⟩
  · rw [same]
  · rw [asked]
    simp only [Provider.hosts]
    split
    · rfl
    · exact Provider.running_of_shown (shows.resolveHosts _ _) (resolveHosts_running _ _)
  · rw [ran]
    exact Provider.running_of_shown (shows.runScript _ _ _) (runScript_running _ _ _)

-- A rollout keeps the machines, however far it gets.
theorem run_spares (plan : RolloutPlan) (cluster : Cluster) (state : σ) :
    let ended := Rollout.run provider plan cluster state
    Spares part cluster state ended.cluster ended.provider := by
  have keeps (rollout : Rollout σ) (event : RolloutEvent) (next : Rollout σ)
      (happens : rollout.step provider plan event = some next)
      (kept : Spares part cluster state rollout.cluster rollout.provider) :
      Spares part cluster state next.cluster next.provider :=
    kept.trans (step_spares shows happens)
  exact run_keeps keeps (.refl _ _)

end Rollout

end

def PhaseStep.IsGentle (part : σ → Simulation) : PhaseStep σ → Prop
  | .call _ handler => handler.Spares part
  | .effect kind => kind = .authorize ∨ kind = .rollOut

def PhaseRun.Spares (part : σ → Simulation) (before after : PhaseRun σ) : Prop :=
  Muster.Spares part before.event.cluster before.event.provider after.event.cluster after.event.provider

namespace PhaseRun

variable (plan : PhasePlan σ) (shows : plan.provider.Shows Simulation.provider part)

theorem call_spares {handler : Handler σ} (spares : handler.Spares part) (hook : Hook) (run : PhaseRun σ) :
    PhaseRun.Spares part run (call plan hook handler run).2 := by
  rw [PhaseRun.Spares, call_event]
  exact spares hook plan.phase plan.topology run.event

include shows

theorem authorize_spares (run : PhaseRun σ) :
    PhaseRun.Spares part run (authorize plan run).2 := by
  have kept := Provider.running_of_shown
    (shows.authorize (run.event.firewall.pending run.event.cluster) run.event.provider)
    (authorize_running _ _)
  unfold authorize
  dsimp only
  split
  · exact .refl _ _
  · split
    · rename_i answer
      rw [answer] at kept
      exact .of_same rfl rfl kept
    · rename_i answer
      rw [answer] at kept
      exact .of_same rfl rfl kept

theorem rollOut_spares (run : PhaseRun σ) :
    PhaseRun.Spares part run (rollOut plan run).2 := by
  unfold rollOut
  dsimp only
  split
  · exact .refl _ _
  · split <;> exact Rollout.run_spares shows _ _ _

theorem perform_spares {step : PhaseStep σ} (gentle : step.IsGentle part) (run : PhaseRun σ) :
    PhaseRun.Spares part run (perform plan step run).2 := by
  cases step with
  | call hook handler => exact call_spares plan gentle hook run
  | effect effect =>
      rcases gentle with rfl | rfl
      · exact authorize_spares plan shows run
      · exact rollOut_spares plan shows run

theorem inOrder_spares {steps : List (PhaseStep σ)} (gentle : ∀ step ∈ steps, step.IsGentle part)
    (run : PhaseRun σ) :
    PhaseRun.Spares part run (inOrder (perform plan) steps run).2 := by
  refine inOrder_keeps (PhaseRun.Spares part run) ?_ (Spares.refl _ _)
  intro step member later spared
  exact Spares.trans spared (perform_spares plan shows (gentle step member) later)

end PhaseRun

namespace Dispatcher

variable (dispatcher : Dispatcher σ)

theorem registered_of_handlersFor {dispatcher : Dispatcher σ} {phase : Phase} {topology : Topology}
    {handlers : List (Handler σ)} (spares : dispatcher.registry.Spares part)
    (found : dispatcher.handlersFor phase topology cluster = .ok handlers) :
    ∀ handler ∈ handlers, handler.Spares part := by
  intro handler member
  obtain ⟨role, present⟩ := registered_of_found found member
  exact spares role handler present

/-- A phase that launches and destroys nothing leaves the machines alone. -/
theorem run_spares (shows : dispatcher.provider.Shows Simulation.provider part)
    (spares : dispatcher.registry.Spares part) {phase : Phase}
    (gentle : ∀ effect ∈ phase.effects, effect = .authorize ∨ effect = .rollOut) (topology : Topology)
    (cluster : Cluster) (now : Nat) (state : σ) :
    let outcome := dispatcher.run phase topology cluster now state
    Spares part cluster state outcome.cluster outcome.state := by
  unfold run
  split
  · exact .refl _ _
  · rename_i handlers found
    have registered := registered_of_handlersFor spares found
    have all : ∀ step ∈ phase.steps handlers, step.IsGentle part := by
      intro step member
      simp only [Phase.steps, List.mem_append, List.mem_map] at member
      rcases member with (⟨handler, among, rfl⟩ | ⟨effect, among, rfl⟩) | ⟨handler, among, rfl⟩
      · exact registered handler among
      · exact gentle effect among
      · exact registered handler among
    exact PhaseRun.inOrder_spares ⟨dispatcher.provider, dispatcher.options, topology, phase⟩ shows all
      ⟨⟨cluster, dispatcher.rulesFor phase topology, .empty, state⟩, now, []⟩

end Dispatcher

/-! ### Rehearsed handlers -/

namespace Rehearsal

theorem resolveAll_spares (machines : List Instance) (cluster : Cluster) (state : Rehearsal) :
    let resolved := Rehearsal.provider.resolveAll machines cluster state
    Spares simulation cluster state resolved.2.1 resolved.2.2 := by
  induction machines generalizing cluster state with
  | nil => exact .refl _ _
  | cons machine rest ih =>
      have asked : (Rehearsal.provider.hosts machine state).2.simulation.runningIds =
          state.simulation.runningIds := by
        unfold Provider.hosts
        split
        · rfl
        · exact Provider.running_of_shown (provider_shows.resolveHosts _ _) (resolveHosts_running _ _)
      dsimp only
      unfold Provider.resolveAll
      split
      · rename_i answer
        rw [answer] at asked
        exact .of_same rfl rfl asked
      · rename_i hosts answered answer
        rw [answer] at asked
        obtain ⟨name, ids⟩ := cluster.noteHosts_same machine.id (some hosts)
        exact Spares.trans (.of_same name ids asked) (ih _ _)

theorem perform_spares (role : String) (action : Action) (event : PhaseEvent Rehearsal) :
    let performed := (action.perform role event).2
    Spares simulation event.cluster event.provider performed.cluster performed.provider := by
  cases action with
  | queue | addRule | setExport | setProperty | setProperties | «fail» => exact .of_same rfl rfl rfl
  | locate sought =>
      simp only [Action.perform]
      split <;> exact .of_same rfl rfl rfl
  | checkDisjoint a b =>
      simp only [Action.perform]
      split <;> exact .refl _ _
  | resolveAll => exact resolveAll_spares _ _ _

/-- A rehearsed handler leaves the machines alone, whatever it is told to do. -/
theorem handler_spares (role : String) (disallowed : List String) (actions : Hook → Phase → List Action) :
    (handler role disallowed actions).Spares simulation := by
  intro hook phase topology event
  refine inOrder_keeps (fun later : PhaseEvent Rehearsal => Spares simulation event.cluster event.provider
    later.cluster later.provider) ?_ (.of_same rfl rfl rfl)
  intro action _ later spared
  exact spared.trans (perform_spares role action later)

end Rehearsal

end Muster
