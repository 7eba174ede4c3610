import Muster.Proofs.Controller.Forgetting

/-!
A launch does not look at what is stored. As long as it saves nothing, the manifest of an
earlier launch stays; its first save puts its own in place of that one, with the machines
that its BOOTSTRAP handed over and no others.
-/

namespace Muster

variable {σ : Type}

/-! ### Phases that keep the machines -/

namespace PhaseEvent.SameMachines

variable {before middle after : PhaseEvent σ}

theorem refl (event : PhaseEvent σ) : event.SameMachines event := ⟨rfl, rfl⟩

theorem trans (first : before.SameMachines middle) (second : middle.SameMachines after) :
    before.SameMachines after := ⟨second.name.trans first.name, second.ids.trans first.ids⟩

end PhaseEvent.SameMachines

namespace PhaseRun

variable {plan : PhasePlan σ}

-- What a phase may do that neither launches nor destroys.
def Keeps (plan : PhasePlan σ) : PhaseStep σ → Prop
  | .call hook handler => ∀ event : PhaseEvent σ,
      event.SameMachines (handler.hook hook plan.phase plan.topology event).2
  | .effect kind => kind = .authorize ∨ kind = .rollOut

theorem perform_machines {step : PhaseStep σ} (keeps : Keeps plan step) (run : PhaseRun σ) :
    run.event.SameMachines (perform plan step run).2.event := by
  cases step with
  | call hook handler =>
      change run.event.SameMachines (call plan hook handler run).2.event
      rw [call_event]
      exact keeps run.event
  | effect effect =>
      rcases keeps with rfl | rfl
      · have same := authorize_cluster plan run
        exact ⟨congrArg Cluster.name same, congrArg Cluster.ids same⟩
      · exact rollOut_machines plan run

theorem inOrder_machines {steps : List (PhaseStep σ)} (keeps : ∀ step ∈ steps, Keeps plan step)
    (run : PhaseRun σ) : run.event.SameMachines (inOrder (perform plan) steps run).2.event := by
  refine inOrder_keeps (fun later : PhaseRun σ => run.event.SameMachines later.event) ?_ (.refl _)
  intro step member later same
  exact same.trans (perform_machines (keeps step member) later)

end PhaseRun

namespace Dispatcher

variable {dispatcher : Dispatcher σ} {phase : Phase} {topology : Topology} {cluster : Cluster} {now : Nat}
  {state : σ} (hooks : dispatcher.registry.Within PhaseEvent.SameMachines)

include hooks

theorem keeps_of_found {handlers : List (Handler σ)}
    (found : dispatcher.handlersFor phase topology cluster = .ok handlers) {handler : Handler σ}
    (member : handler ∈ handlers) (hook : Hook) :
    PhaseRun.Keeps (dispatcher.planOf phase topology) (.call hook handler) := by
  obtain ⟨role, present⟩ := registered_of_found found member
  exact fun event => hooks role handler present hook phase topology event

theorem run_ids (gentle : ∀ effect ∈ phase.effects, effect = .authorize ∨ effect = .rollOut) :
    (dispatcher.run phase topology cluster now state).cluster.ids = cluster.ids := by
  cases found : dispatcher.handlersFor phase topology cluster with
  | error error => rw [run_of_refused now state found]
  | ok handlers =>
      rw [run_of_found now state found]
      refine (PhaseRun.inOrder_machines ?_ (dispatcher.begun phase topology cluster now state)).ids
      intro step member
      cases step with
      | call hook handler => exact keeps_of_found hooks found (Phase.mem_of_call member) hook
      | effect effect => exact gentle effect (Phase.mem_of_effect member)

/-- The cluster that BOOTSTRAP hands over has the machines that its launch answered. -/
theorem bootstrap_ids (succeeds : (dispatcher.run .bootstrap topology cluster now state).result = .ok ()) :
    ∃ launched report, dispatcher.launched? topology cluster now state = some (.ok (launched, report)) ∧
      (dispatcher.run .bootstrap topology cluster now state).cluster.ids = launched.ids := by
  have bootstraps := dispatcher.bootstraps topology cluster now state
  generalize (dispatcher.run .bootstrap topology cluster now state).result = result at bootstraps succeeds
  generalize (dispatcher.run .bootstrap topology cluster now state).cluster = after at bootstraps ⊢
  generalize (dispatcher.run .bootstrap topology cluster now state).state = answered at bootstraps
  subst succeeds
  cases bootstraps with
  | @launches handlers launched report run next ended _ found passes answer provider same ends =>
      refine ⟨launched, report, (launched?_of_passes found passes).trans (congrArg some answer), ?_⟩
      have kept : next.event.SameMachines
          (callAll (dispatcher.planOf .bootstrap topology) .after handlers next).2.event := by
        refine PhaseRun.inOrder_machines ?_ next
        intro step member
        obtain ⟨handler, among, rfl⟩ := List.mem_map.mp member
        exact keeps_of_found hooks found among .after
      rw [ends] at kept
      rw [kept.ids, same]
      rfl

end Dispatcher

namespace Controller

variable {controller : Controller σ} {site : Site σ}

/-- Whatever a launch saves lists the machines that its BOOTSTRAP handed over. -/
theorem saved_machines (hooks : controller.registry.Within PhaseEvent.SameMachines)
    {checkpoint : Phase × Cluster} (saved : checkpoint ∈ checkpoints (controller.history .launch site)) :
    ∃ launched report, controller.launched? site = some (.ok (launched, report)) ∧
      checkpoint.2.ids = launched.ids := by
  have launches : controller.history .launch site =
      Muster.history controller.perform (blocks [.bootstrap, .configure, .start]) (controller.begin site) := rfl
  have goes := goes controller .bootstrap [.configure, .start] (controller.begin site)
  rw [launches] at saved
  generalize Muster.history controller.perform (blocks [.bootstrap, .configure, .start])
    (controller.begin site) = entries at goes saved
  generalize inOrder controller.perform (blocks [.bootstrap, .configure, .start])
    (controller.begin site) = outcome at goes
  cases goes with
  | phaseFails | saveFails => cases saved
  | @saved ended left runs saves =>
      let outcome := (controller.dispatcher (controller.begin site)).run .bootstrap controller.topology
        (.new controller.topology.clusterName) site.now site.provider
      have succeeds : outcome.result = .ok () := congrArg Prod.fst runs
      have same : outcome.cluster = ended.cluster := congrArg (fun answer => answer.2.cluster) runs
      obtain ⟨launched, report, answer, ids⟩ := Dispatcher.bootstrap_ids hooks succeeds
      have here : ended.cluster.ids = launched.ids := same ▸ ids
      have stays : left.cluster = ended.cluster := by
        rw [← (controller.save_frame ended).1, saves]
      refine ⟨launched, report, answer, ?_⟩
      simp only [checkpoints, List.mem_cons] at saved
      rcases saved with rfl | later
      · exact here
      · refine checkpoints_keep (fun cluster => cluster.ids = launched.ids) [.configure, .start] ?_ ?_
          checkpoint later
        · intro phase member progress kept
          have gentle : ∀ effect ∈ phase.effects, effect = .authorize ∨ effect = .rollOut := by
            simp only [List.mem_cons, List.not_mem_nil, or_false] at member
            rcases member with rfl | rfl <;> simp [Phase.effects]
          exact (Dispatcher.run_ids hooks gentle).trans kept
        · exact stays ▸ here

/-- A launch over a manifest that is stored already: if nothing is saved in the launch the
manifest stays, with all that it lists. Otherwise what is stored is the manifest of a cluster
with exactly the machines that BOOTSTRAP handed over, if the hooks leave these alone: of those
before, running or not, none is listed that is not one of these. -/
theorem launch_replaces_manifest (controller : Controller σ) (site : Site σ) {earlier : Manifest}
    (stores : controller.backend.Stores controller.topology.clusterName earlier site.storage) :
    let name := controller.topology.clusterName
    let after := (controller.execute .launch site).2.site
    let saved := checkpoints (controller.history .launch site)
    (saved = [] → controller.backend.Stores name earlier after.storage) ∧
    (saved ≠ [] → controller.registry.Within PhaseEvent.SameMachines →
      ∃ launched report manifest, controller.launched? site = some (.ok (launched, report)) ∧
        controller.backend.Holds name manifest after.storage ∧ manifest.ids = launched.ids) := by
  intro name after saved
  have keeps : controller.backend ≠ .discard := by
    intro discards
    obtain ⟨kept, found, _⟩ := stores
    rw [discards] at found
    cases found
  have stored := launch_stored keeps site
  constructor
  · intro nothing
    rw [show checkpoints (controller.history .launch site) = [] from nothing] at stored
    obtain ⟨kept, found, reads⟩ := stores
    exact ⟨kept, stored.kept?_some found, reads⟩
  · intro something hooks
    cases last : saved.getLast? with
    | none => exact (something (List.getLast?_eq_none_iff.mp last)).elim
    | some checkpoint =>
        have member : checkpoint ∈ saved := List.mem_of_getLast? last
        obtain ⟨launched, report, answer, ids⟩ := saved_machines hooks member
        have named : checkpoint.2.name = name := saved_name (hooks.mono fun _ _ same => same.name) member
        rw [show (checkpoints (controller.history .launch site)).getLast? = some checkpoint from last] at stored
        have listed : (Manifest.ofCluster checkpoint.2 site.moment).ids = launched.ids :=
          (Manifest.ids_ofCluster _ _).trans ids
        exact ⟨launched, report, .ofCluster checkpoint.2 site.moment, answer, named ▸ stored, listed⟩

-- A second launch of two workers leaves a manifest without the first two, which still run.
theorem relaunch_forgets_machines :
    let controller := workers (failingAt .before .cleanup)
    let site := (controller.execute .launch (siteOf 0 false)).2.site
    let after := (controller.execute .launch site).2.site
    ∃ earlier later,
      controller.backend.Stores controller.topology.clusterName earlier site.storage ∧
      "stub-00001" ∈ earlier.ids ∧ "stub-00001" ∈ after.provider.simulation.runningIds ∧
      controller.backend.Stores controller.topology.clusterName later after.storage ∧
      "stub-00001" ∉ later.ids := by
  intro controller site after
  have before : (site.storage.memory.get? "small").map Manifest.ids = some ["stub-00001", "stub-00002"] := by
    decide +kernel
  have replaced : (after.storage.memory.get? "small").map Manifest.ids = some ["stub-00003", "stub-00004"] := by
    decide +kernel
  have runs : "stub-00001" ∈ after.provider.simulation.runningIds := by decide +kernel
  have memory : controller.backend = .memory := rfl
  have named : controller.topology.clusterName = "small" := rfl
  clear_value site after
  obtain ⟨earlier, found, old⟩ := Option.map_eq_some_iff.mp before
  obtain ⟨later, present, new⟩ := Option.map_eq_some_iff.mp replaced
  refine ⟨earlier, later, ?_, ?_, runs, ?_, ?_⟩
  · exact ⟨.manifest earlier, by simp [memory, named, Backend.kept?, found], rfl⟩
  · simp [old]
  · exact ⟨.manifest later, by simp [memory, named, Backend.kept?, present], rfl⟩
  · simp [new]

-- Two workers that are stored and running, and a launch of two more.
theorem launch_replaces_manifest_of_two :
    let controller := workers (.scripted "worker")
    controller.backend.Stores controller.topology.clusterName twoWorkers siteOfTwo.storage ∧
    ∃ manifest, controller.backend.Holds controller.topology.clusterName manifest
      (controller.execute .launch siteOfTwo).2.site.storage ∧ manifest.ids = ["stub-00003", "stub-00004"] := by
  intro controller
  have stores : controller.backend.Stores controller.topology.clusterName twoWorkers siteOfTwo.storage :=
    stores_twoWorkers _
  have hooks : controller.registry.Within PhaseEvent.SameMachines :=
    Registry.withScripted_machines (Registry.register_within Registry.empty_within fun hook phase topology event =>
      (Handler.scripted_event "worker" hook phase topology event).1) _
  have something : checkpoints (controller.history .launch siteOfTwo) ≠ [] := by
    have three : (checkpoints (controller.history .launch siteOfTwo)).length = 3 := by decide +kernel
    intro nothing
    rw [nothing] at three
    cases three
  have answers : (controller.launched? siteOfTwo).map (fun answer => answer.toOption.map fun told => told.1.ids) =
      some (some ["stub-00003", "stub-00004"]) := by
    decide +kernel
  obtain ⟨launched, report, manifest, answer, holds, listed⟩ :=
    (launch_replaces_manifest controller siteOfTwo stores).2 something hooks
  rw [answer] at answers
  refine ⟨stores, manifest, holds, listed.trans ?_⟩
  exact Option.some.inj (Option.some.inj answers)

end Controller

end Muster
