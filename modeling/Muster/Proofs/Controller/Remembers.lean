import Muster.Proofs.Controller.Steps
import Muster.Proofs.Lifecycle.Bootstrap

/-!
What is known of the machines after an operation has launched them. The first manifest is
saved when BOOTSTRAP has succeeded. From then on every machine that runs is in the cluster
and in the manifest that is stored: the phases that follow leave the machines alone, and a
save puts a manifest of the same cluster in place of the one before.
-/

namespace Muster

open Simulation

variable {σ : Type}

def Manifest.ids (manifest : Manifest) : List String := manifest.instances.map InstanceRecord.id

theorem Manifest.ids_ofCluster (cluster : Cluster) (moment : Timestamp) :
    (Manifest.ofCluster cluster moment).ids = cluster.ids := by
  simp only [ids, ofCluster, List.map_map, Cluster.ids]
  rfl

def ControlStep.IsGentle : ControlStep → Prop
  | .save => True
  | .run phase => ∀ effect ∈ phase.effects, effect = .authorize ∨ effect = .rollOut
  | .load | .delete => False

namespace Controller

def dispatcher (controller : Controller σ) (progress : Progress σ) : Dispatcher σ :=
  ⟨controller.provider, controller.registry, progress.firewall, controller.options⟩

def launched? (controller : Controller σ) (site : Site σ) : Option Launch.Answer :=
  (controller.dispatcher (controller.begin site)).launched? controller.topology
    (.new controller.topology.clusterName) site.now site.provider

/-- A machine that somebody can find after a launch: in the manifest that is stored, or in
the report that comes with the error. -/
def Remembered (controller : Controller σ) (site : Site σ) (id : String) : Prop :=
  (∃ manifest, controller.backend.Holds controller.topology.clusterName manifest
    (controller.execute .launch site).2.site.storage ∧ id ∈ manifest.ids) ∨
  (∃ error report, (controller.execute .launch site).1 = .error (.launch error) ∧
    error.report? = some report ∧ (id ∈ report.instances.map Instance.id ∨ id ∈ report.orphaned))

-- The machines that run have run before, or are known, apart from some that were lost.
structure Listed (controller : Controller σ) (part : σ → Simulation) (start : Simulation)
    (lost : String → Prop) (progress : Progress σ) : Prop where
  name : progress.cluster.name = controller.topology.clusterName
  listed : ∀ id ∈ (part progress.site.provider).runningIds,
    id ∈ start.runningIds ∨ lost id ∨ id ∈ progress.cluster.ids

structure Recorded (controller : Controller σ) (part : σ → Simulation) (start : Simulation)
    (lost : String → Prop) (progress : Progress σ) : Prop extends
    Listed controller part start lost progress where
  stored : ∃ manifest,
    controller.backend.Holds controller.topology.clusterName manifest progress.site.storage ∧
    ∀ id ∈ (part progress.site.provider).runningIds, id ∈ start.runningIds ∨ lost id ∨ id ∈ manifest.ids

variable {controller : Controller σ} {part : σ → Simulation} {start : Simulation} {lost : String → Prop}
  {progress : Progress σ}

theorem Listed.saves (keeps : controller.backend ≠ .discard)
    (listed : controller.Listed part start lost progress) {saved : Progress σ}
    (succeeds : controller.save progress = (.ok (), saved)) :
    controller.Recorded part start lost saved := by
  have stored := saved_of_save keeps succeeds
  obtain ⟨cluster, provider, _⟩ := controller.save_frame progress
  rw [succeeds] at cluster provider
  rw [Saved, listed.name] at stored
  have here : controller.Listed part start lost saved := by
    refine ⟨(congrArg Cluster.name cluster).trans listed.name, ?_⟩
    rw [provider, cluster]
    exact listed.listed
  refine ⟨here, .ofCluster progress.cluster progress.site.moment, stored, ?_⟩
  rw [Manifest.ids_ofCluster, provider]
  exact listed.listed

theorem Recorded.runs (shows : controller.provider.Shows Simulation.provider part)
    (spares : controller.registry.Spares part) (recorded : controller.Recorded part start lost progress)
    {phase : Phase} (gentle : ∀ effect ∈ phase.effects, effect = .authorize ∨ effect = .rollOut) :
    controller.Recorded part start lost (controller.run phase progress).2 := by
  obtain ⟨⟨name, listed⟩, manifest, holds, stored⟩ := recorded
  have spared := (controller.dispatcher progress).run_spares shows spares gentle controller.topology
    progress.cluster progress.site.now progress.site.provider
  refine ⟨⟨spared.name.trans name, ?_⟩, manifest, holds, ?_⟩
  · intro id runs
    rcases listed id (spared.running id runs) with early | gone | here
    · exact .inl early
    · exact .inr (.inl gone)
    · exact .inr (.inr (spared.listed id here runs))
  · intro id runs
    exact stored id (spared.running id runs)

/-- However far an operation gets, machines that are recorded stay so if every save succeeds. -/
theorem Recorded.performs (shows : controller.provider.Shows Simulation.provider part)
    (spares : controller.registry.Spares part) (keeps : controller.backend ≠ .discard)
    {steps : List ControlStep} (gentle : ∀ step ∈ steps, step.IsGentle) (recorded : controller.Recorded part start lost progress)
    (saved : ∀ cause, (inOrder controller.perform steps progress).1 ≠ .error (.store cause)) :
    controller.Recorded part start lost (inOrder controller.perform steps progress).2 := by
  induction steps generalizing progress with
  | nil => exact recorded
  | cons step rest ih =>
      have later := fun other member => gentle other (List.mem_cons_of_mem step member)
      have first := gentle step List.mem_cons_self
      unfold inOrder at saved ⊢
      cases step with
      | load | delete => exact first.elim
      | run phase =>
          have kept := recorded.runs shows spares first
          change controller.Recorded part start lost (controller.perform (.run phase) progress).2 at kept
          rcases performed : controller.perform (.run phase) progress with ⟨error | _, next⟩
          · rw [performed] at kept
            exact kept
          · rw [performed] at kept saved
            exact ih later kept saved
      | save =>
          rcases performed : controller.perform .save progress with ⟨error | _, next⟩
          · rw [performed] at saved
            obtain ⟨⟨cause, rfl⟩, _⟩ := save_error performed
            exact (saved cause rfl).elim
          · rw [performed] at saved
            exact ih later (recorded.saves keeps performed) saved

theorem Listed.performs (shows : controller.provider.Shows Simulation.provider part)
    (spares : controller.registry.Spares part) (keeps : controller.backend ≠ .discard)
    {steps : List ControlStep} (gentle : ∀ step ∈ steps, step.IsGentle) (listed : controller.Listed part start lost progress)
    (saved : ∀ cause, (inOrder controller.perform (.save :: steps) progress).1 ≠ .error (.store cause)) :
    controller.Recorded part start lost (inOrder controller.perform (.save :: steps) progress).2 := by
  unfold inOrder at saved ⊢
  rcases performed : controller.perform .save progress with ⟨error | _, next⟩
  · rw [performed] at saved
    obtain ⟨⟨cause, rfl⟩, _⟩ := save_error performed
    exact (saved cause rfl).elim
  · rw [performed] at saved
    exact (listed.saves keeps performed).performs shows spares keeps gentle saved

/-- A machine that was created in a launch and still runs is remembered, if every save
succeeds and the handlers leave the machines alone, but for two cases: it was not ready,
could not be destroyed, and the launch succeeded without it; or a hook failed after
BOOTSTRAP had launched it. -/
theorem launch_remembers_machines (controller : Controller σ) (part : σ → Simulation) (site : Site σ)
    (shows : controller.provider.Shows Simulation.provider part) (spares : controller.registry.Spares part)
    (keeps : controller.backend ≠ .discard)
    (saved : ∀ cause, (controller.execute .launch site).1 ≠ .error (.store cause)) :
    ∀ id ∈ (part (controller.execute .launch site).2.site.provider).runningIds,
      id ∉ (part site.provider).createdIds →
        controller.Remembered site id ∨
        (∃ cluster report, controller.launched? site = some (.ok (cluster, report)) ∧ id ∈ report.orphaned) ∨
        (∃ role cause, (controller.execute .launch site).1 = .error (.handler role .bootstrap .after cause)) := by
  obtain ⟨name, remembers⟩ := (controller.dispatcher (controller.begin site)).bootstrap_remembers
    shows spares controller.topology (.new controller.topology.clusterName) site.now site.provider
  have saves (cause : StoreError) :
      (inOrder controller.perform Operation.launch.steps (controller.begin site)).1 ≠
        .error (.store cause) := by
    intro fails
    apply saved cause
    simp only [execute, fails, Except.map]
  unfold Remembered execute
  dsimp only
  unfold Operation.steps inOrder at saves ⊢
  rcases performed : controller.perform (.run .bootstrap) (controller.begin site) with ⟨error | _, next⟩
  · -- nothing is saved: what is known is in the error
    have result := congrArg Prod.fst performed
    change ((controller.dispatcher (controller.begin site)).run .bootstrap _ _ _ _).result =
      .error error at result
    obtain rfl : (controller.run .bootstrap (controller.begin site)).2 = next := congrArg Prod.snd performed
    intro id runs fresh
    rcases remembers id runs with early | known
    · exact (fresh (mem_runningIds.mp early).1).elim
    · cases known with
      | listed succeeds => cases result.symm.trans succeeds
      | reported fails reported named =>
          cases result.symm.trans fails
          exact .inl (.inr ⟨_, _, rfl, reported, named⟩)
      | putAside answer orphaned => exact .inr (.inl ⟨_, _, answer, orphaned⟩)
      | notHandedOn fails =>
          cases result.symm.trans fails
          exact .inr (.inr ⟨_, _, rfl⟩)
  · -- the cluster lists the machines, and the save that follows writes it down
    have result := congrArg Prod.fst performed
    change ((controller.dispatcher (controller.begin site)).run .bootstrap _ _ _ _).result =
      .ok () at result
    obtain rfl : (controller.run .bootstrap (controller.begin site)).2 = next := congrArg Prod.snd performed
    rw [performed] at saves
    dsimp only at saves ⊢
    have listed : controller.Listed part (part site.provider) (fun id => ∃ cluster report,
        controller.launched? site = some (.ok (cluster, report)) ∧ id ∈ report.orphaned)
        (controller.run .bootstrap (controller.begin site)).2 := by
      refine ⟨name result, fun id runs => ?_⟩
      rcases remembers id runs with early | known
      · exact .inl early
      · cases known with
        | listed succeeds here => exact .inr (.inr here)
        | reported fails | notHandedOn fails => cases result.symm.trans fails
        | putAside answer orphaned => exact .inr (.inl ⟨_, _, answer, orphaned⟩)
    have gentle : ∀ step ∈ [ControlStep.run .configure, .save, .run .start, .save], step.IsGentle := by
      simp [ControlStep.IsGentle, Phase.effects]
    obtain ⟨_, manifest, holds, stored⟩ := listed.performs shows spares keeps gentle saves
    intro id runs fresh
    rcases stored id runs with early | gone | here
    · exact (fresh (mem_runningIds.mp early).1).elim
    · exact .inr (.inl gone)
    · exact .inl (.inl ⟨manifest, holds, here⟩)

/-! ### Launches in memory -/

section

variable (controller : Controller Rehearsal) (site : Site Rehearsal)

def failure? : Option Error :=
  match (controller.execute .launch site).1 with
  | .ok _ => none
  | .error error => some error

def idsInMemory : List String :=
  (((controller.execute .launch site).2.site.storage.memory.get? controller.topology.clusterName).map
    Manifest.ids).getD []

structure Forgets (id : String) : Prop where
  valid : controller.topology.validate = .ok ()
  keeps : controller.backend ≠ .discard
  saved : ∀ cause, (controller.execute .launch site).1 ≠ .error (.store cause)
  runs : id ∈ (controller.execute .launch site).2.site.provider.simulation.runningIds
  fresh : id ∉ site.provider.simulation.createdIds
  forgotten : ¬ controller.Remembered site id

variable {controller site} {id : String}

theorem failure?_of_error {error : Error} (fails : (controller.execute .launch site).1 = .error error) :
    controller.failure? site = some error := by
  rw [failure?, fails]

theorem forgets_of_memory (valid : controller.topology.validate = .ok ())
    (memory : controller.backend = .memory)
    (saved : ∀ error ∈ controller.failure? site, error.exitCode < 20 ∨ error.exitCode = 30)
    (runs : id ∈ (controller.execute .launch site).2.site.provider.simulation.runningIds)
    (fresh : id ∉ site.provider.simulation.createdIds) (unlisted : id ∉ controller.idsInMemory site) :
    controller.Forgets site id where
  valid
  keeps := by simp [memory]
  saved := by
    intro cause fails
    have codes := saved _ (failure?_of_error fails)
    cases cause <;> simp [Error.exitCode, StoreError.exitCode] at codes
  runs
  fresh
  forgotten := by
    rintro (⟨manifest, holds, listed⟩ | ⟨error, report, fails, reported, _⟩)
    · rw [memory] at holds
      have stored : (controller.execute .launch site).2.site.storage.memory.get?
          controller.topology.clusterName = some manifest := holds
      apply unlisted
      rw [idsInMemory, stored]
      exact listed
    · have codes := saved _ (failure?_of_error fails)
      cases error <;> simp [Error.exitCode, LaunchError.exitCode] at codes

def workers (handler : Handler Rehearsal) : Controller Rehearsal :=
  .new (Launch.plainTopology [⟨.ofList ["worker"], 2, 50, 1⟩] 0) Rehearsal.provider .memory
    (.ofHandlers [handler])

def siteOf (unready : Nat) (failDestroy : Bool) : Site Rehearsal where
  provider := ⟨{ Simulation.new.setDue (.ofList ["worker"]) ⟨0, false, unready⟩ with
    faults.failDestroy := failDestroy }, []⟩
  storage := .ofTree .empty
  now := 0
  moment := .epoch

def failingAt (hook : Hook) (phase : Phase) : Handler Rehearsal :=
  Rehearsal.handler "worker" [] fun called during =>
    if called = hook ∧ during = phase then [.fail "no"] else []

def emptyingAt (hook : Hook) (phase : Phase) : Handler Rehearsal where
  role := "worker"
  disallowed := []
  hook called during _ event :=
    (.ok (), if called = hook ∧ during = phase then { event with cluster := .new event.cluster.name } else event)

-- A machine is forgotten when a hook fails after BOOTSTRAP, when it could not be destroyed and
-- the launch succeeded, or when a hook takes it out of the cluster.
theorem launch_forgets_machines :
    (workers (failingAt .after .bootstrap)).Forgets (siteOf 0 false) "stub-00001" ∧
    (workers (failingAt .before .cleanup)).Forgets (siteOf 1 true) "stub-00001" ∧
    (workers (emptyingAt .after .start)).Forgets (siteOf 0 false) "stub-00001" := by
  refine ⟨?_, ?_, ?_⟩
  · exact forgets_of_memory (by decide +kernel) rfl (by decide +kernel) (by decide +kernel) (by decide)
      (by decide +kernel)
  · exact forgets_of_memory (by decide +kernel) rfl (by decide +kernel) (by decide +kernel) (by decide)
      (by decide +kernel)
  · exact forgets_of_memory (by decide +kernel) rfl (by decide +kernel) (by decide +kernel) (by decide)
      (by decide +kernel)

-- CONFIGURE fails, and the machines are in the manifest that was saved before.
theorem launch_remembers_machines_of_two :
    let controller := workers (failingAt .after .configure)
    let site := siteOf 0 false
    controller.provider.Shows Simulation.provider Rehearsal.simulation ∧
    controller.registry.Spares Rehearsal.simulation ∧ controller.backend ≠ .discard ∧
    (∀ cause, (controller.execute .launch site).1 ≠ .error (.store cause)) ∧
    "stub-00001" ∈ (controller.execute .launch site).2.site.provider.simulation.runningIds ∧
    "stub-00001" ∉ site.provider.simulation.createdIds ∧ controller.Remembered site "stub-00001" := by
  intro controller site
  have shows : controller.provider.Shows Simulation.provider Rehearsal.simulation := Rehearsal.provider_shows
  have spares : controller.registry.Spares Rehearsal.simulation :=
    Registry.withScripted_spares (Registry.register_spares Registry.empty_spares
      (Rehearsal.handler_spares _ _ _)) _
  have keeps : controller.backend ≠ .discard := by decide
  have failed : controller.failure? site = some (.handler "worker" .configure .after (.note "no")) := by
    decide +kernel
  have runs : "stub-00001" ∈ (controller.execute .launch site).2.site.provider.simulation.runningIds := by
    decide +kernel
  have fresh : "stub-00001" ∉ site.provider.simulation.createdIds := by decide
  have none : ((controller.launched? site).bind Launch.Answer.report?).map LaunchReport.orphaned =
      some [] := by
    decide +kernel
  clear_value controller site
  have saved (cause : StoreError) : (controller.execute .launch site).1 ≠ .error (.store cause) := by
    intro fails
    cases failed.symm.trans (failure?_of_error fails)
  refine ⟨shows, spares, keeps, saved, runs, fresh, ?_⟩
  rcases launch_remembers_machines controller Rehearsal.simulation site shows spares keeps saved _ runs fresh
    with remembered | ⟨cluster, report, answer, orphaned⟩ | ⟨role, cause, fails⟩
  · exact remembered
  · rw [answer] at none
    rw [Option.some.inj none] at orphaned
    cases orphaned
  · cases failed.symm.trans (failure?_of_error fails)

end

end Controller

end Muster
