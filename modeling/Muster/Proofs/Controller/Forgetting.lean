import Muster.Proofs.Controller.Checkpoints
import Muster.Proofs.Lifecycle.Cleanup
import Muster.Proofs.Lifecycle.Deeds

/-!
A cluster is forgotten when its machines are gone, and not before. CLEANUP comes first, and
the manifest is deleted only when it has succeeded; whatever fails leaves the manifest, so
that the cluster can be destroyed again until everything succeeds.
-/

namespace Muster

open Simulation

variable {σ : Type}

/-! ### The machines of a manifest -/

namespace Cluster

theorem mem_ids_add (cluster : Cluster) (machine : Instance) {id : String} :
    id ∈ (cluster.add machine).2.ids ↔ id ∈ cluster.ids ∨ id = machine.id := by
  by_cases fresh : cluster.find? machine.id = none
  · simp [add, fresh, ids]
  · have known : machine.id ∈ cluster.ids := by
      rw [find?_eq_none, not_not] at fresh
      exact fresh
    simp only [add, fresh, dite_false]
    constructor
    · exact .inl
    · rintro (listed | rfl)
      · exact listed
      · exact known

theorem mem_ids_addAll (cluster : Cluster) (machines : List Instance) {id : String} :
    id ∈ (cluster.addAll machines).ids ↔ id ∈ cluster.ids ∨ id ∈ machines.map Instance.id := by
  induction machines generalizing cluster with
  | nil => simp [addAll]
  | cons machine rest ih =>
      change id ∈ ((cluster.add machine).2.addAll rest).ids ↔ _
      rw [ih, mem_ids_add, List.map_cons, List.mem_cons, or_assoc]

end Cluster

-- Records that share an id are one machine.
theorem Manifest.mem_toCluster (manifest : Manifest) {id : String} :
    id ∈ manifest.toCluster.ids ↔ id ∈ manifest.ids := by
  have records : (manifest.instances.map InstanceRecord.toInstance).map Instance.id = manifest.ids := by
    rw [List.map_map]
    rfl
  change id ∈ ((Cluster.new manifest.clusterName).addAll _).ids ↔ _
  rw [Cluster.mem_ids_addAll, records]
  simp [Cluster.new, Cluster.ids]

theorem Backend.Stores.unique {backend : Backend} {name : String} {manifest other : Manifest} {storage : Storage}
    (stores : backend.Stores name manifest storage) (also : backend.Stores name other storage) :
    other = manifest := by
  obtain ⟨kept, found, reads⟩ := stores
  obtain ⟨same, there, again⟩ := also
  cases found.symm.trans there
  exact Except.ok.inj (again.symm.trans reads)

namespace Controller

variable {controller : Controller σ} {site : Site σ} {manifest : Manifest}

-- How far a destroy can get.
inductive Destroying (controller : Controller σ) (site : Site σ) :
    Except Error Unit × Progress σ → Prop where
  | notLoaded {error : Error} {found : Progress σ}
      (fails : controller.load (controller.begin site) = (.error error, found)) :
      Destroying controller site (.error error, found)
  | notCleaned {error : Error} {found ended : Progress σ}
      (loads : controller.load (controller.begin site) = (.ok (), found))
      (fails : controller.run .cleanup found = (.error error, ended)) :
      Destroying controller site (.error error, ended)
  | deletes {result : Except Error Unit} {found ended left : Progress σ}
      (loads : controller.load (controller.begin site) = (.ok (), found))
      (cleans : controller.run .cleanup found = (.ok (), ended))
      (answer : controller.delete ended = (result, left)) :
      Destroying controller site (result, left)

theorem destroying (controller : Controller σ) (site : Site σ) : Destroying controller site
    (inOrder controller.perform Operation.destroy.steps (controller.begin site)) := by
  simp only [Operation.steps]
  rcases loads : controller.perform .load (controller.begin site) with ⟨error | ⟨⟩, found⟩
  · rw [inOrder_of_error loads]
    exact .notLoaded loads
  · rw [inOrder_of_ok loads]
    rcases cleans : controller.perform (.run .cleanup) found with ⟨error | ⟨⟩, ended⟩
    · rw [inOrder_of_error cleans]
      exact .notCleaned loads cleans
    · rw [inOrder_of_ok cleans]
      rcases answer : controller.perform .delete ended with ⟨error | ⟨⟩, left⟩
      · rw [inOrder_of_error answer]
        exact .deletes loads cleans answer
      · rw [inOrder_of_ok answer]
        exact .deletes loads cleans answer

/-! ### Failing -/

-- Whatever makes a destroy fail, everything that is stored is as it was.
theorem destroy_fails {error : Error} (fails : (controller.execute .destroy site).1 = .error error) :
    site.storage.SameContents (controller.execute .destroy site).2.site.storage := by
  have looked := controller.load_contents (controller.begin site)
  have destroying := controller.destroying site
  rcases done : inOrder controller.perform Operation.destroy.steps (controller.begin site) with ⟨result, ended⟩
  rw [execute_eq done] at fails ⊢
  rw [done] at destroying
  cases destroying with
  | notLoaded notFound =>
      rw [notFound] at looked
      exact looked
  | notCleaned loads notClean =>
      rename_i error found
      have untouched := controller.run_storage .cleanup found
      rw [loads] at looked
      rw [notClean] at untouched
      change site.storage.SameContents ended.site.storage
      rw [untouched.1]
      exact looked
  | deletes loads cleans answer =>
      rename_i found cleaned
      have untouched := controller.run_storage .cleanup found
      rw [loads] at looked
      rw [cleans] at untouched
      cases result with
      | ok => cases fails
      | error error =>
          have kept := delete_error answer
          rw [untouched.1] at kept
          exact looked.trans kept

/-! ### Cleaning up -/

def cleanup (controller : Controller σ) (manifest : Manifest) (site : Site σ) : PhaseOutcome σ :=
  (controller.dispatcher (controller.begin site)).run .cleanup controller.topology manifest.toCluster
    site.now site.provider

def cleaning (controller : Controller σ) (manifest : Manifest) (site : Site σ) :
    List (Performed (PhaseStep σ) (PhaseRun σ) Error) :=
  (controller.dispatcher (controller.begin site)).history .cleanup controller.topology manifest.toCluster
    site.now site.provider

/-- Every step of CLEANUP was done and succeeded, statements and all. A machine of the manifest
was destroyed, or a hook took it out of the cluster, which none does that leaves them alone. -/
structure CleanedUp (controller : Controller σ) (manifest : Manifest) (site : Site σ) : Prop where
  complete : ∃ handlers,
    (controller.dispatcher (controller.begin site)).handlersFor .cleanup controller.topology
      manifest.toCluster = .ok handlers ∧
    (controller.cleaning manifest site).map (fun entry => (entry.step, entry.result)) =
      (Phase.cleanup.steps handlers).map fun step => (step, .ok ())
  deeds : ∀ deed ∈ (controller.cleanup manifest site).deeds, deed.succeeded = true
  gone : ∀ id ∈ manifest.ids, ∃ entry ∈ controller.cleaning manifest site,
    (controller.dispatcher (controller.begin site)).Leaves .cleanup controller.topology id entry
  destroyed : controller.registry.Within PhaseEvent.SameMachines →
    ∀ id ∈ manifest.ids, ∃ entry ∈ controller.cleaning manifest site,
      (controller.dispatcher (controller.begin site)).Destroys id entry

theorem cleanedUp_of_ok (succeeds : (controller.cleanup manifest site).result = .ok ()) :
    controller.CleanedUp manifest site := by
  cases found : (controller.dispatcher (controller.begin site)).handlersFor .cleanup controller.topology
      manifest.toCluster with
  | error error =>
      rw [cleanup, Dispatcher.run_of_refused _ _ found] at succeeds
      cases succeeds
  | ok handlers =>
      refine ⟨⟨handlers, found, Dispatcher.cleanup_complete found succeeds⟩, ?_, ?_, ?_⟩
      · exact (Dispatcher.run_ok_iff _ _ found).mp succeeds
      · intro id listed
        exact Dispatcher.cleanup_leaves found succeeds (manifest.mem_toCluster.mpr listed)
      · intro hooks id listed
        exact Dispatcher.cleanup_destroys_all found succeeds hooks (manifest.mem_toCluster.mpr listed)

theorem run_cleanup (stores : controller.backend.Stores controller.topology.clusterName manifest site.storage)
    {found : Progress σ} (loads : controller.load (controller.begin site) = (.ok (), found)) :
    let outcome := controller.cleanup manifest site
    controller.run .cleanup found = (outcome.result,
      { site := { found.site with provider := outcome.state, now := outcome.now }
        cluster := outcome.cluster
        firewall := outcome.dispatcher.firewall
        deeds := outcome.deeds }) := by
  obtain ⟨other, storage, also, rfl⟩ := load_ok loads
  obtain rfl := stores.unique also
  rfl

-- What is stored can only change when the cleaning up is done.
theorem cleanedUp_of_changed {name : String}
    (stores : controller.backend.Stores controller.topology.clusterName manifest site.storage)
    (changed : controller.backend.kept? name (controller.execute .destroy site).2.site.storage ≠
      controller.backend.kept? name site.storage) : controller.CleanedUp manifest site := by
  have destroying := controller.destroying site
  rcases done : inOrder controller.perform Operation.destroy.steps (controller.begin site) with ⟨result, ended⟩
  rw [done] at destroying
  cases destroying with
  | notLoaded fails =>
      have failed : (controller.execute .destroy site).1 = .error _ := congrArg Prod.fst (execute_eq done)
      exact (changed (Backend.kept?_of_contents (destroy_fails failed))).elim
  | notCleaned loads fails =>
      have failed : (controller.execute .destroy site).1 = .error _ := congrArg Prod.fst (execute_eq done)
      exact (changed (Backend.kept?_of_contents (destroy_fails failed))).elim
  | deletes loads cleans answer =>
      rw [run_cleanup stores loads] at cleans
      exact cleanedUp_of_ok (congrArg Prod.fst cleans)

/-! ### Succeeding -/

structure Unhindered (controller : Controller σ) (manifest : Manifest) (site : Site σ) : Prop where
  calm : site.storage.Calm
  checked : ∃ handlers, (controller.dispatcher (controller.begin site)).handlersFor .cleanup
    controller.topology manifest.toCluster = .ok handlers
  deeds : ∀ deed ∈ (controller.cleanup manifest site).deeds, deed.succeeded = true

theorem destroy_succeeds (part : σ → Simulation) (shows : controller.provider.Shows Simulation.provider part)
    (spares : controller.registry.Spares part)
    (stores : controller.backend.Stores controller.topology.clusterName manifest site.storage)
    (named : manifest.clusterName = controller.topology.clusterName)
    (unhindered : controller.Unhindered manifest site) :
    let after := (controller.execute .destroy site).2.site
    (∃ cluster, (controller.execute .destroy site).1 = .ok cluster) ∧
    (controller.backend.load controller.topology.clusterName after.storage).1 =
      .error (.notFound controller.topology.clusterName) ∧
    ∀ id ∈ manifest.ids, id ∉ (part after.provider).runningIds := by
  obtain ⟨calm, ⟨handlers, checked⟩, deeds⟩ := unhindered
  have succeeds : (controller.cleanup manifest site).result = .ok () :=
    (Dispatcher.run_ok_iff _ _ checked).mpr deeds
  have hooks : controller.registry.Within PhaseEvent.SameName :=
    (Registry.spares_iff_within.mp spares).mono fun _ _ spared => spared.name
  have called : (controller.cleanup manifest site).cluster.name = controller.topology.clusterName :=
    Dispatcher.run_name hooks (fun _ => rfl) (manifest.toCluster_name.trans named)
  have stopped (id : String) (listed : id ∈ manifest.ids) :
      id ∉ (part (controller.cleanup manifest site).state).runningIds :=
    Dispatcher.cleanup_stops checked succeeds shows spares (manifest.mem_toCluster.mpr listed)
  have there : (controller.load (controller.begin site)).1 = .ok () := load_succeeds calm stores
  have quiet : (controller.load (controller.begin site)).2.site.storage.Calm := load_calm calm
  have looked := controller.load_contents (controller.begin site)
  have destroying := controller.destroying site
  rcases done : inOrder controller.perform Operation.destroy.steps (controller.begin site) with ⟨result, ended⟩
  rw [done] at destroying
  rw [execute_eq done]
  cases destroying with
  | notLoaded fails =>
      rw [fails] at there
      cases there
  | notCleaned loads fails =>
      rw [run_cleanup stores loads, succeeds] at fails
      cases fails
  | @deletes _ found cleaned _ loads cleans answer =>
      rw [loads] at quiet looked
      rw [run_cleanup stores loads, Prod.mk.injEq] at cleans
      obtain ⟨_, same⟩ := cleans
      have name : cleaned.cluster.name = controller.topology.clusterName := same ▸ called
      have kept : cleaned.site.storage = found.site.storage := by rw [← same]
      have provider : cleaned.site.provider = (controller.cleanup manifest site).state := by rw [← same]
      clear same
      have stored : controller.backend.Stores cleaned.cluster.name manifest cleaned.site.storage := by
        rw [name, kept]
        exact stores.of_contents looked
      obtain ⟨storage, gone, missing⟩ := delete_succeeds (kept ▸ quiet) stored
      cases gone.symm.trans answer
      rw [name] at missing
      refine ⟨⟨_, rfl⟩, missing, ?_⟩
      intro id listed
      exact provider ▸ stopped id listed

/-! ### Trying again -/

-- What is stored after some destroys that failed. Between them nothing that is stored changes.
inductive Retries (σ : Type) (first : Storage) : Storage → Prop where
  | none : Retries σ first first
  | again {between : Storage} {controller : Controller σ} {site : Site σ} {error : Error}
      (earlier : Retries σ first between) (same : between.SameContents site.storage)
      (fails : (controller.execute .destroy site).1 = .error error) :
      Retries σ first (controller.execute .destroy site).2.site.storage

theorem Retries.contents {first last : Storage} (retries : Retries σ first last) : first.SameContents last := by
  induction retries with
  | none => exact .refl _
  | again earlier same fails ih => exact (ih.trans same).trans (destroy_fails fails)

/-- A destroy removes the manifest only when the machines are gone and everything that CLEANUP
does has succeeded, and when it fails everything that is stored is as it was. After any number
of failures a destroy that nothing hinders succeeds; then nothing can be loaded, and of the
machines in the manifest none runs. -/
theorem forgets_only_when_gone (controller : Controller σ) (site : Site σ)
    (stores : controller.backend.Stores controller.topology.clusterName manifest site.storage)
    (named : manifest.clusterName = controller.topology.clusterName) :
    let name := controller.topology.clusterName
    let after := (controller.execute .destroy site).2.site
    (controller.backend.kept? name after.storage ≠ controller.backend.kept? name site.storage →
      controller.CleanedUp manifest site) ∧
    (∀ error, (controller.execute .destroy site).1 = .error error →
      ∀ other, controller.backend.kept? other after.storage = controller.backend.kept? other site.storage) ∧
    ∀ (retry : Controller σ) (later : Site σ) (failed : Storage) (part : σ → Simulation),
      retry.backend = controller.backend → retry.topology.clusterName = name →
      Retries σ site.storage failed → failed.SameContents later.storage →
      retry.provider.Shows Simulation.provider part → retry.registry.Spares part →
      retry.Unhindered manifest later →
      let left := (retry.execute .destroy later).2.site
      (∃ cluster, (retry.execute .destroy later).1 = .ok cluster) ∧
      (controller.backend.load name left.storage).1 = .error (.notFound name) ∧
      ∀ id ∈ manifest.ids, id ∉ (part left.provider).runningIds := by
  intro name after
  refine ⟨?_, ?_, ?_⟩
  · intro changed
    exact cleanedUp_of_changed stores changed
  · intro error fails other
    exact Backend.kept?_of_contents (destroy_fails fails)
  · intro retry later failed part backend again retries same shows spares unhindered
    have still : retry.backend.Stores retry.topology.clusterName manifest later.storage := by
      rw [backend, again]
      exact stores.of_contents (retries.contents.trans same)
    have succeeds := destroy_succeeds part shows spares still (named.trans again.symm) unhindered
    rw [backend, again] at succeeds
    exact succeeds

def twoWorkers : Manifest :=
  let record (id : String) : InstanceRecord := ⟨id, .ofList ["worker"], none, none, none, none, .empty⟩
  ⟨"small", [record "stub-00001", record "stub-00002"], .empty, .epoch⟩

def siteOfTwo : Site Rehearsal where
  provider := (Rehearsal.provider.createMany ⟨"small", .ofList ["worker"], .empty⟩ 2 .new).2
  storage := { Storage.ofTree .empty with memory := SortedMap.empty.insert "small" twoWorkers }
  now := 0
  moment := .epoch

theorem stores_twoWorkers (handler : Handler Rehearsal) :
    (workers handler).backend.Stores (workers handler).topology.clusterName twoWorkers siteOfTwo.storage := by
  refine ⟨.manifest twoWorkers, ?_, rfl⟩
  change Backend.memory.kept? "small" siteOfTwo.storage = some (.manifest twoWorkers)
  decide +kernel

def queueingAt (hook : Hook) (phase : Phase) : Handler Rehearsal :=
  Rehearsal.handler "worker" [] fun called during =>
    if called = hook ∧ during = phase then [.queue none (.call "drain" [])] else []

structure ForgetsTwo (controller : Controller Rehearsal) (deeds : List Deed) (running : List String) : Prop where
  stores : controller.backend.Stores controller.topology.clusterName twoWorkers siteOfTwo.storage
  named : twoWorkers.clusterName = controller.topology.clusterName
  ran : siteOfTwo.provider.simulation.runningIds = twoWorkers.ids
  succeeds : (controller.execute .destroy siteOfTwo).1.isOk = true
  forgotten : controller.backend.kept? controller.topology.clusterName
    (controller.execute .destroy siteOfTwo).2.site.storage = none
  deeds : (controller.execute .destroy siteOfTwo).2.deeds = deeds
  runs : (controller.execute .destroy siteOfTwo).2.site.provider.simulation.runningIds = running

-- The manifest goes while the machines run, when a hook takes them out of the cluster before CLEANUP,
-- and it goes without the statement that a hook queues after CLEANUP.
theorem forgets_running_machines :
    (workers (emptyingAt .before .cleanup)).ForgetsTwo [.hook .before "worker" true, .hook .after "worker" true]
      twoWorkers.ids ∧
    (workers (queueingAt .after .cleanup)).ForgetsTwo
      [.hook .before "worker" true, .destroy twoWorkers.ids true, .hook .after "worker" true] [] := by
  constructor
  · exact ⟨stores_twoWorkers _, rfl, by decide +kernel, by decide +kernel, by decide +kernel, by decide +kernel,
      by decide +kernel⟩
  · exact ⟨stores_twoWorkers _, rfl, by decide +kernel, by decide +kernel, by decide +kernel, by decide +kernel,
      by decide +kernel⟩

-- A hook fails after CLEANUP, when the machines have been destroyed; the next destroy succeeds.
theorem forgets_two_workers :
    let failing := workers (failingAt .after .cleanup)
    let retry := workers (Rehearsal.handler "worker" [] fun _ _ => [])
    let failed := (failing.execute .destroy siteOfTwo).2.site
    let later := { failed with storage := siteOfTwo.storage }
    let left := (retry.execute .destroy later).2.site
    failing.backend.Stores failing.topology.clusterName twoWorkers siteOfTwo.storage ∧
    twoWorkers.clusterName = failing.topology.clusterName ∧
    siteOfTwo.provider.simulation.runningIds = twoWorkers.ids ∧
    (∃ error, (failing.execute .destroy siteOfTwo).1 = .error error) ∧
    failing.backend.kept? "small" failed.storage = failing.backend.kept? "small" siteOfTwo.storage ∧
    (∃ cluster, (retry.execute .destroy later).1 = .ok cluster) ∧
    (failing.backend.load "small" left.storage).1 = .error (.notFound "small") ∧
    ∀ id ∈ twoWorkers.ids, id ∉ left.provider.simulation.runningIds := by
  intro failing retry failed later left
  have stores : failing.backend.Stores failing.topology.clusterName twoWorkers siteOfTwo.storage :=
    stores_twoWorkers _
  have bad : (failing.execute .destroy siteOfTwo).1.isOk = false := by decide +kernel
  have runs : siteOfTwo.provider.simulation.runningIds = twoWorkers.ids := by decide +kernel
  have checked : ((retry.dispatcher (retry.begin later)).handlersFor .cleanup retry.topology
      twoWorkers.toCluster).isOk = true := by decide +kernel
  have deeds : ∀ deed ∈ (retry.cleanup twoWorkers later).deeds, deed.succeeded = true := by decide +kernel
  have calm : later.storage.Calm := by
    refine ⟨fun _ => rfl, ?_⟩
    rintro (_ | _) _ _ <;> rfl
  have spares : retry.registry.Spares Rehearsal.simulation :=
    Registry.withScripted_spares (Registry.register_spares Registry.empty_spares
      (Rehearsal.handler_spares _ _ _)) _
  obtain ⟨_, unchanged, succeeds⟩ := forgets_only_when_gone failing siteOfTwo stores rfl
  cases fails : (failing.execute .destroy siteOfTwo).1 with
  | ok cluster =>
      rw [fails] at bad
      cases bad
  | error error =>
      have unhindered : retry.Unhindered twoWorkers later := by
        refine ⟨calm, ?_, deeds⟩
        cases found : (retry.dispatcher (retry.begin later)).handlersFor .cleanup retry.topology
            twoWorkers.toCluster with
        | ok handlers => exact ⟨handlers, rfl⟩
        | error error =>
            rw [found] at checked
            cases checked
      have retries : Retries Rehearsal siteOfTwo.storage failed.storage := .again .none (.refl _) fails
      have again := succeeds retry later failed.storage Rehearsal.simulation rfl rfl retries
        (destroy_fails fails).symm Rehearsal.provider_shows spares unhindered
      exact ⟨stores, rfl, runs, ⟨error, rfl⟩, unchanged error fails "small", again⟩

end Controller

end Muster
