import Muster.Proofs.Controller.HostNames
import Muster.Proofs.Lifecycle.Repeating
import Muster.Proofs.Store.Conversions
import Muster.Proofs.Store.Paved

/-!
Operations that are repeated. CONFIGURE, START and STOP load a manifest, run their phase on its
cluster and save it. With scripted handlers and a provider whose answers do not change, one that
has succeeded has saved what the same operation loads, runs and saves again.
-/

namespace Muster

variable {σ : Type}

/-! ### Manifests apart from host names -/

def InstanceRecord.unnamed (record : InstanceRecord) : InstanceRecord :=
  { record with publicHost := none, privateHost := none }

namespace Manifest

structure SameButNames (before after : Manifest) : Prop where
  clusterName : after.clusterName = before.clusterName
  records : after.instances.map InstanceRecord.unnamed = before.instances.map InstanceRecord.unnamed
  properties : after.properties = before.properties

theorem records_of_sameNodes {manifest : Manifest} {cluster : Cluster} (distinct : manifest.ids.Nodup)
    (nodes : manifest.toCluster.SameNodes cluster) (moment : Timestamp) :
    (ofCluster cluster moment).instances.map InstanceRecord.unnamed =
      manifest.instances.map InstanceRecord.unnamed := by
  have bare (machines : List Instance) : (machines.map InstanceRecord.ofInstance).map InstanceRecord.unnamed =
      (machines.map Instance.bare).map InstanceRecord.ofInstance := by
    rw [List.map_map, List.map_map]
    rfl
  have same : (manifest.instances.map InstanceRecord.toInstance).map InstanceRecord.ofInstance = manifest.instances := by
    rw [List.map_map]
    refine (List.map_congr_left fun record _ => ?_).trans (List.map_id _)
    exact InstanceRecord.ofInstance_toInstance record
  change (cluster.instances.map InstanceRecord.ofInstance).map InstanceRecord.unnamed = _
  rw [bare, nodes, Manifest.toCluster_instances distinct, ← bare, same]

theorem toCluster_isNamed {manifest : Manifest} (distinct : manifest.ids.Nodup) : manifest.toCluster.IsNamed := by
  intro machine member
  rw [Manifest.toCluster_instances distinct] at member
  obtain ⟨record, _, rfl⟩ := List.mem_map.mp member
  obtain ⟨id, roles, publicIp, privateIp, _ | publicHost, _ | privateHost, metadata⟩ := record
  all_goals simp [InstanceRecord.toInstance, InstanceRecord.hosts, Hosts.unknown]

end Manifest

namespace Controller

variable {controller : Controller σ} {operation : Operation} {phase : Phase} {manifest : Manifest} {site : Site σ}
  {cluster : Cluster} {answers : Answers} {holds : σ → Prop}

/-! ### One transition -/

theorem transition_phase (transition : operation ∈ [.configure, .start, .stop]) :
    ∃ phase, operation.steps = [.load, .run phase, .save] ∧ phase ∈ [.configure, .start, .stop] ∧
      (phase = .configure → operation = .configure) := by
  simp only [List.mem_cons, List.not_mem_nil, or_false] at transition
  rcases transition with rfl | rfl | rfl
  · exact ⟨.configure, rfl, by decide, fun _ => rfl⟩
  · exact ⟨.start, rfl, by decide, nofun⟩
  · exact ⟨.stop, rfl, by decide, nofun⟩

def transit (controller : Controller σ) (phase : Phase) (manifest : Manifest) (site : Site σ) : PhaseOutcome σ :=
  (controller.dispatcher (controller.begin site)).run phase controller.topology manifest.toCluster site.now site.provider

structure Ran (controller : Controller σ) (phase : Phase) (manifest : Manifest) (site : Site σ) (found ran : Progress σ) :
    Prop where
  cluster : ran.cluster = (controller.transit phase manifest site).cluster
  provider : ran.site.provider = (controller.transit phase manifest site).state
  storage : ran.site.storage = found.site.storage
  moment : ran.site.moment = site.moment

theorem run_transit {found ran : Progress σ} {result : Except Error Unit}
    (stores : controller.backend.Stores controller.topology.clusterName manifest site.storage)
    (loads : controller.load (controller.begin site) = (.ok (), found)) (runs : controller.run phase found = (result, ran)) :
    (controller.transit phase manifest site).result = result ∧ controller.Ran phase manifest site found ran := by
  obtain ⟨other, storage, also, rfl⟩ := load_ok loads
  obtain rfl := stores.unique also
  cases runs
  exact ⟨rfl, rfl, rfl, rfl, rfl⟩

structure Transited (controller : Controller σ) (phase : Phase) (manifest : Manifest) (site : Site σ) (returned : Cluster)
    (ended : Progress σ) : Prop where
  runs : (controller.transit phase manifest site).result = .ok ()
  cluster : (controller.transit phase manifest site).cluster = returned
  provider : (controller.transit phase manifest site).state = ended.site.provider
  saves : ∃ storage, controller.backend.save returned.name (.ofCluster returned site.moment) storage =
    (.ok (), ended.site.storage)

theorem transited_of_ok (steps : operation.steps = [.load, .run phase, .save])
    (stores : controller.backend.Stores controller.topology.clusterName manifest site.storage)
    (succeeds : (controller.execute operation site).1 = .ok cluster) :
    controller.Transited phase manifest site cluster (controller.execute operation site).2 := by
  rcases done : inOrder controller.perform operation.steps (controller.begin site) with ⟨error | ⟨⟩, ended⟩
  · rw [execute_eq done] at succeeds
    cases succeeds
  · rw [execute_eq done] at succeeds ⊢
    obtain rfl : ended.cluster = cluster := Except.ok.inj succeeds
    rw [steps] at done
    obtain ⟨found, loads, done⟩ := inOrder_cons_ok done
    obtain ⟨ran, runs, done⟩ := inOrder_cons_ok done
    obtain ⟨left, saved, nothing⟩ := inOrder_cons_ok done
    cases nothing
    obtain ⟨result, here⟩ := run_transit stores loads runs
    obtain ⟨storage, ⟨saves, kept⟩ | ⟨cause, _, fails⟩⟩ := controller.save_cases ran
    · cases kept.symm.trans saved
      rw [here.moment] at saves
      exact ⟨result, here.cluster.symm, here.provider.symm, ran.site.storage, saves⟩
    · cases fails.symm.trans saved

-- Where nothing in the store gets in the way, a transition succeeds if its phase does.
theorem execute_transits (steps : operation.steps = [.load, .run phase, .save])
    (stores : controller.backend.Stores controller.topology.clusterName manifest site.storage)
    (calm : site.storage.Calm) (succeeds : (controller.transit phase manifest site).result = .ok ())
    (saves : ∀ found, site.storage.SameContents found → found.drafts = site.storage.drafts → found.Calm → ∀ other,
      (controller.backend.save (controller.transit phase manifest site).cluster.name other found).1 = .ok ()) :
    (controller.execute operation site).1 = .ok (controller.transit phase manifest site).cluster := by
  have looked := controller.load_contents (controller.begin site)
  have quiet : (controller.load (controller.begin site)).2.site.storage.Calm := load_calm calm
  have drawn := controller.load_drafts (controller.begin site)
  have there : (controller.load (controller.begin site)).1 = .ok () := load_succeeds calm stores
  rcases loads : controller.load (controller.begin site) with ⟨error | ⟨⟩, found⟩
  · rw [loads] at there
    cases there
  · rw [loads] at looked quiet drawn
    rcases runs : controller.run phase found with ⟨result, ran⟩
    obtain ⟨rfl, here⟩ := run_transit stores loads runs
    rw [succeeds] at runs
    have granted := saves ran.site.storage (here.storage ▸ looked) (here.storage ▸ drawn) (here.storage ▸ quiet)
      (.ofCluster ran.cluster ran.site.moment)
    rw [← here.cluster] at granted
    obtain ⟨storage, ⟨_, saved⟩ | ⟨cause, fails, _⟩⟩ := controller.save_cases ran
    · have done : inOrder controller.perform operation.steps (controller.begin site) = (.ok (), (controller.save ran).2) := by
        rw [steps, inOrder_of_ok (show controller.perform .load _ = _ from loads),
          inOrder_of_ok (show controller.perform (.run phase) found = _ from runs),
          inOrder_of_ok (show controller.perform .save ran = _ from saved), saved]
        rfl
      rw [execute_eq done, ← here.cluster]
      rfl
    · rw [fails] at granted
      cases granted

/-! ### The same transition again -/

-- A store in which no request fails by itself goes on so.
theorem execute_calm (operation : Operation) (calm : site.storage.Calm) :
    (controller.execute operation site).2.site.storage.Calm := by
  change (inOrder controller.perform operation.steps (controller.begin site)).2.site.storage.Calm
  refine inOrder_keeps (fun progress : Progress σ => progress.site.storage.Calm) ?_ calm
  intro step _ progress kept
  cases step with
  | load => exact load_calm kept
  | run phase => exact kept
  | save => exact Backend.save_calm kept
  | delete => exact Backend.delete_calm kept

theorem transit_repeatable (scripted : controller.registry.IsScripted) (steady : controller.provider.Steady answers holds)
    (transition : phase ∈ [.configure, .start, .stop]) (distinct : manifest.ids.Nodup) (here : holds site.provider)
    (runs : (controller.transit phase manifest site).result = .ok ()) :
    (controller.dispatcher (controller.begin site)).Repeatable holds phase controller.topology manifest.toCluster
      (controller.transit phase manifest site) := by
  have steady : (controller.dispatcher (controller.begin site)).provider.Steady answers holds := steady
  exact Dispatcher.run_repeatable steady scripted transition (Manifest.toCluster_isNamed distinct) here runs

/-- CONFIGURE, START and STOP can be repeated. With scripted handlers, a provider whose answers do not change
and a manifest under its own name, one that has succeeded has stored the manifest of the cluster that it
returned. Whenever it is carried out again on what is stored then, nothing in the store being in its way, it
returns the same cluster and stores the same manifest with another moment. Neither START nor STOP changes
anything in the manifest but that and host names. -/
theorem transitions_repeat (transition : operation ∈ [.configure, .start, .stop])
    (scripted : controller.registry.IsScripted) (steady : controller.provider.Steady answers holds)
    (stores : controller.backend.Stores controller.topology.clusterName manifest site.storage)
    (named : manifest.clusterName = controller.topology.clusterName) (distinct : manifest.ids.Nodup)
    (here : holds site.provider) (succeeds : (controller.execute operation site).1 = .ok cluster) :
    let name := controller.topology.clusterName
    let left := (controller.execute operation site).2.site
    let saved := Manifest.ofCluster cluster site.moment
    controller.backend.look name left.storage = .ok saved ∧ holds left.provider ∧
    (∀ later : Site σ, left.storage.SameContents later.storage → later.storage.Calm →
      controller.backend.DraftsFree name later.storage → holds later.provider →
      let again := controller.execute operation later
      again.1 = .ok cluster ∧
        controller.backend.look name again.2.site.storage = .ok { saved with savedAt := later.moment }) ∧
    (operation ≠ .configure → manifest.SameButNames saved) := by
  intro name left saved
  obtain ⟨phase, steps, among, onlyConfigure⟩ := transition_phase transition
  obtain ⟨runs, returned, provider, storage, saves⟩ := transited_of_ok steps stores succeeds
  have repeatable := transit_repeatable scripted steady among distinct here runs
  obtain ⟨stays, keptName, nodes, properties, again⟩ := repeatable
  rw [returned] at keptName nodes properties again
  have called : cluster.name = name := keptName.trans (manifest.toCluster_name.trans named)
  have keeps : controller.backend ≠ .discard := by
    intro discards
    obtain ⟨kept, found, _⟩ := stores
    rw [discards] at found
    cases found
  rw [called] at saves
  have seen : controller.backend.look name left.storage = .ok saved := Backend.look_of_save keeps saves
  refine ⟨seen, provider ▸ stays, ?_, ?_⟩
  · intro later same calm free still
    have found : controller.backend.Stores name saved later.storage := (Backend.look_eq_ok.mp seen).of_contents same
    obtain ⟨repeats, returns⟩ := again saved.toCluster later.now later.provider (Manifest.recalls cluster _) still
    replace returns : (controller.transit phase saved later).cluster = cluster := returns
    have ends : (controller.execute operation later).1 = .ok cluster := by
      rw [← returns]
      refine execute_transits steps found calm repeats ?_
      intro after unchanged drawn quiet other
      rw [returns, called]
      exact Backend.save_again saves (same.trans unchanged) quiet (free.of_contents unchanged drawn) other
    obtain ⟨_, _, _, before, resaves⟩ := transited_of_ok steps found ends
    rw [called] at resaves
    exact ⟨ends, Backend.look_of_save keeps resaves⟩
  · intro other
    have elsewhere : phase ≠ .configure := fun configure => other (onlyConfigure configure)
    exact ⟨called.trans named.symm, Manifest.records_of_sameNodes distinct nodes _, properties elsewhere⟩

def twoScripted : Controller Simulation :=
  .new (Launch.plainTopology [⟨.ofList ["worker"], 2, 50, 1⟩] 0) Simulation.provider .memory SortedMap.empty

-- CONFIGURE asks the second worker for its names and publishes where both are reached. Carried out again
-- on what it left, a second later, it asks for nothing and only saves at another moment.
theorem transitions_repeat_of_two :
    let storage := { Storage.ofTree .empty with memory := SortedMap.empty.insert "small" Visit.firstNamed }
    let site : Site Simulation := ⟨.new, storage, 0, .epoch⟩
    let first := twoScripted.execute .configure site
    let moment : Timestamp := ⟨⟨1970, 1, 1⟩, ⟨0, 0, 1, 0⟩, by decide, by decide⟩
    let later := { first.2.site with now := 1000, moment }
    let second := twoScripted.execute .configure later
    twoScripted.backend.Stores "small" Visit.firstNamed storage ∧ Visit.firstNamed.ids.Nodup ∧
    later.storage.Calm ∧ first.2.site.provider.resolveCalls = 1 ∧ second.2.site.provider.resolveCalls = 1 ∧
    ∃ cluster, first.1 = .ok cluster ∧ cluster.property "worker.hosts" = some "a,b" ∧ second.1 = .ok cluster ∧
      twoScripted.backend.look "small" second.2.site.storage = .ok (.ofCluster cluster moment) := by
  intro storage site first moment later second
  have stores : twoScripted.backend.Stores twoScripted.topology.clusterName Visit.firstNamed site.storage :=
    ⟨_, rfl, rfl⟩
  have distinct : Visit.firstNamed.ids.Nodup := by decide +kernel
  have calm : later.storage.Calm := execute_calm .configure ⟨fun _ => rfl, by rintro (_ | _) _ _ <;> rfl⟩
  have scripted : twoScripted.registry.IsScripted := Registry.withScripted_isScripted Registry.empty_each _
  have published : (first.1.toOption.bind fun cluster => cluster.property "worker.hosts") = some "a,b" := by
    decide +kernel
  refine ⟨stores, distinct, calm, by decide +kernel, by decide +kernel, ?_⟩
  rcases returns : first.1 with error | cluster
  · rw [returns] at published
    cases published
  · rw [returns] at published
    have steady : twoScripted.provider.Steady (Simulation.answers .new) (Simulation.AnswersAs .new) := Simulation.steady _
    have returns : (twoScripted.execute .configure site).1 = .ok cluster := returns
    have repeatable := transitions_repeat (by decide) scripted steady stores rfl distinct ⟨rfl, rfl⟩ returns
    rw [show twoScripted.execute .configure site = first from rfl] at repeatable
    clear_value first
    obtain ⟨_, stays, again, _⟩ := repeatable
    obtain ⟨repeats, seen⟩ := again later (.refl first.2.site.storage) calm trivial stays
    exact ⟨cluster, rfl, published, repeats, seen⟩

end Controller

end Muster
