import Muster.Proofs.Controller.OwnEntry
import Muster.Proofs.Controller.Regranting
import Muster.Proofs.Lifecycle.KnownNames
import Muster.Proofs.Store.Clusters

/-!
Host names that have been saved. Once a record has one of the two names of its machine, it keeps
both as they are through any operations that neither launch nor destroy, by whichever controllers
they are carried out and whatever comes of them. The machine is not asked for its names again.
-/

namespace Muster

variable {σ : Type}

/-! ### Records -/

namespace Manifest

def HasNames (manifest : Manifest) (id : String) (hosts : Hosts) : Prop :=
  ∃ record ∈ manifest.instances, record.id = id ∧
    record.publicHost = hosts.publicName ∧ record.privateHost = hosts.privateName

variable {manifest : Manifest} {id : String} {hosts : Hosts}

theorem HasNames.toCluster (names : manifest.HasNames id hosts) (distinct : manifest.ids.Nodup)
    (known : hosts ≠ .unknown) : manifest.toCluster.Knows id hosts := by
  obtain ⟨record, member, rfl, publicName, privateName⟩ := names
  refine ⟨record.toInstance, ?_, rfl, ?_⟩
  · rw [toCluster_instances distinct]
    exact List.mem_map_of_mem member
  · obtain ⟨_ | publicHost, _ | privateHost⟩ := hosts
    · exact (known rfl).elim
    all_goals simp [InstanceRecord.toInstance, InstanceRecord.hosts, publicName, privateName]

theorem HasNames.ofCluster {cluster : Cluster} (knows : cluster.Knows id hosts) (moment : Timestamp) :
    (ofCluster cluster moment).HasNames id hosts := by
  obtain ⟨machine, member, rfl, known⟩ := knows
  refine ⟨.ofInstance machine, List.mem_map_of_mem member, rfl, ?_, ?_⟩
  all_goals
    simp only [InstanceRecord.ofInstance, known]
    rfl

theorem ofCluster_distinct (cluster : Cluster) (moment : Timestamp) : (Manifest.ofCluster cluster moment).ids.Nodup := by
  rw [ids_ofCluster]
  exact cluster.distinct

end Manifest

-- A manifest that can be read can be read under any name.
theorem Kept.read_ok {kept : Kept} {name : String} {manifest : Manifest} (reads : kept.read name = .ok manifest)
    (other : String) : kept.read other = .ok manifest := by
  rcases kept with (text | _) | stored
  · simp only [Kept.read, Manifest.decode] at reads ⊢
    split at reads
    · cases reads
    · exact reads
  · cases reads
  · exact reads

namespace Backend

def ShowsNames (backend : Backend) (name id : String) (hosts : Hosts) (storage : Storage) : Prop :=
  ∃ manifest, backend.look name storage = .ok manifest ∧ manifest.clusterName = name ∧ manifest.ids.Nodup ∧
    manifest.HasNames id hosts

variable {backend : Backend} {name other id : String} {hosts : Hosts} {manifest : Manifest} {storage after : Storage}

-- Names that share an entry show the same manifest.
theorem look_of_sameEntry (shared : backend.sameEntry name other = true) (seen : backend.look name storage = .ok manifest) :
    backend.look other storage = .ok manifest := by
  obtain ⟨kept, found, reads⟩ := look_eq_ok.mp seen
  refine look_eq_ok.mpr ⟨kept, ?_, Kept.read_ok reads other⟩
  cases backend with
  | files | memory => exact of_decide_eq_true shared ▸ found
  | blob place container given =>
      simp only [kept?] at found ⊢
      rw [blobKey_eq_iff.mpr shared]
      exact found
  | discard => cases shared

theorem ShowsNames.of_contents (shows : backend.ShowsNames name id hosts storage) (same : storage.SameContents after) :
    backend.ShowsNames name id hosts after := by
  obtain ⟨manifest, seen, names⟩ := shows
  exact ⟨manifest, (look_of_contents same name).trans seen, names⟩

theorem ShowsNames.of_manifests (shows : backend.ShowsNames name id hosts storage)
    (same : backend.SameManifests storage after) : backend.ShowsNames name id hosts after := by
  obtain ⟨manifest, seen, names⟩ := shows
  obtain ⟨kept, found, reads⟩ := look_eq_ok.mp seen
  exact ⟨manifest, look_eq_ok.mpr ⟨kept, same.kept?_some found, reads⟩, names⟩

theorem look_of_save (keeps : backend ≠ .discard) (saves : backend.save name manifest storage = (.ok (), after)) :
    backend.look name after = .ok manifest := by
  have held := holds_iff.mp (holds_of_save keeps saves)
  refine look_eq_ok.mpr ⟨_, held, ?_⟩
  cases backend with
  | memory => rfl
  | files | blob | discard => exact Manifest.decode_encode name manifest

end Backend

/-! ### One operation -/

structure Controller.Carries (controller : Controller σ) (name : String) (asked : σ → List String) (id : String)
    (hosts : Hosts) (times : Nat) (progress : Progress σ) : Prop where
  names : NamesKnown asked id hosts times progress.cluster progress.site.provider
  called : progress.cluster.name = name
  shows : controller.backend.ShowsNames name id hosts progress.site.storage

theorem Operation.work_gentle {operation : Operation} (gentle : operation ∈ [.configure, .start, .stop, .list]) :
    ∀ step ∈ operation.work, step.IsGentle := by
  simp only [List.mem_cons, List.not_mem_nil, or_false] at gentle
  rcases gentle with rfl | rfl | rfl | rfl <;> simp [work, steps, ControlStep.IsGentle, Phase.effects]

theorem Operation.loads_first {operation : Operation} (launches : operation ≠ .launch) :
    operation.steps = .load :: operation.work := by
  cases operation with
  | launch => exact (launches rfl).elim
  | configure | start | stop | destroy | list => rfl

/-- What is done in some phases is done in one of them, with nothing other than the firewall changed. -/
theorem Dispatcher.mem_stepsOfAll {dispatcher : Dispatcher σ} {calls : List (PhaseCall σ)}
    {entry : Performed (PhaseStep σ) (PhaseRun σ) Error} (member : entry ∈ dispatcher.stepsOfAll calls) :
    ∃ call ∈ calls, ∃ firewall, entry ∈ { dispatcher with firewall := firewall }.steps call := by
  induction calls generalizing dispatcher with
  | nil => cases member
  | cons call rest ih =>
      rcases List.mem_append.mp member with early | late
      · exact ⟨call, List.mem_cons_self, dispatcher.firewall, early⟩
      · obtain ⟨other, among, firewall, found⟩ := ih late
        have same : (dispatcher.answer call).dispatcher = _ := dispatcher.run_same _ _ _ _ _
        rw [same] at found
        exact ⟨other, List.mem_cons_of_mem _ among, firewall, found⟩

namespace Controller

variable {controller : Controller σ} {name : String} {asked : σ → List String} {id : String} {hosts : Hosts} {times : Nat}
  {progress : Progress σ}

theorem Carries.performs (notes : controller.provider.Notes asked)
    (hooks : controller.registry.Within (PhaseEvent.KeepsNames asked)) {step : ControlStep} (gentle : step.IsGentle)
    (carries : controller.Carries name asked id hosts times progress) :
    controller.Carries name asked id hosts times (controller.perform step progress).2 := by
  cases step with
  | load | delete => exact gentle.elim
  | run phase =>
      have notes : (controller.dispatcher progress).provider.Notes asked := notes
      have hooks : (controller.dispatcher progress).registry.Within (PhaseEvent.KeepsNames asked) := hooks
      have kept : NamesKnown asked id hosts times (controller.run phase progress).2.cluster
          (controller.run phase progress).2.site.provider :=
        (Dispatcher.run_namesKnown notes hooks gentle carries.names).1
      have launches : phase = .bootstrap → name = controller.topology.clusterName := by
        rintro rfl
        rcases gentle .launch (by decide) with same | same <;> cases same
      have named : (controller.run phase progress).2.cluster.name = name :=
        Dispatcher.run_name (hooks.mono fun _ _ kept => kept.name) launches carries.called
      exact ⟨kept, named, carries.shows⟩
  | save =>
      refine ⟨carries.names, carries.called, ?_⟩
      obtain ⟨storage, ⟨saves, done⟩ | ⟨cause, fails, done⟩⟩ := controller.save_cases progress
      · have keeps : controller.backend ≠ .discard := by
          intro discards
          obtain ⟨manifest, seen, _⟩ := carries.shows
          rw [discards] at seen
          cases seen
        have seen := Backend.look_of_save keeps saves
        rw [carries.called] at seen
        rw [show controller.perform .save progress = _ from done]
        exact ⟨_, seen, carries.called, Manifest.ofCluster_distinct _ _, .ofCluster carries.names.known _⟩
      · rw [show controller.perform .save progress = _ from done]
        exact carries.shows.of_manifests (Backend.save_error fails)

/-- However far an operation gets, it carries on what it began with, and its scripts are told so. -/
theorem Carries.works (notes : controller.provider.Notes asked)
    (hooks : controller.registry.Within (PhaseEvent.KeepsNames asked)) {steps : List ControlStep}
    (gentle : ∀ step ∈ steps, step.IsGentle) (carries : controller.Carries name asked id hosts times progress) :
    controller.Carries name asked id hosts times (inOrder controller.perform steps progress).2 ∧
    ∀ done ∈ Muster.history controller.perform steps progress, ∀ call ∈ done.step.phaseCalls controller.topology done.found,
      ∀ firewall, ∀ entry ∈ Dispatcher.steps ⟨controller.provider, controller.registry, firewall, controller.options⟩ call,
        ∀ script succeeded, .run id script succeeded ∈ entry.deeds →
          script.TellsNames controller.topology entry.found.event id hosts := by
  have keeps (step : ControlStep) (member : step ∈ steps) (found : Progress σ)
      (kept : controller.Carries name asked id hosts times found) :
      controller.Carries name asked id hosts times (controller.perform step found).2 :=
    kept.performs notes hooks (gentle step member)
  refine ⟨inOrder_keeps _ keeps carries, ?_⟩
  intro done member call among firewall
  have found := found_keeps _ keeps carries member
  have listed := gentle done.step (performed_of_mem member).1
  cases step : done.step with
  | load | save | delete =>
      rw [step] at among
      cases among
  | run phase =>
      rw [step] at among listed
      obtain rfl := List.mem_singleton.mp among
      exact (Dispatcher.run_namesKnown notes hooks listed found.names).2

theorem phaseCalls_eq {operation : Operation} {site : Site σ} {found : Progress σ} (launches : operation ≠ .launch)
    (loads : controller.perform .load (controller.begin site) = (.ok (), found)) :
    controller.phaseCalls operation site = (Muster.history controller.perform operation.work found).flatMap
      fun entry => entry.step.phaseCalls controller.topology entry.found := by
  rw [phaseCalls, history, operation.loads_first launches, history_of_ok loads]
  rfl

theorem phaseCalls_of_error {operation : Operation} {site : Site σ} {error : Error} {found : Progress σ}
    (launches : operation ≠ .launch) (fails : controller.perform .load (controller.begin site) = (.error error, found)) :
    controller.phaseCalls operation site = [] := by
  rw [phaseCalls, history, operation.loads_first launches, history_of_error fails]
  rfl

theorem load_provider (controller : Controller σ) (progress : Progress σ) :
    (controller.load progress).2.site.provider = progress.site.provider := by
  simp only [load]
  split <;> rfl

/-- An operation that has loaded a manifest with these host names carries them. -/
theorem carries_of_load {site : Site σ} {found : Progress σ}
    (own : controller.backend.sameEntry name controller.topology.clusterName = true)
    (shows : controller.backend.ShowsNames name id hosts site.storage) (known : hosts ≠ .unknown)
    (loads : controller.load (controller.begin site) = (.ok (), found)) :
    controller.Carries name asked id hosts ((asked site.provider).count id) found := by
  have looked := controller.load_contents (controller.begin site)
  rw [loads] at looked
  have still := shows.of_contents looked
  obtain ⟨saved, seen, named, distinct, names⟩ := shows
  obtain ⟨manifest, storage, stores, rfl⟩ := load_ok loads
  obtain rfl := (Backend.look_eq_ok.mp (Backend.look_of_sameEntry own seen)).unique stores
  exact ⟨⟨names.toCluster distinct known, rfl⟩, manifest.toCluster_name.trans named, still⟩

end Controller

/-! ### Operations in turn -/

structure Visit (σ : Type) where
  controller : Controller σ
  operation : Operation
  site : Site σ

namespace Visit

def left (visit : Visit σ) : Site σ := (visit.controller.execute visit.operation visit.site).2.site

def steps (visit : Visit σ) : List (Performed (PhaseStep σ) (PhaseRun σ) Error) :=
  visit.controller.phaseSteps visit.operation visit.site

def InTurn : Storage → List (Visit σ) → Prop
  | _, [] => True
  | storage, visit :: rest => storage.SameContents visit.site.storage ∧ InTurn visit.left.storage rest

structure Elsewhere (backend : Backend) (name : String) (visit : Visit σ) : Prop where
  orderly : backend.IsOrderly visit.site.storage
  valid : isClusterName (visit.controller.calledIn visit.operation visit.site) = true
  apart : backend.sameEntry (visit.controller.calledIn visit.operation visit.site) name = false

/-- An operation in the store that neither launches nor destroys. What it does to the entry of this
name it does to the cluster that is stored there, and its hooks leave known host names alone. -/
structure Suits (backend : Backend) (name : String) (asked : σ → List String) (visit : Visit σ) : Prop where
  store : visit.controller.backend = backend
  operation : visit.operation ∈ [.configure, .start, .stop, .list]
  notes : visit.controller.provider.Notes asked
  hooks : visit.controller.registry.Within (PhaseEvent.KeepsNames asked)
  entry : backend.sameEntry name visit.controller.topology.clusterName = true ∨
    isClusterName name = true ∧ visit.Elsewhere backend name

structure SparesNames (backend : Backend) (name : String) (asked : σ → List String) (id : String) (hosts : Hosts)
    (visit : Visit σ) : Prop where
  shows : backend.ShowsNames name id hosts visit.left.storage
  unasked : backend.sameEntry name visit.controller.topology.clusterName = true →
    (asked visit.left.provider).count id = (asked visit.site.provider).count id
  told : backend.sameEntry name visit.controller.topology.clusterName = true →
    ∀ entry ∈ visit.steps, ∀ script succeeded, .run id script succeeded ∈ entry.deeds →
      script.TellsNames visit.controller.topology entry.found.event id hosts

variable {backend : Backend} {name id : String} {asked : σ → List String} {hosts : Hosts} {visit : Visit σ}

theorem Suits.launches (suits : visit.Suits backend name asked) : visit.operation ≠ .launch := by
  intro launch
  have listed := suits.operation
  simp [launch] at listed

theorem SparesNames.of_own (suits : visit.Suits backend name asked)
    (own : backend.sameEntry name visit.controller.topology.clusterName = true)
    (shows : backend.ShowsNames name id hosts visit.site.storage) (known : hosts ≠ .unknown) :
    visit.SparesNames backend name asked id hosts := by
  have launches := suits.launches
  have gentle := Operation.work_gentle suits.operation
  obtain ⟨controller, operation, site⟩ := visit
  obtain rfl := suits.store
  rcases loaded : controller.perform .load (controller.begin site) with ⟨error | ⟨⟩, found⟩
  · have looked := controller.load_contents (controller.begin site)
    have provider := controller.load_provider (controller.begin site)
    rw [show controller.load _ = _ from loaded] at looked provider
    have left : Visit.left ⟨controller, operation, site⟩ = found.site := by
      simp only [Visit.left, Controller.execute, operation.loads_first launches, inOrder_of_error loaded]
    have steps : Visit.steps ⟨controller, operation, site⟩ = [] := by
      simp only [Visit.steps, Controller.phaseSteps, Controller.phaseCalls_of_error launches loaded]
      rfl
    refine ⟨?_, ?_, ?_⟩
    · exact left ▸ shows.of_contents looked
    · intro _
      exact left ▸ congrArg (fun state => (asked state).count id) provider
    · intro _ entry member
      rw [steps] at member
      cases member
  · have carries : controller.Carries name asked id hosts _ found := Controller.carries_of_load own shows known loaded
    obtain ⟨carried, told⟩ := carries.works suits.notes suits.hooks gentle
    have left : Visit.left ⟨controller, operation, site⟩ = (inOrder controller.perform operation.work found).2.site := by
      simp only [Visit.left, Controller.execute, operation.loads_first launches, inOrder_of_ok loaded]
    refine ⟨left ▸ carried.shows, fun _ => left ▸ carried.names.times, fun _ entry member => ?_⟩
    obtain ⟨call, among, firewall, here⟩ := Dispatcher.mem_stepsOfAll member
    rw [Controller.phaseCalls_eq launches loaded] at among
    obtain ⟨done, performed, called⟩ := List.mem_flatMap.mp among
    exact told done performed call called firewall entry here

-- An operation on another cluster leaves what this entry shows.
theorem SparesNames.of_elsewhere (suits : visit.Suits backend name asked) (valid : isClusterName name = true)
    (elsewhere : visit.Elsewhere backend name) (shows : backend.ShowsNames name id hosts visit.site.storage) :
    backend.ShowsNames name id hosts visit.left.storage := by
  obtain ⟨controller, operation, site⟩ := visit
  obtain rfl := suits.store
  have hooks := suits.hooks.mono fun _ _ kept => kept.name
  have same := (controller.underway operation elsewhere.orderly).others hooks elsewhere.valid valid elsewhere.apart
  obtain ⟨manifest, seen, names⟩ := shows
  exact ⟨manifest, same.trans seen, names⟩

/-- Host names of which one is saved are final. Whatever operations follow that launch and destroy
nothing, by any controllers, with whatever the providers answer and whichever requests fail: both
names stay in the manifest as they are, no operation on the cluster asks for them, and all scripts
that are run on the machine are told them. -/
theorem saved_names_are_final {storage : Storage} {visits : List (Visit σ)}
    (saved : backend.ShowsNames name id hosts storage) (known : hosts ≠ .unknown) (turns : InTurn storage visits)
    (suits : ∀ visit ∈ visits, visit.Suits backend name asked) :
    ∀ visit ∈ visits, visit.SparesNames backend name asked id hosts := by
  induction visits generalizing storage with
  | nil =>
      intro visit member
      cases member
  | cons visit rest ih =>
      obtain ⟨same, later⟩ := turns
      have here := suits visit List.mem_cons_self
      have shows := saved.of_contents same
      have spares : visit.SparesNames backend name asked id hosts := by
        by_cases own : backend.sameEntry name visit.controller.topology.clusterName = true
        · exact .of_own here own shows known
        · obtain ⟨valid, elsewhere⟩ := here.entry.resolve_left own
          have still := SparesNames.of_elsewhere here valid elsewhere shows
          exact ⟨still, fun mine => (own mine).elim, fun mine => (own mine).elim⟩
      intro other member
      rcases List.mem_cons.mp member with rfl | among
      · exact spares
      · exact ih spares.shows later (fun other among => suits other (List.mem_cons_of_mem _ among)) other among

def notedWorkers : Controller (Simulation × List String) :=
  .new (Launch.plainTopology [⟨.ofList ["worker"], 2, 50, 1⟩] 0) Simulation.provider.noting .memory SortedMap.empty

def firstNamed : Manifest :=
  let record (id : String) (publicHost : Option String) : InstanceRecord :=
    ⟨id, .ofList ["worker"], none, none, publicHost, none, .empty⟩
  ⟨"small", [record "a" (some "a.test"), record "b" none], .empty, .epoch⟩

def siteOfNamed : Site (Simulation × List String) :=
  ⟨(.new, []), { Storage.ofTree .empty with memory := SortedMap.empty.insert "small" firstNamed }, 0, .epoch⟩

def startAfter (does : PhaseEvent (Simulation × List String) → PhaseEvent (Simulation × List String)) :
    Visit (Simulation × List String) where
  controller := notedWorkers.register ⟨"worker", [], fun
    | .before, .start => fun _ event => (.ok (), does event)
    | _, _ => .nothing⟩
  operation := .start
  site := siteOfNamed

def askAgain (event : PhaseEvent (Simulation × List String)) : PhaseEvent (Simulation × List String) :=
  { event with provider := (Simulation.provider.noting.resolveHosts ⟨"a", none, none, .empty⟩ event.provider).2 }

def rename (event : PhaseEvent (Simulation × List String)) : PhaseEvent (Simulation × List String) :=
  let records := firstNamed.instances.map fun record => { record with publicHost := some "b.test" }
  { event with cluster := { firstNamed with instances := records }.toCluster }

def exportAnother (event : PhaseEvent (Simulation × List String)) : PhaseEvent (Simulation × List String) :=
  { event with queue := (event.queue.setExport "a" "PUBLIC_HOST_NAME" "b.test").add "worker" (.call "serve" []) }

def namesIn (storage : Storage) : List (String × Option String) :=
  ((storage.memory.get? "small").map fun manifest =>
    manifest.instances.map fun record => (record.id, record.publicHost)).getD []

def namesTold (visit : Visit (Simulation × List String)) : List (Option String) :=
  (visit.controller.execute visit.operation visit.site).2.deeds.filterMap fun
    | .run "a" script _ => some (script.exports.lookup "PUBLIC_HOST_NAME")
    | _ => none

-- The public name of the first worker is saved. A hook may ask for it all the same, put another one in its
-- place, or export another one.
theorem hooks_change_saved_names :
    Backend.memory.ShowsNames "small" "a" ⟨some "a.test", none⟩ siteOfNamed.storage ∧ siteOfNamed.provider.2 = [] ∧
    namesIn siteOfNamed.storage = [("a", some "a.test"), ("b", none)] ∧
    (startAfter askAgain).left.provider.2 = ["a"] ∧
    namesIn (startAfter rename).left.storage = [("a", some "b.test"), ("b", some "b.test")] ∧
    namesTold (startAfter exportAnother) = [some "b.test"] := by
  refine ⟨?_, rfl, by decide +kernel, by decide +kernel, by decide +kernel, by decide +kernel⟩
  refine ⟨firstNamed, by decide +kernel, rfl, by decide +kernel, ?_⟩
  exact ⟨_, List.mem_cons_self, rfl, rfl, rfl⟩

-- START by one controller and CONFIGURE by another: only the second worker is asked for its names.
theorem saved_names_are_final_of_two :
    let names : Hosts := ⟨some "a.test", none⟩
    let storage := { Storage.ofTree .empty with memory := SortedMap.empty.insert "small" firstNamed }
    let start : Visit (Simulation × List String) := ⟨notedWorkers, .start, ⟨(.new, []), storage, 0, .epoch⟩⟩
    let other := notedWorkers.withOptions { LaunchOptions.none with maxConcurrent := some 1 }
    let configure : Visit (Simulation × List String) := ⟨other, .configure, { start.left with now := 7 }⟩
    Backend.memory.ShowsNames "small" "a" names storage ∧ names ≠ .unknown ∧ InTurn storage [start, configure] ∧
    (∀ visit ∈ [start, configure], visit.Suits .memory "small" Prod.snd) ∧
    start.left.provider.2 = ["b"] ∧ (configure.controller.execute configure.operation configure.site).1.isOk = true ∧
    configure.SparesNames .memory "small" Prod.snd "a" names := by
  intro names storage start other configure
  have shows : Backend.memory.ShowsNames "small" "a" names storage := by
    refine ⟨firstNamed, by decide +kernel, rfl, by decide +kernel, ?_⟩
    exact ⟨_, List.mem_cons_self, rfl, rfl, rfl⟩
  have known : names ≠ .unknown := by decide
  have turns : InTurn storage [start, configure] := ⟨.refl _, .refl _, trivial⟩
  have hooks : notedWorkers.registry.Within (PhaseEvent.KeepsNames Prod.snd) :=
    Registry.withScripted_keepsNames Registry.empty_within _
  have suits : ∀ visit ∈ [start, configure], visit.Suits .memory "small" Prod.snd := by
    intro visit member
    rcases List.mem_pair.mp member with rfl | rfl
    · exact ⟨rfl, by decide, Provider.noting_notes _, hooks, .inl (by decide)⟩
    · exact ⟨rfl, by decide, Provider.noting_notes _, hooks, .inl (by decide)⟩
  refine ⟨shows, known, turns, suits, by decide +kernel, by decide +kernel, ?_⟩
  exact saved_names_are_final shows known turns suits configure (by simp)

end Visit

end Muster
