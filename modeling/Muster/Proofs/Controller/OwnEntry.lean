import Muster.Proofs.Controller.Forgetting
import Muster.Proofs.Store.Entries

/-!
Which entry of the store an operation writes to. It is looked up under the name that the
topology has for the cluster, but saved and deleted under the name that the cluster has, which
is the one that the stored manifest carries. Only where the two are the same is the entry that
is written the one that was read.
-/

namespace Muster

variable {σ : Type}

def Operation.work (operation : Operation) : List ControlStep := operation.steps.filter (· ≠ .load)

def Operation.leaves? (operation : Operation) (cluster : Cluster) (moment : Timestamp) : Option (Option Manifest) :=
  match operation with
  | .launch | .configure | .start | .stop => some (some (.ofCluster cluster moment))
  | .destroy => some none
  | .list => none

namespace Controller

def storeRequest? (controller : Controller σ) (progress : Progress σ) : ControlStep → Option StoreRequest
  | .load => some (.load controller.topology.clusterName)
  | .run _ => none
  | .save => some (.save progress.cluster.name (.ofCluster progress.cluster progress.site.moment))
  | .delete => some (.delete progress.cluster.name)

/-- What the cluster of an operation is called: when it is launched as the topology has it, and
otherwise as the manifest has it that is found there. -/
def calledIn (controller : Controller σ) (operation : Operation) (site : Site σ) : String :=
  match controller.backend.look controller.topology.clusterName site.storage with
  | .ok manifest => if operation = .launch then controller.topology.clusterName else manifest.clusterName
  | .error _ => controller.topology.clusterName

/-- The cluster is called so, and under names that do not share its entry the store shows what it
did at first. -/
structure KeepsTo (controller : Controller σ) (called : String) (first : Site σ) (progress : Progress σ) :
    Prop where
  name : progress.cluster.name = called
  moment : progress.site.moment = first.moment
  orderly : controller.backend.IsOrderly progress.site.storage
  others : ∀ other, isClusterName other = true → controller.backend.sameEntry called other = false →
    controller.backend.look other progress.site.storage = controller.backend.look other first.storage

variable {controller : Controller σ} {operation : Operation} {site first : Site σ} {progress : Progress σ}
  {step : ControlStep} {steps : List ControlStep} {called : String}

/-! ### Steps -/

theorem granted_of_ok {answer : Except StoreError Unit} (succeeds : answer.mapError Error.store = .ok ()) :
    ∃ manifest : Option Manifest, (answer.map fun () => none) = .ok manifest := by
  cases answer with
  | ok => exact ⟨none, rfl⟩
  | error error => cases succeeds

/-- A step changes the store as its request does, and succeeds only if that is granted. -/
theorem perform_asks {request : StoreRequest} (asks : controller.storeRequest? progress step = some request) :
    (controller.perform step progress).2.site.storage =
        (controller.backend.ask request progress.site.storage).2 ∧
      ((controller.perform step progress).1 = .ok () →
        ∃ answer, (controller.backend.ask request progress.site.storage).1 = .ok answer) := by
  cases step with
  | load =>
      cases asks
      simp only [perform, load, Backend.loadCluster, Backend.ask]
      cases (controller.backend.load controller.topology.clusterName progress.site.storage).1 with
      | ok manifest => exact ⟨rfl, fun _ => ⟨some manifest, rfl⟩⟩
      | error error =>
          refine ⟨rfl, fun succeeds => ?_⟩
          cases succeeds
  | run => cases asks
  | save | delete =>
      cases asks
      exact ⟨rfl, granted_of_ok⟩

theorem perform_silent (silent : controller.storeRequest? progress step = none) :
    (controller.perform step progress).2.site.storage = progress.site.storage := by
  cases step with
  | run => rfl
  | load | save | delete => cases silent

theorem storeRequest?_name {request : StoreRequest} (work : step ≠ .load)
    (asks : controller.storeRequest? progress step = some request) : request.name = progress.cluster.name := by
  cases step with
  | load => exact (work rfl).elim
  | run => cases asks
  | save | delete => cases asks; rfl

theorem perform_moment (controller : Controller σ) (step : ControlStep) (progress : Progress σ) :
    (controller.perform step progress).2.site.moment = progress.site.moment := by
  cases step with
  | load => simp only [perform, load]; split <;> rfl
  | run | save | delete => rfl

theorem KeepsTo.performs (hooks : controller.registry.Within PhaseEvent.SameName)
    (valid : isClusterName called = true) (work : step ≠ .load)
    (launches : step = .run .bootstrap → called = controller.topology.clusterName)
    (keeps : controller.KeepsTo called first progress) :
    controller.KeepsTo called first (controller.perform step progress).2 := by
  have name : (controller.perform step progress).2.cluster.name = called := by
    cases step with
    | load => exact (work rfl).elim
    | run phase => exact Dispatcher.run_name hooks (fun bootstrap => launches (bootstrap ▸ rfl)) keeps.name
    | save | delete => exact keeps.name
  have moment := (controller.perform_moment step progress).trans keeps.moment
  cases asks : controller.storeRequest? progress step with
  | none =>
      have storage := perform_silent asks
      exact ⟨name, moment, storage ▸ keeps.orderly, storage ▸ keeps.others⟩
  | some request =>
      have storage := (perform_asks asks).1
      have own : request.name = called := (storeRequest?_name work asks).trans keeps.name
      rw [← own] at valid
      refine ⟨name, moment, storage ▸ Backend.ask_orderly keeps.orderly valid, ?_⟩
      intro other validOther apart
      rw [storage, Backend.look_ask_apart keeps.orderly valid validOther (own ▸ apart)]
      exact keeps.others other validOther apart

/-! ### Operations -/

theorem KeepsTo.works (hooks : controller.registry.Within PhaseEvent.SameName) (valid : isClusterName called = true)
    (work : ∀ step ∈ steps, step ≠ .load)
    (launches : .run .bootstrap ∈ steps → called = controller.topology.clusterName)
    (keeps : controller.KeepsTo called first progress) :
    controller.KeepsTo called first (inOrder controller.perform steps progress).2 := by
  refine inOrder_keeps (controller.KeepsTo called first) ?_ keeps
  intro step member found kept
  exact kept.performs hooks valid (work step member) fun bootstrap => launches (bootstrap ▸ member)

-- How an operation can go: it does not find its cluster, or works on the one it has found.
inductive Underway (controller : Controller σ) (operation : Operation) (site : Site σ) :
    Except Error Unit × Progress σ → Prop where
  | notLoaded {error : Error} {found : Progress σ} (same : site.storage.SameContents found.site.storage) :
      Underway controller operation site (.error error, found)
  | works {found : Progress σ} (keeps : controller.KeepsTo (controller.calledIn operation site) site found)
      (loaded : operation ≠ .launch →
        ∃ manifest, controller.backend.look controller.topology.clusterName site.storage = .ok manifest) :
      Underway controller operation site (inOrder controller.perform operation.work found)

theorem calledIn_launch (controller : Controller σ) (site : Site σ) :
    controller.calledIn .launch site = controller.topology.clusterName := by
  rw [calledIn]
  split <;> rfl

theorem underway (controller : Controller σ) (operation : Operation)
    (orderly : controller.backend.IsOrderly site.storage) :
    controller.Underway operation site (inOrder controller.perform operation.steps (controller.begin site)) := by
  by_cases launch : operation = .launch
  · subst launch
    have named : (controller.begin site).cluster.name = controller.calledIn .launch site :=
      (controller.calledIn_launch site).symm
    exact .works ⟨named, rfl, orderly, fun _ _ _ => rfl⟩ fun other => (other rfl).elim
  · have steps : operation.steps = .load :: operation.work := by
      cases operation with
      | launch => exact (launch rfl).elim
      | configure | start | stop | destroy | list => rfl
    have looked := controller.load_contents (controller.begin site)
    rw [steps]
    rcases loaded : controller.perform .load (controller.begin site) with ⟨error | ⟨⟩, found⟩
    · rw [inOrder_of_error loaded]
      rw [show controller.load _ = _ from loaded] at looked
      exact .notLoaded looked
    · rw [inOrder_of_ok loaded]
      rw [show controller.load _ = _ from loaded] at looked
      obtain ⟨manifest, storage, stores, rfl⟩ := load_ok loaded
      have seen : controller.backend.look controller.topology.clusterName site.storage = .ok manifest :=
        Backend.look_eq_ok.mpr stores
      have named : manifest.toCluster.name = controller.calledIn operation site := by
        rw [calledIn, seen]
        simp only [launch, if_false]
        exact manifest.toCluster_name
      refine .works ⟨named, rfl, orderly.of_contents looked, ?_⟩ fun _ => ⟨manifest, seen⟩
      intro other _ _
      exact Backend.look_of_contents looked other

theorem calledIn_of_bootstrap (launches : .run .bootstrap ∈ operation.work) :
    controller.calledIn operation site = controller.topology.clusterName := by
  cases operation with
  | launch => exact controller.calledIn_launch site
  | configure | start | stop | destroy | list => simp [Operation.work, Operation.steps] at launches

theorem work_loads_nothing : ∀ step ∈ operation.work, step ≠ .load := by
  intro step member
  exact of_decide_eq_true (List.mem_filter.mp member).2

-- An operation that writes ends with the request that leaves something behind.
theorem work_ends (controller : Controller σ) (writes : operation ≠ .list) :
    ∃ earlier last, operation.work = earlier ++ [last] ∧ ∀ progress : Progress σ,
      (controller.perform last progress).2.cluster = progress.cluster ∧
      ∃ request, controller.storeRequest? progress last = some request ∧
        request.leaves? = operation.leaves? progress.cluster progress.site.moment := by
  cases operation with
  | list => exact (writes rfl).elim
  | launch =>
      exact ⟨[.run .bootstrap, .save, .run .configure, .save, .run .start], .save, rfl, fun _ => ⟨rfl, _, rfl, rfl⟩⟩
  | configure => exact ⟨[.run .configure], .save, rfl, fun _ => ⟨rfl, _, rfl, rfl⟩⟩
  | start => exact ⟨[.run .start], .save, rfl, fun _ => ⟨rfl, _, rfl, rfl⟩⟩
  | stop => exact ⟨[.run .stop], .save, rfl, fun _ => ⟨rfl, _, rfl, rfl⟩⟩
  | destroy => exact ⟨[.run .cleanup], .delete, rfl, fun _ => ⟨rfl, _, rfl, rfl⟩⟩

/-- Work that succeeds leaves in the entry of its cluster what its last request leaves there. -/
theorem KeepsTo.leaves (hooks : controller.registry.Within PhaseEvent.SameName) (valid : isClusterName called = true)
    (launches : .run .bootstrap ∈ operation.work → called = controller.topology.clusterName)
    (keeps : controller.KeepsTo called first progress) {ended : Progress σ}
    (succeeds : inOrder controller.perform operation.work progress = (.ok (), ended)) {name : String}
    (validName : isClusterName name = true) (own : controller.backend.sameEntry called name = true)
    {left : Option Manifest} (leaves : operation.leaves? ended.cluster first.moment = some left) :
    controller.backend.look name ended.site.storage = Backend.found name left := by
  have writes : operation ≠ .list := by
    rintro rfl
    cases leaves
  obtain ⟨earlier, last, work, ends⟩ := work_ends controller writes
  rw [work] at launches
  rw [work, inOrder_append] at succeeds
  have kept : controller.KeepsTo called first (inOrder controller.perform earlier progress).2 := by
    refine keeps.works hooks valid ?_ fun bootstrap => launches (List.mem_append_left _ bootstrap)
    intro step member
    exact work_loads_nothing step (work ▸ List.mem_append_left _ member)
  generalize inOrder controller.perform earlier progress = outcome at kept succeeds
  rcases outcome with ⟨error | ⟨⟩, between⟩
  · cases succeeds
  · obtain ⟨after, done, rest⟩ := inOrder_cons_ok succeeds
    cases rest
    obtain ⟨cluster, request, asks, asked⟩ := ends between
    obtain ⟨storage, granted⟩ := perform_asks asks
    have named : request.name = called := by
      refine (storeRequest?_name ?_ asks).trans kept.name
      exact work_loads_nothing last (work ▸ List.mem_append_right _ List.mem_cons_self)
    rw [done] at cluster storage granted
    obtain ⟨answer, granted⟩ := granted rfl
    dsimp only at cluster storage
    have shown := Backend.look_ask kept.orderly (named ▸ valid) validName
    rw [granted, Backend.left?_of_ok, named, if_pos own, asked, kept.moment, ← cluster, leaves] at shown
    rw [storage]
    exact shown

theorem Underway.others {outcome : Except Error Unit × Progress σ}
    (underway : controller.Underway operation site outcome) (hooks : controller.registry.Within PhaseEvent.SameName)
    (valid : isClusterName (controller.calledIn operation site) = true) {other : String}
    (validOther : isClusterName other = true)
    (apart : controller.backend.sameEntry (controller.calledIn operation site) other = false) :
    controller.backend.look other outcome.2.site.storage = controller.backend.look other site.storage := by
  cases underway with
  | notLoaded same => exact Backend.look_of_contents same other
  | works keeps =>
      exact (keeps.works hooks valid work_loads_nothing calledIn_of_bootstrap).others other validOther apart

-- What is known of an operation that has succeeded.
structure Done (controller : Controller σ) (operation : Operation) (site : Site σ) (ended : Progress σ) : Prop where
  name : ended.cluster.name = controller.calledIn operation site
  loaded : operation ≠ .launch →
    ∃ manifest, controller.backend.look controller.topology.clusterName site.storage = .ok manifest
  leaves : ∀ left, operation.leaves? ended.cluster site.moment = some left →
    ∀ other, isClusterName other = true →
      controller.backend.sameEntry (controller.calledIn operation site) other = true →
      controller.backend.look other ended.site.storage = Backend.found other left

theorem Underway.done {outcome : Except Error Unit × Progress σ}
    (underway : controller.Underway operation site outcome) (hooks : controller.registry.Within PhaseEvent.SameName)
    (valid : isClusterName (controller.calledIn operation site) = true) {ended : Progress σ}
    (succeeds : outcome = (.ok (), ended)) : controller.Done operation site ended := by
  cases underway with
  | notLoaded => cases succeeds
  | works keeps loaded =>
      have kept := keeps.works hooks valid work_loads_nothing calledIn_of_bootstrap
      rw [succeeds] at kept
      refine ⟨kept.name, loaded, ?_⟩
      intro left leaves other validOther own
      exact keeps.leaves hooks valid calledIn_of_bootstrap succeeds validOther own leaves

theorem calledIn_of_named (named : ∀ manifest,
    controller.backend.look controller.topology.clusterName site.storage = .ok manifest →
      manifest.clusterName = controller.topology.clusterName) :
    controller.calledIn operation site = controller.topology.clusterName := by
  rw [calledIn]
  split
  · rename_i manifest seen
    rw [named manifest seen, ite_self]
  · rfl

variable (controller operation site)

/-- Whatever comes of an operation, the store shows what it did before under every name that does
not share the entry of what its cluster is called, which is what the stored manifest calls it. When
it succeeds, the cluster that it returns can be loaded from that entry, or nothing any more if it
was destroyed. This is the entry that was looked up if the manifest was stored under its own name. -/
theorem operations_keep_to_one_entry (hooks : controller.registry.Within PhaseEvent.SameName)
    (orderly : controller.backend.IsOrderly site.storage)
    (valid : isClusterName (controller.calledIn operation site) = true) :
    let name := controller.topology.clusterName
    let called := controller.calledIn operation site
    let result := (controller.execute operation site).1
    let shows (other : String) := controller.backend.look other (controller.execute operation site).2.site.storage
    (∀ other, isClusterName other = true → controller.backend.sameEntry called other = false →
      shows other = controller.backend.look other site.storage) ∧
    (∀ cluster, result = .ok cluster → cluster.name = called ∧
      ∀ left, operation.leaves? cluster site.moment = some left →
        ∀ other, isClusterName other = true → controller.backend.sameEntry called other = true →
          shows other = Backend.found other left) ∧
    ((∀ manifest, controller.backend.look name site.storage = .ok manifest → manifest.clusterName = name) →
      called = name ∧
      ∀ cluster, result = .ok cluster → operation ≠ .launch →
        ∀ left, operation.leaves? cluster site.moment = some left → shows name = Backend.found name left) := by
  intro name called
  have underway := controller.underway operation orderly
  rcases ran : inOrder controller.perform operation.steps (controller.begin site) with ⟨outcome, ended⟩
  rw [ran] at underway
  rw [execute_eq ran]
  have done {cluster : Cluster} (succeeds : outcome.map (fun () => ended.cluster) = .ok cluster) :
      controller.Done operation site ended ∧ cluster = ended.cluster := by
    cases outcome with
    | error error => cases succeeds
    | ok =>
        cases succeeds
        exact ⟨underway.done hooks valid rfl, rfl⟩
  refine ⟨?_, ?_, ?_⟩
  · intro other validOther apart
    exact underway.others hooks valid validOther apart
  · intro cluster succeeds
    obtain ⟨done, rfl⟩ := done succeeds
    exact ⟨done.name, done.leaves⟩
  · intro named
    have same : called = name := calledIn_of_named named
    refine ⟨same, ?_⟩
    intro cluster succeeds loads left leaves
    obtain ⟨done, rfl⟩ := done succeeds
    obtain ⟨manifest, seen⟩ := done.loaded loads
    refine done.leaves left leaves name (same ▸ valid) ?_
    rw [show controller.calledIn operation site = name from same]
    exact Backend.sameEntry_of_look seen

def siteOfBoth (called : String) : Site Rehearsal :=
  let manifest : Manifest := { twoWorkers with clusterName := called }
  { siteOfTwo with
    storage := { Storage.ofTree .empty with memory := .ofList [("big", manifest), ("small", manifest)] } }

-- A manifest with another name is stored under the name of a cluster. To destroy the cluster deletes
-- the entry of the other name, and to configure it writes there; the entry of the cluster stays.
theorem operations_take_other_entry :
    let controller := workers (Rehearsal.handler "worker" [] fun _ _ => [])
    let site := siteOfBoth "big"
    let moment : Timestamp := ⟨⟨2001, 1, 1⟩, ⟨0, 0, 0, 0⟩, by decide, by decide⟩
    let destroyed := controller.execute .destroy site
    let configured := controller.execute .configure { site with moment }
    let shows (name : String) (progress : Progress Rehearsal) :=
      (controller.backend.look name progress.site.storage).map Manifest.savedAt
    controller.topology.clusterName = "small" ∧
    destroyed.1.isOk = true ∧ shows "small" destroyed.2 = .ok .epoch ∧
    shows "big" destroyed.2 = .error (.notFound "big") ∧
    configured.1.isOk = true ∧ shows "small" configured.2 = .ok .epoch ∧ shows "big" configured.2 = .ok moment := by
  decide +kernel

-- The cluster is destroyed under the name that its manifest has, and configured under its own.
theorem operations_keep_to_one_entry_of_both :
    let controller := workers (Rehearsal.handler "worker" [] fun _ _ => [])
    let other := siteOfBoth "big"
    let own := siteOfBoth "small"
    let shows (name : String) (storage : Storage) := controller.backend.look name storage
    controller.registry.Within PhaseEvent.SameName ∧ controller.backend.IsOrderly other.storage ∧
    isClusterName (controller.calledIn .destroy other) = true ∧
    shows "small" (controller.execute .destroy other).2.site.storage = shows "small" other.storage ∧
    shows "big" (controller.execute .destroy other).2.site.storage = .error (.notFound "big") ∧
    ∃ cluster, (controller.execute .configure own).1 = .ok cluster ∧
      shows "small" (controller.execute .configure own).2.site.storage = .ok (.ofCluster cluster .epoch) ∧
      shows "big" (controller.execute .configure own).2.site.storage = shows "big" own.storage := by
  intro controller other own shows
  have spares : controller.registry.Spares Rehearsal.simulation :=
    Registry.withScripted_spares (Registry.register_spares Registry.empty_spares
      (Rehearsal.handler_spares _ _ _)) _
  have hooks : controller.registry.Within PhaseEvent.SameName :=
    (Registry.spares_iff_within.mp spares).mono fun _ _ spared => spared.name
  have destroys : (controller.execute .destroy other).1.isOk = true := by decide +kernel
  have configures : (controller.execute .configure own).1.isOk = true := by decide +kernel
  have called : controller.calledIn .destroy other = "big" := by decide +kernel
  have still : controller.calledIn .configure own = "small" := by decide +kernel
  have valid : isClusterName (controller.calledIn .destroy other) = true := called ▸ by decide
  obtain ⟨spared, taken, _⟩ := operations_keep_to_one_entry controller .destroy other hooks trivial valid
  obtain ⟨apart, left, _⟩ := operations_keep_to_one_entry controller .configure own hooks trivial (still ▸ by decide)
  refine ⟨hooks, trivial, valid, spared "small" (by decide) (called ▸ by decide), ?_, ?_⟩
  · cases done : (controller.execute .destroy other).1 with
    | error error =>
        rw [done] at destroys
        cases destroys
    | ok cluster => exact (taken cluster done).2 none rfl "big" (by decide) (called ▸ by decide)
  · cases done : (controller.execute .configure own).1 with
    | error error =>
        rw [done] at configures
        cases configures
    | ok cluster =>
        refine ⟨cluster, rfl, ?_, apart "big" (by decide) (still ▸ by decide)⟩
        exact (left cluster done).2 _ rfl "small" (by decide) (still ▸ by decide)

end Controller

end Muster
