import Muster.Proofs.Launch.Run
import Muster.Proofs.Launch.Verdict
import Muster.Proofs.Store.Entries

/-!
Clusters that are kept in one store. Each has an entry of its own under its name, which no
request for another cluster reads or changes, whatever store a topology asks for and under
whichever name it is used, unless it asks for one blob that all names share.
-/

namespace Muster

def Instance.remembered (machine : Instance) : Instance :=
  { machine with hosts := machine.hosts.filter (· ≠ .unknown) }

theorem Instance.remembered_eq_self {machine : Instance} :
    machine.remembered = machine ↔ machine.hosts ≠ some .unknown := by
  obtain ⟨node, roles, _ | hosts⟩ := machine
  · simp [remembered]
  · simp [remembered, Option.filter]

theorem InstanceRecord.toInstance_ofInstance (machine : Instance) :
    (ofInstance machine).toInstance = machine.remembered := by
  obtain ⟨node, roles, _ | ⟨_ | publicName, _ | privateName⟩⟩ := machine <;> rfl

structure Cluster.Recalls (loaded saved : Cluster) : Prop where
  name : loaded.name = saved.name
  properties : loaded.properties = saved.properties
  instances : loaded.instances = saved.instances.map Instance.remembered

-- Where ids are distinct, each record is a machine of the cluster.
theorem Manifest.toCluster_instances {manifest : Manifest} (distinct : (manifest.instances.map InstanceRecord.id).Nodup) :
    manifest.toCluster.instances = manifest.instances.map InstanceRecord.toInstance := by
  refine Cluster.ofInstances_instances _ _ ?_
  rw [List.map_map]
  exact distinct

theorem Manifest.recalls (cluster : Cluster) (moment : Timestamp) :
    (Manifest.ofCluster cluster moment).toCluster.Recalls cluster := by
  have distinct : ((cluster.instances.map InstanceRecord.ofInstance).map InstanceRecord.id).Nodup := by
    rw [List.map_map]
    exact cluster.distinct
  refine ⟨Cluster.addAll_name _ _, rfl, (Manifest.toCluster_instances distinct).trans ?_⟩
  change (cluster.instances.map InstanceRecord.ofInstance).map InstanceRecord.toInstance = _
  rw [List.map_map]
  exact List.map_congr_left fun machine _ => InstanceRecord.toInstance_ofInstance machine

def Topology.SharesBlob (topology : Topology) : Prop := topology.store = .blob ∧ topology.storeBlob ≠ none

inductive ClusterCall where
  | save (cluster : Cluster) (moment : Timestamp)
  | delete (name : String)

namespace ClusterCall

def request : ClusterCall → StoreRequest
  | save cluster moment => .save cluster.name (.ofCluster cluster moment)
  | delete name => .delete name

def name (call : ClusterCall) : String := call.request.name

end ClusterCall

namespace Backend

variable {topology : Topology} {home name other : String} {hasBlobs : Bool} {backend : Backend} {storage : Storage}

theorem sameEntry_of_built (built : forTopology topology home hasBlobs = .ok backend)
    (same : backend.sameEntry name other = true) : name = other ∨ topology.SharesBlob := by
  simp only [forTopology] at built
  split at built
  · cases built
    exact .inl (of_decide_eq_true same)
  · cases built
    exact .inl (of_decide_eq_true same)
  · cases built
    cases same
  · rename_i blob
    cases named : topology.storeBlob with
    | some given => exact .inr ⟨blob, by simp [named]⟩
    | none =>
        left
        split at built
        · cases built
        · split at built
          · cases built
            simpa [sameEntry, named] using same
          · split at built
            · cases built
              simpa [sameEntry, named] using same
            · cases built

theorem sameEntry_of_shared (built : forTopology topology home hasBlobs = .ok backend) (shared : topology.SharesBlob)
    (name other : String) : backend.sameEntry name other = true := by
  obtain ⟨given, named⟩ := Option.ne_none_iff_exists'.mp shared.2
  simp only [forTopology, shared.1, named] at built
  split at built
  · cases built
  · split at built
    · cases built
      rfl
    · split at built
      · cases built
        rfl
      · cases built

/-- The store of a topology does not depend on its name. -/
theorem built_of_renamed {renamed : Topology} (built : forTopology topology home hasBlobs = .ok backend)
    (renames : topology.withClusterName other = .ok renamed) :
    isClusterName other = true ∧ forTopology renamed home hasBlobs = .ok backend := by
  simp only [Topology.withClusterName] at renames
  cases valid : Topology.validate { topology with clusterName := other } with
  | error fault =>
      rw [valid] at renames
      cases renames
  | ok =>
      rw [valid] at renames
      cases renames
      refine ⟨?_, built⟩
      simp only [Topology.validate, Topology.validateName] at valid
      by_contra invalid
      rw [if_neg invalid] at valid
      cases valid

-- What was left under a name last is the manifest of a cluster that was saved.
theorem saved_of_lastLeft {calls : List ClusterCall} {manifest : Manifest}
    (left : backend.lastLeft? name (backend.askAll (calls.map ClusterCall.request) storage).1 = some (some manifest)) :
    ∃ cluster moment, .save cluster moment ∈ calls ∧ manifest = .ofCluster cluster moment ∧
      backend.sameEntry cluster.name name = true := by
  obtain ⟨exchange, member, leaves⟩ := List.exists_of_findSome?_eq_some left
  have asked : exchange.request ∈ calls.map ClusterCall.request := by
    rw [← backend.askAll_requests (calls.map ClusterCall.request) storage]
    exact List.mem_map_of_mem (List.mem_reverse.mp member)
  obtain ⟨call, among, same⟩ := List.mem_map.mp asked
  obtain ⟨shared, leaves⟩ := left?_eq_some leaves
  rw [← same] at shared leaves
  cases call with
  | delete name => cases leaves
  | save cluster moment =>
      cases leaves
      exact ⟨cluster, moment, among, rfl, shared⟩

/-- After any saves and deletions of clusters, of which some may have failed, a cluster is loaded as
the one that was saved last under its name and not deleted since, or is what was there before. So
it has the name that it is loaded by, and a request for another cluster changes nothing of it.
Where a topology asks for one blob, all names are one. A topology that is renamed asks for the
same store. -/
theorem clusters_kept_apart (built : forTopology topology home hasBlobs = .ok backend)
    (orderly : backend.IsOrderly storage) (calls : List ClusterCall)
    (valid : ∀ call ∈ calls, isClusterName call.name = true) :
    let asked := backend.askAll (calls.map ClusterCall.request) storage
    (∀ name, isClusterName name = true → ∀ loaded left, backend.loadCluster name asked.2 = (.ok loaded, left) →
      (∃ cluster moment, .save cluster moment ∈ calls ∧
        backend.lastLeft? name asked.1 = some (some (.ofCluster cluster moment)) ∧ loaded.Recalls cluster ∧
        (loaded.name = name ∨ topology.SharesBlob)) ∨
      backend.lastLeft? name asked.1 = none ∧
        ∃ manifest, backend.look name storage = .ok manifest ∧ loaded = manifest.toCluster) ∧
    (∀ call : ClusterCall, isClusterName call.name = true → ∀ name, isClusterName name = true → name ≠ call.name →
      ¬ topology.SharesBlob →
      backend.look name (backend.ask call.request asked.2).2 = backend.look name asked.2) ∧
    (topology.SharesBlob → ∀ cluster moment saved, isClusterName cluster.name = true →
      backend.saveCluster cluster moment asked.2 = (.ok (), saved) →
      ∀ name, isClusterName name = true → backend.look name saved = .ok (.ofCluster cluster moment)) ∧
    ∀ other renamed, topology.withClusterName other = .ok renamed →
      isClusterName other = true ∧ forTopology renamed home hasBlobs = .ok backend := by
  intro asked
  have validRequests : ∀ request ∈ calls.map ClusterCall.request, isClusterName request.name = true := by
    intro request member
    obtain ⟨call, among, rfl⟩ := List.mem_map.mp member
    exact valid call among
  refine ⟨?_, ?_, ?_, fun other renamed => built_of_renamed built⟩
  · intro name validName loaded left loads
    have seen : ∃ manifest, backend.look name asked.2 = .ok manifest ∧ loaded = manifest.toCluster := by
      simp only [loadCluster, Prod.mk.injEq] at loads
      cases answer : (backend.load name asked.2).1 with
      | error error =>
          rw [answer] at loads
          cases loads.1
      | ok manifest =>
          rw [answer] at loads
          cases loads.1
          exact ⟨manifest, look_eq_ok.mpr (stores_of_load answer), rfl⟩
    obtain ⟨manifest, seen, rfl⟩ := seen
    have shown := look_askAll orderly validRequests validName
    rw [show backend.look name (backend.askAll (calls.map ClusterCall.request) storage).2 = .ok manifest from seen]
      at shown
    cases last : backend.lastLeft? name (backend.askAll (calls.map ClusterCall.request) storage).1 with
    | none =>
        rw [last] at shown
        exact .inr ⟨rfl, manifest, shown.symm, rfl⟩
    | some stored =>
        rw [last] at shown
        cases stored with
        | none => cases shown
        | some stored =>
            cases shown
            obtain ⟨cluster, moment, among, rfl, shared⟩ := saved_of_lastLeft last
            have recalls := Manifest.recalls cluster moment
            refine .inl ⟨cluster, moment, among, rfl, recalls, ?_⟩
            rcases sameEntry_of_built built shared with same | shares
            · exact .inl (recalls.name.trans same)
            · exact .inr shares
  · intro call validCall name validName different apart
    refine look_ask_apart (askAll_orderly orderly validRequests) validCall validName ?_
    by_contra shared
    rw [Bool.not_eq_false] at shared
    rcases sameEntry_of_built built shared with same | shares
    · exact different same.symm
    · exact apart shares
  · intro shares cluster moment saved validCluster saves name validName
    have shown := look_save (askAll_orderly orderly validRequests) validCluster validName (.ofCluster cluster moment)
    rw [saveCluster] at saves
    simpa only [asked, saves, sameEntry_of_shared built shares, if_true] using shown

def blobTopology (given : Option String) : Topology :=
  { Launch.plainTopology [⟨.ofList ["worker"], 1, 100, 1⟩] 0 with
    store := .blob, storeContainer := some "states", storeBlob := given }

-- A blob that is named, and a home directory that is reached through the room of a cluster: what is
-- done for one cluster replaces another, or takes it away.
theorem clusters_share_blob :
    let small := Cluster.new "small"
    let big := Cluster.new "big"
    let topology := blobTopology (some "prod")
    let named := Backend.blob .provider "states" (some "prod")
    let home := Backend.files "x/small/.."
    let both := (home.saveCluster big .epoch (home.saveCluster small .epoch (.ofTree .empty)).2).2
    topology.validate = .ok () ∧ forTopology topology "state" true = .ok named ∧
    (topology.withClusterName "big").map Topology.clusterName = .ok "big" ∧
    (named.loadCluster "big" (named.saveCluster small .epoch (.ofTree .empty)).2).1.map Cluster.name = .ok "small" ∧
    (home.loadCluster "big" both).1.map Cluster.name = .ok "big" ∧
    (home.loadCluster "big" (home.delete "small" both).2).1.map Cluster.name = .error (.notFound "big") := by
  decide +kernel

-- Two clusters under blobs of their own, of which one is deleted.
theorem clusters_kept_apart_of_two :
    let small := Cluster.new "small"
    let big := Cluster.new "big"
    let backend := Backend.blob .provider "states" none
    let calls : List ClusterCall := [.save small .epoch, .save big .epoch, .delete "small"]
    let asked := backend.askAll (calls.map ClusterCall.request) (.ofTree .empty)
    forTopology (blobTopology none) "state" true = .ok backend ∧ backend.IsOrderly (.ofTree .empty) ∧
    (∀ call ∈ calls, isClusterName call.name = true) ∧
    ∃ loaded left, backend.loadCluster "big" asked.2 = (.ok loaded, left) ∧ loaded.name = "big" := by
  intro small big backend calls asked
  have built : forTopology (blobTopology none) "state" true = .ok backend := rfl
  have valid : ∀ call ∈ calls, isClusterName call.name = true := by
    simp [calls, ClusterCall.name, ClusterCall.request, StoreRequest.name, isClusterName, small, big, Cluster.new]
  have orderly : backend.IsOrderly (.ofTree .empty) := trivial
  refine ⟨built, orderly, valid, ?_⟩
  obtain ⟨keeps, _⟩ := clusters_kept_apart built orderly calls valid
  have there : (backend.loadCluster "big" asked.2).1.isOk = true := by decide +kernel
  have nothing : (backend.look "big" (.ofTree .empty)).isOk = false := by decide +kernel
  rcases loads : backend.loadCluster "big" asked.2 with ⟨error | loaded, left⟩
  · rw [loads] at there
    cases there
  · refine ⟨loaded, left, rfl, ?_⟩
    rcases keeps "big" (by decide) loaded left loads with ⟨cluster, moment, _, _, _, named⟩ | ⟨_, manifest, seen, _⟩
    · rcases named with same | shares
      · exact same
      · exact (shares.2 rfl).elim
    · rw [seen] at nothing
      cases nothing

end Backend

end Muster
