import Muster.Proofs.Lifecycle.Leaving
import Muster.Proofs.Store.Clusters
import Muster.Proofs.Store.Records

/-!
Phases of a cluster that was saved and loaded. Nothing that a phase reads of a cluster is lost
in the text of its manifest, save for one thing: that a machine was asked for its host names
and has none. Such a machine is asked again.
-/

namespace Muster

variable {σ : Type}

namespace Cluster

/-- Each machine that was asked for its host names has one of them. -/
def IsNamed (cluster : Cluster) : Prop := ∀ machine ∈ cluster.instances, machine.hosts ≠ some .unknown

instance (cluster : Cluster) : Decidable cluster.IsNamed :=
  inferInstanceAs (Decidable (∀ machine ∈ cluster.instances, machine.hosts ≠ some .unknown))

def reload (cluster : Cluster) (moment : Timestamp) : Except StoreError Cluster :=
  (Manifest.decode cluster.name (Manifest.ofCluster cluster moment).encode).map Manifest.toCluster

theorem reload_recalls (cluster : Cluster) (moment : Timestamp) :
    ∃ reloaded, cluster.reload moment = .ok reloaded ∧ reloaded.Recalls cluster := by
  refine ⟨_, ?_, Manifest.recalls cluster moment⟩
  rw [reload, Manifest.decode_encode]
  rfl

theorem eq_of_parts {cluster other : Cluster} (name : other.name = cluster.name)
    (instances : other.instances = cluster.instances) (properties : other.properties = cluster.properties) :
    other = cluster := by
  cases cluster
  cases other
  cases name
  cases instances
  cases properties
  rfl

/-- What is recalled of a cluster is all of it if and only if no machine was asked in vain. -/
theorem Recalls.eq_iff {loaded saved : Cluster} (recalls : loaded.Recalls saved) : loaded = saved ↔ saved.IsNamed := by
  have same : loaded = saved ↔ saved.instances.map Instance.remembered = saved.instances := by
    constructor
    · rintro rfl
      exact recalls.instances.symm
    · intro all
      exact eq_of_parts recalls.name (recalls.instances.trans all) recalls.properties
  rw [same]
  constructor
  · intro all machine member
    have here := List.map_inj_left.mp (all.trans (List.map_id _).symm) machine member
    exact Instance.remembered_eq_self.mp here
  · intro named
    refine (List.map_congr_left fun machine member => ?_).trans (List.map_id _)
    exact Instance.remembered_eq_self.mpr (named machine member)

end Cluster

/-- Phases that cannot be told apart by what they did, which is every hook that was called, every
target that was authorized, every script that was run and every id that was destroyed, in order and
with how each ended; nor by what they answered and left. -/
structure PhaseOutcome.Alike (first second : PhaseOutcome σ) : Prop where
  deeds : second.deeds = first.deeds
  result : second.result = first.result
  provider : second.state = first.state
  manifests : ∀ moment, Manifest.ofCluster second.cluster moment = Manifest.ofCluster first.cluster moment

namespace Dispatcher

/-- A cluster whose manifest is written as text and read runs through every phase as the cluster
itself, unless one of its machines was asked for host names and has none. -/
theorem reloaded_clusters_run_alike (cluster : Cluster) (named : cluster.IsNamed) (moment : Timestamp) :
    ∃ reloaded, cluster.reload moment = .ok reloaded ∧
      ∀ (provider : Provider σ) (registry : Registry σ) (options : LaunchOptions) (topology : Topology) (phase : Phase)
        (now : Nat) (state : σ), let dispatcher := new provider registry topology options
        (dispatcher.run phase topology cluster now state).Alike (dispatcher.run phase topology reloaded now state) := by
  obtain ⟨reloaded, reloads, recalls⟩ := cluster.reload_recalls moment
  refine ⟨reloaded, reloads, ?_⟩
  intro provider registry options topology phase now state dispatcher
  have same : reloaded = cluster := recalls.eq_iff.mpr named
  subst same
  exact ⟨rfl, rfl, rfl, fun _ => rfl⟩

def workersAsked (hosts : Hosts) : Cluster :=
  let machine (id : String) (hosts : Option Hosts) : Instance := ⟨⟨id, none, none, .empty⟩, .ofList ["worker"], hosts⟩
  .ofInstances "small" [machine "a" (some hosts), machine "b" none]

def asksInStart (cluster : Cluster) : Nat :=
  (workers.run .start (Launch.plainTopology [⟨.ofList ["worker"], 2, 50, 1⟩] 0) cluster 0 .new).state.resolveCalls

-- Only the second worker is asked, before the cluster is saved and after it was loaded.
theorem reloaded_workers_run_alike :
    let topology := Launch.plainTopology [⟨.ofList ["worker"], 2, 50, 1⟩] 0
    let cluster := workersAsked ⟨some "a.test", none⟩
    let run (cluster : Cluster) := workers.run .start topology cluster 0 .new
    cluster.IsNamed ∧ asksInStart cluster = 1 ∧ (run cluster).deeds.length = 4 ∧
    ∃ reloaded, cluster.reload .epoch = .ok reloaded ∧ (run cluster).Alike (run reloaded) := by
  intro topology cluster run
  have named : cluster.IsNamed := by decide +kernel
  obtain ⟨reloaded, reloads, alike⟩ := reloaded_clusters_run_alike (σ := Simulation) cluster named .epoch
  exact ⟨named, by decide +kernel, by decide +kernel, reloaded, reloads, alike _ _ _ topology .start 0 .new⟩

-- A worker that has no host names is asked again once the cluster was loaded.
example : asksInStart (workersAsked .unknown) = 1 ∧
    asksInStart (Manifest.ofCluster (workersAsked .unknown) .epoch).toCluster = 2 := by
  decide +kernel

end Dispatcher

end Muster
