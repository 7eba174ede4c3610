import Muster.Proofs.Cluster
import Muster.Proofs.Controller.Remembers
import Muster.Proofs.Store.Clusters

/-!
A cluster and its manifest are turned into each other. The manifest of a cluster that a manifest
describes is that manifest, but for records that repeat an id. The cluster of a manifest that
was taken of a cluster is that cluster, but for host names of which none is known.
-/

namespace Muster

namespace InstanceRecord

theorem ofInstance_toInstance (record : InstanceRecord) : ofInstance record.toInstance = record := by
  obtain ⟨id, roles, publicIp, privateIp, _ | publicHost, _ | privateHost, metadata⟩ := record <;> rfl

def sameId (record other : InstanceRecord) : Bool := record.id = other.id

def firsts (records : List InstanceRecord) : List InstanceRecord := records.eraseDupsBy sameId

theorem firsts_cons (record : InstanceRecord) (rest : List InstanceRecord) :
    firsts (record :: rest) = record :: firsts (rest.filter fun later => later.id ≠ record.id) :=
  eraseDupsBy_key_cons id record rest

theorem firsts_of_distinct {records : List InstanceRecord} (distinct : (records.map id).Nodup) :
    firsts records = records := by
  induction records with
  | nil => rfl
  | cons record rest ih =>
      rw [List.map_cons, List.nodup_cons] at distinct
      have others : (rest.filter fun later => later.id ≠ record.id) = rest := by
        apply List.filter_eq_self.mpr
        intro later member
        apply decide_eq_true
        rintro same
        exact distinct.1 (List.mem_map.mpr ⟨later, member, same⟩)
      rw [firsts_cons, others, ih distinct.2]

end InstanceRecord

namespace Cluster

open InstanceRecord (toInstance ofInstance)

-- Records repeat one another as their machines do.
theorem addAll_records (cluster : Cluster) (records : List InstanceRecord) :
    (cluster.addAll (records.map toInstance)).instances.map ofInstance =
      cluster.instances.map ofInstance ++ InstanceRecord.firsts (records.filter fun record => record.id ∉ cluster.ids) := by
  have machines : Cluster.firsts ((records.map toInstance).filter fun machine => machine.id ∉ cluster.ids) =
      (InstanceRecord.firsts (records.filter fun record => record.id ∉ cluster.ids)).map toInstance := by
    rw [List.filter_map]
    exact eraseDupsBy_map toInstance Instance.sameMachine _
  have back : ofInstance ∘ toInstance = id := funext InstanceRecord.ofInstance_toInstance
  rw [addAll_firsts, machines, List.map_append, List.map_map, back, List.map_id]

end Cluster

namespace Manifest

theorem ofCluster_toCluster (manifest : Manifest) (moment : Timestamp) :
    ofCluster manifest.toCluster moment =
      { manifest with instances := InstanceRecord.firsts manifest.instances, savedAt := moment } := by
  have name : manifest.toCluster.name = manifest.clusterName := Cluster.addAll_name _ _
  have records : manifest.toCluster.instances.map InstanceRecord.ofInstance =
      InstanceRecord.firsts manifest.instances := by
    change (Cluster.addAll _ _).instances.map InstanceRecord.ofInstance = _
    rw [Cluster.addAll_records]
    simp [Cluster.new, Cluster.ids]
  rw [ofCluster, name, records]
  rfl

theorem ofCluster_toCluster_of_distinct {manifest : Manifest} (distinct : manifest.ids.Nodup) (moment : Timestamp) :
    ofCluster manifest.toCluster moment = { manifest with savedAt := moment } := by
  rw [ofCluster_toCluster, InstanceRecord.firsts_of_distinct distinct]

/-- A manifest is the manifest of the cluster that it describes, but for the moment of saving and
for each record with an id that an earlier record has; so it is so in full if and only if no two of its
records have one id. A cluster is the one that its manifest describes, machine by machine, but
that host names of which none is known are not kept. -/
theorem conversions_keep_all :
    (∀ (manifest : Manifest) moment, ofCluster manifest.toCluster moment =
      { manifest with instances := manifest.instances.eraseDupsBy InstanceRecord.sameId, savedAt := moment }) ∧
    (∀ (manifest : Manifest) moment, ofCluster manifest.toCluster moment = { manifest with savedAt := moment } ↔
      manifest.ids.Nodup) ∧
    ∀ (cluster : Cluster) moment, let restored := (ofCluster cluster moment).toCluster
      restored.name = cluster.name ∧ restored.properties = cluster.properties ∧
      List.Forall₂ (fun machine restored => restored.node = machine.node ∧ restored.roles = machine.roles ∧
          restored.hosts = if machine.hosts = some .unknown then none else machine.hosts)
        cluster.instances restored.instances := by
  refine ⟨ofCluster_toCluster, ?_, ?_⟩
  · intro manifest moment
    constructor
    · intro same
      have ids : manifest.ids = manifest.toCluster.ids := by
        rw [← ids_ofCluster manifest.toCluster moment, same]
        rfl
      rw [ids]
      exact manifest.toCluster.distinct
    · intro distinct
      exact ofCluster_toCluster_of_distinct distinct moment
  · intro cluster moment restored
    have recalls := recalls cluster moment
    refine ⟨recalls.name, recalls.properties, ?_⟩
    rw [recalls.instances, List.forall₂_map_right_iff]
    apply List.forall₂_same.mpr
    intro machine _
    refine ⟨rfl, rfl, ?_⟩
    rcases known : machine.hosts with _ | hosts
    · simp [Instance.remembered, known]
    · by_cases unknown : hosts = .unknown <;> simp [Instance.remembered, known, unknown]

-- Two records with one id, of which the first has a name.
example :
    let record (id : String) (publicHost : Option String) : InstanceRecord :=
      ⟨id, .ofList ["worker"], none, none, publicHost, none, .empty⟩
    let manifest : Manifest := ⟨"small", [record "a" (some "a.test"), record "b" none, record "a" none], .empty, .epoch⟩
    ofCluster manifest.toCluster .epoch =
      { manifest with instances := [record "a" (some "a.test"), record "b" none] } := by
  decide +kernel

end Manifest

end Muster
