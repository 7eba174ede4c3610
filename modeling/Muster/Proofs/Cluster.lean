import Mathlib.Data.Finset.Card
import Muster.Manifest
import Muster.Placement
import Muster.Proofs.Launch.Verdict

/-!
Who is in a cluster. Whatever a cluster is asked for, its machines are those that have arrived and were
not taken out since, of those with one id the one that arrived first, in the order of their arrival.
So a machine is in the cluster once, and to count the machines with a role is to count their ids.
-/

namespace Muster

-- Of items with one key the first is kept.
theorem eraseDupsBy_key_cons {α κ : Type} [DecidableEq κ] (key : α → κ) (first : α) (rest : List α) :
    (first :: rest).eraseDupsBy (fun item other => key item = key other) =
      first :: (rest.filter fun later => key later ≠ key first).eraseDupsBy (fun item other => key item = key other) := by
  simp [List.eraseDupsBy_cons]

-- What was kept so far is carried along.
theorem eraseDupsBy_map {α β : Type} (form : α → β) (same : β → β → Bool) (items : List α) :
    (items.map form).eraseDupsBy same = (items.eraseDupsBy fun item other => same (form item) (form other)).map form := by
  have loop (kept : List α) : List.eraseDupsBy.loop same (items.map form) (kept.map form) =
      (List.eraseDupsBy.loop (fun item other => same (form item) (form other)) items kept).map form := by
    induction items generalizing kept with
    | nil => simp [List.eraseDupsBy.loop]
    | cons item rest ih =>
        simp only [List.map_cons, List.eraseDupsBy.loop, List.any_map, Function.comp_def]
        split
        · exact ih kept
        · exact ih (item :: kept)
  exact loop []

namespace Cluster

variable {cluster : Cluster} {machine : Instance} {ids : List String} {id role : String}

inductive Change where
  | arrival (machine : Instance)
  | departure (ids : List String)
  | restart

def Change.takesOut (id : String) : Change → Bool
  | arrival _ => false
  | departure ids => id ∈ ids
  | restart => true

/-- The machines that arrive and are not taken out later. -/
def lasting : List Change → List Instance
  | [] => []
  | .arrival machine :: rest =>
      if rest.any (Change.takesOut machine.id) then lasting rest else machine :: lasting rest
  | .departure _ :: rest | .restart :: rest => lasting rest

def Change.apply (machines : List Instance) : Change → List Instance
  | arrival machine => if machine.id ∈ machines.map Instance.id then machines else machines ++ [machine]
  | departure ids => machines.filter fun machine => machine.id ∉ ids
  | restart => []

def firsts (machines : List Instance) : List Instance := machines.eraseDupsBy Instance.sameMachine

theorem firsts_cons (machine : Instance) (rest : List Instance) :
    firsts (machine :: rest) = machine :: firsts (rest.filter fun later => later.id ≠ machine.id) :=
  eraseDupsBy_key_cons Instance.id machine rest

def remaining (changes : List Change) (machines : List Instance) : List Instance :=
  machines.filter fun machine => !changes.any (Change.takesOut machine.id)

variable {changes : List Change} {machines : List Instance}

theorem remaining_arrival (machine : Instance) (changes : List Change) (machines : List Instance) :
    remaining (.arrival machine :: changes) machines = remaining changes machines := by
  simp [remaining, Change.takesOut]

theorem remaining_departure (ids : List String) (changes : List Change) (machines : List Instance) :
    remaining (.departure ids :: changes) machines = remaining changes (machines.filter fun machine => machine.id ∉ ids) := by
  simp [remaining, Change.takesOut, List.filter_filter, Bool.and_comm]

theorem remaining_restart (changes : List Change) (machines : List Instance) :
    remaining (.restart :: changes) machines = [] := by
  simp [remaining, Change.takesOut]

theorem remaining_concat_of_gone (gone : changes.any (Change.takesOut machine.id) = true) (machines : List Instance) :
    remaining changes (machines ++ [machine]) = remaining changes machines := by
  simp only [remaining, List.filter_append, List.filter_singleton, gone]
  simp

theorem remaining_concat_of_kept (kept : changes.any (Change.takesOut machine.id) = false) (machines : List Instance) :
    remaining changes (machines ++ [machine]) = remaining changes machines ++ [machine] := by
  simp only [remaining, List.filter_append, List.filter_singleton, kept]
  simp

theorem mem_remaining_ids (kept : changes.any (Change.takesOut id) = false) :
    id ∈ (remaining changes machines).map Instance.id ↔ id ∈ machines.map Instance.id := by
  simp only [remaining, List.mem_map, List.mem_filter]
  constructor
  · rintro ⟨machine, ⟨member, _⟩, same⟩
    exact ⟨machine, member, same⟩
  · rintro ⟨machine, member, rfl⟩
    exact ⟨machine, ⟨member, by rw [kept]; rfl⟩, rfl⟩

-- By induction over the changes: those that remain tell which of those that arrive to stay are repeats.
theorem foldl_apply (changes : List Change) (machines : List Instance) :
    changes.foldl Change.apply machines = remaining changes machines ++
      firsts ((lasting changes).filter fun machine => machine.id ∉ (remaining changes machines).map Instance.id) := by
  induction changes generalizing machines with
  | nil => simp [lasting, remaining, firsts]
  | cons change rest ih =>
      rw [List.foldl_cons, ih]
      cases change with
      | departure ids =>
          rw [remaining_departure]
          rfl
      | restart =>
          rw [remaining_restart]
          rfl
      | arrival machine =>
          rw [remaining_arrival, lasting, Change.apply]
          cases gone : rest.any (Change.takesOut machine.id) with
          | true =>
              split
              · rfl
              · rw [remaining_concat_of_gone gone]
                rfl
          | false =>
              simp only [Bool.false_eq_true, ↓reduceIte]
              split
              · rename_i known
                have remains := (mem_remaining_ids gone).mpr known
                rw [List.filter_cons_of_neg (by simpa using remains)]
              · rename_i fresh
                have remains := mt (mem_remaining_ids gone).mp fresh
                rw [remaining_concat_of_kept gone, List.filter_cons_of_pos (by simpa using remains), firsts_cons,
                  List.append_assoc, List.singleton_append, List.filter_filter]
                congr 3
                apply List.filter_congr
                intro later _
                simp [and_comm]

/-! ### Adding and taking out -/

theorem add_of_known (cluster : Cluster) (machine : Instance) (known : machine.id ∈ cluster.ids) :
    cluster.add machine = (false, cluster) := by
  have present : ¬ cluster.find? machine.id = none := by
    rw [find?_eq_none]
    exact not_not_intro known
  simp [add, present]

theorem add_fst (cluster : Cluster) (machine : Instance) : (cluster.add machine).1 = true ↔ machine.id ∉ cluster.ids := by
  by_cases known : machine.id ∈ cluster.ids
  · simp [add_of_known cluster machine known, known]
  · have absent := (find?_eq_none cluster machine.id).mpr known
    simp [add, absent, known]

theorem add_instances (cluster : Cluster) (machine : Instance) :
    (cluster.add machine).2.instances = Change.apply cluster.instances (.arrival machine) := by
  rw [Change.apply]
  split
  · rename_i known
    rw [add_of_known cluster machine known]
  · rename_i fresh
    exact add_of_fresh cluster machine fresh

theorem addAll_arrivals (cluster : Cluster) (machines : List Instance) :
    (cluster.addAll machines).instances = (machines.map Change.arrival).foldl Change.apply cluster.instances := by
  induction machines generalizing cluster with
  | nil => rfl
  | cons machine rest ih =>
      change ((cluster.add machine).2.addAll rest).instances = _
      rw [ih, add_instances, List.map_cons, List.foldl_cons]

theorem lasting_arrivals (machines : List Instance) : lasting (machines.map Change.arrival) = machines := by
  induction machines with
  | nil => rfl
  | cons machine rest ih =>
      have kept : (rest.map Change.arrival).any (Change.takesOut machine.id) = false := by
        simp [Change.takesOut]
      rw [List.map_cons, lasting, kept, ih]
      rfl

-- Added machines repeat what is there or one another.
theorem addAll_firsts (cluster : Cluster) (machines : List Instance) : (cluster.addAll machines).instances =
    cluster.instances ++ firsts (machines.filter fun machine => machine.id ∉ cluster.ids) := by
  have all : remaining (machines.map Change.arrival) cluster.instances = cluster.instances := by
    simp [remaining, Change.takesOut]
  rw [addAll_arrivals, foldl_apply, lasting_arrivals, all, ids]

theorem ofInstances_firsts (name : String) (machines : List Instance) :
    (ofInstances name machines).instances = firsts machines := by
  rw [ofInstances, addAll_firsts]
  simp [new, ids]

-- Ids that no machine has, and ids that are listed again, make no difference.
theorem remove_congr {others : List String} (same : ∀ id ∈ cluster.ids, id ∈ others ↔ id ∈ ids) :
    cluster.remove others = cluster.remove ids := by
  have listed : ∀ machine ∈ cluster.instances, machine.id ∈ others ↔ machine.id ∈ ids :=
    fun machine member => same machine.id (List.mem_map_of_mem member)
  have removed : (cluster.instances.filter fun machine => machine.id ∈ others) =
      cluster.instances.filter fun machine => machine.id ∈ ids := by
    apply List.filter_congr
    intro machine member
    simp only [listed machine member]
  have kept : (cluster.instances.filter fun machine => machine.id ∉ others) =
      cluster.instances.filter fun machine => machine.id ∉ ids := by
    apply List.filter_congr
    intro machine member
    simp only [listed machine member]
  simp only [remove, removed, kept]

/-! ### The machines with a role -/

def carriers (cluster : Cluster) (role : String) : Finset String :=
  ((cluster.instances.filter fun machine => machine.hasRole role).map Instance.id).toFinset

theorem card_carriers (cluster : Cluster) (role : String) :
    (cluster.carriers role).card = (cluster.withRole role).length := by
  have distinct : ((cluster.withRole role).map Instance.id).Nodup :=
    cluster.distinct.sublist (List.Sublist.map _ List.filter_sublist)
  rw [carriers, ← withRole, List.toFinset_card_of_nodup distinct, List.length_map]

theorem locateUnique_eq_ok_iff : cluster.locateUnique role = .ok machine ↔ cluster.withRole role = [machine] := by
  unfold locateUnique
  split
  · rename_i none
    simp [none]
  · rename_i other one
    simp [one]
  · rename_i _ several
    simp only [reduceCtorEq, false_iff]
    exact several machine

theorem locateUnique_isOk_iff : (∃ machine, cluster.locateUnique role = .ok machine) ↔ (cluster.carriers role).card = 1 := by
  simp only [locateUnique_eq_ok_iff, card_carriers, List.length_eq_one_iff]

theorem locateUnique_eq_error_iff {fault : PlacementFault} : cluster.locateUnique role = .error fault ↔
    (cluster.carriers role).card ≠ 1 ∧ fault =
      if (cluster.carriers role).card = 0 then .notFound cluster.name role
      else .ambiguous cluster.name role (cluster.carriers role).card := by
  rw [card_carriers]
  unfold locateUnique
  split
  · rename_i none
    simp [none, eq_comm]
  · rename_i other one
    simp [one]
  · rename_i some several
    have some : (cluster.withRole role).length ≠ 0 := mt List.length_eq_zero_iff.mp some
    have several : (cluster.withRole role).length ≠ 1 := by
      rw [Ne, List.length_eq_one_iff]
      rintro ⟨machine, one⟩
      exact several machine one
    simp [some, several, eq_comm]

end Cluster

/-! ### Whatever is asked -/

inductive ClusterRequest where
  | new (name : String)
  | ofInstances (name : String) (machines : List Instance)
  | ofManifest (manifest : Manifest)
  | add (machine : Instance)
  | remove (ids : List String)
  | setProperties (properties : SortedMap String String)
  | setProperty (key value : String)

def ClusterRequest.changes : ClusterRequest → List Cluster.Change
  | new _ => [.restart]
  | ofInstances _ machines => .restart :: machines.map .arrival
  | ofManifest manifest => .restart :: (manifest.instances.map InstanceRecord.toInstance).map .arrival
  | add machine => [.arrival machine]
  | remove ids => [.departure ids]
  | setProperties _ | setProperty _ _ => []

namespace Cluster

def perform (cluster : Cluster) : ClusterRequest → Cluster
  | .new name => new name
  | .ofInstances name machines => ofInstances name machines
  | .ofManifest manifest => manifest.toCluster
  | .add machine => (cluster.add machine).2
  | .remove ids => (cluster.remove ids).2
  | .setProperties properties => cluster.setProperties properties
  | .setProperty key value => cluster.setProperty key value

def performAll (cluster : Cluster) (requests : List ClusterRequest) : Cluster := requests.foldl perform cluster

theorem perform_instances (cluster : Cluster) (request : ClusterRequest) :
    (cluster.perform request).instances = request.changes.foldl Change.apply cluster.instances := by
  cases request with
  | new name => rfl
  | ofInstances name machines => exact addAll_arrivals (new name) machines
  | ofManifest manifest => exact addAll_arrivals (new manifest.clusterName) _
  | add machine => exact add_instances cluster machine
  | remove ids => rfl
  | setProperties properties => rfl
  | setProperty key value => rfl

theorem performAll_instances (cluster : Cluster) (requests : List ClusterRequest) :
    (cluster.performAll requests).instances =
      (requests.flatMap ClusterRequest.changes).foldl Change.apply cluster.instances := by
  induction requests generalizing cluster with
  | nil => rfl
  | cons request rest ih =>
      change ((cluster.perform request).performAll rest).instances = _
      rw [ih, perform_instances, List.flatMap_cons, List.foldl_append]

/-- After any requests, the machines of a cluster are those that arrived and were not taken out since, and
have ids of their own. A machine whose id is there is not added, and any other is added at the end. A
cluster of given machines has the first of each id, in order. The machines that are taken out are those
whose ids are listed, in cluster order, and the others stay as they are; it does not matter which other ids
are listed, nor how often or in which order. The machine with a role is found exactly if the role is
carried under one id, and if not, the fault tells the number of ids under which it is. -/
theorem lists_first_arrivals (name : String) (requests : List ClusterRequest) :
    let cluster := (new name).performAll requests
    cluster.instances = (lasting (requests.flatMap ClusterRequest.changes)).eraseDupsBy Instance.sameMachine ∧
    cluster.ids.Nodup ∧
    (∀ machine, (machine.id ∈ cluster.ids → cluster.add machine = (false, cluster)) ∧
      (machine.id ∉ cluster.ids → ∃ grown, cluster.add machine = (true, grown) ∧
        grown.instances = cluster.instances ++ [machine] ∧ grown.name = cluster.name ∧
        grown.properties = cluster.properties)) ∧
    (∀ name machines, let gathered := ofInstances name machines
      gathered.instances = machines.eraseDupsBy Instance.sameMachine ∧ gathered.name = name ∧
      gathered.properties = .empty) ∧
    (∀ ids, ∃ kept, cluster.remove ids = (cluster.instances.filter fun machine => machine.id ∈ ids, kept) ∧
      kept.instances = (cluster.instances.filter fun machine => machine.id ∉ ids) ∧ kept.name = cluster.name ∧
      kept.properties = cluster.properties ∧
      ∀ others, (∀ id ∈ cluster.ids, id ∈ others ↔ id ∈ ids) → cluster.remove others = cluster.remove ids) ∧
    ∀ role,
      ((∃ machine, cluster.locateUnique role = .ok machine) ↔ (cluster.carriers role).card = 1) ∧
      (∀ machine, cluster.locateUnique role = .ok machine →
        machine ∈ cluster.instances ∧ machine.hasRole role = true) ∧
      ∀ fault, cluster.locateUnique role = .error fault ↔ (cluster.carriers role).card ≠ 1 ∧ fault =
        if (cluster.carriers role).card = 0 then .notFound cluster.name role
        else .ambiguous cluster.name role (cluster.carriers role).card := by
  intro cluster
  have listed : cluster.instances = firsts (lasting (requests.flatMap ClusterRequest.changes)) := by
    rw [performAll_instances, foldl_apply]
    simp [new, remaining]
  refine ⟨listed, cluster.distinct, ?_, ?_, ?_, ?_⟩
  · intro machine
    refine ⟨add_of_known cluster machine, fun fresh => ?_⟩
    refine ⟨(cluster.add machine).2, Prod.ext ((add_fst cluster machine).mpr fresh) rfl, add_of_fresh cluster machine fresh,
      add_name cluster machine, add_properties cluster machine⟩
  · intro name machines gathered
    exact ⟨ofInstances_firsts name machines, addAll_name _ _, addAll_properties _ _⟩
  · intro ids
    exact ⟨(cluster.remove ids).2, rfl, rfl, rfl, rfl, fun others same => remove_congr same⟩
  · intro role
    refine ⟨locateUnique_isOk_iff, fun machine found => ?_, fun fault => locateUnique_eq_error_iff⟩
    have one : machine ∈ cluster.withRole role := by
      rw [locateUnique_eq_ok_iff.mp found]
      exact List.mem_cons_self
    exact List.mem_filter.mp one

-- A machine that is taken out and comes back stands last, and a second one of its id is not added.
theorem lists_first_arrivals_of_two :
    let machine (id role : String) : Instance := .ofNode ⟨id, none, none, .empty⟩ (.ofList [role])
    let record (id role : String) : InstanceRecord := .ofInstance (machine id role)
    let manifest : Manifest := ⟨"small", [record "b" "worker", record "a" "master", record "b" "master"], .empty, .epoch⟩
    let requests : List ClusterRequest :=
      [.add (machine "c" "worker"), .ofManifest manifest, .remove ["b", "c", "b"], .setProperty "k" "v",
        .add (machine "b" "worker"), .add (machine "a" "worker")]
    let cluster := (new "big").performAll requests
    ("a" ∈ cluster.ids ∧ "c" ∉ cluster.ids) ∧
    cluster.instances = [machine "a" "master", machine "b" "worker"] ∧
    cluster.add (machine "a" "worker") = (false, cluster) ∧ (cluster.add (machine "c" "worker")).1 = true ∧
    cluster.remove ["b", "z", "b"] = cluster.remove ["b"] ∧
    ∃ found, cluster.locateUnique "worker" = .ok found ∧ found.hasRole "worker" = true := by
  intro machine record manifest requests cluster
  have known : "a" ∈ cluster.ids := by decide +kernel
  have absent : "c" ∉ cluster.ids := by decide +kernel
  have listed : cluster.instances = [machine "a" "master", machine "b" "worker"] := by decide +kernel
  obtain ⟨_, _, adds, _, removes, roles⟩ := lists_first_arrivals "big" requests
  obtain ⟨grown, added, _⟩ := (adds (machine "c" "worker")).2 absent
  obtain ⟨_, _, _, _, _, alike⟩ := removes ["b"]
  obtain ⟨unique, carried, _⟩ := roles "worker"
  obtain ⟨found, located⟩ := unique.mpr (by decide +kernel)
  refine ⟨⟨known, absent⟩, listed, (adds (machine "a" "worker")).1 known, congrArg Prod.fst added, ?_, found, located,
    (carried found located).2⟩
  exact alike ["b", "z", "b"] (by decide +kernel)

end Cluster

end Muster
