import Muster.Environment
import Muster.Proofs.FirstOccurrences
import Muster.Provider.Simulated
import Muster.Topology.Draft

/-!
What scripts export, in layers. Every variable that some layer defines is exported once, at the place
where it is defined first and with the value that it is given last. The layers for a role set are the first of
those for a machine that has the roles, so that their variables come first on the machine.
-/

namespace Muster

namespace Exports

variable {exports base entries layer : Exports} {layers : List Exports} {key other value : String}

/-! ### Layers -/

def Gives (layer : Exports) (key value : String) : Prop :=
  ∃ front back, layer = front ++ (key, value) :: back ∧ key ∉ back.map Prod.fst

/-- Exports that are laid over each other: a variable is there once exactly if a layer defines it, with the value that the
last layer that does gives it, and variables stand in the order in which they are defined first. -/
structure Layered (layers : List Exports) (exports : Exports) : Prop where
  once : (exports.map Prod.fst).Nodup
  defined : ∀ key, key ∈ exports.map Prod.fst ↔ ∃ layer ∈ layers, key ∈ layer.map Prod.fst
  last : ∀ key value, (key, value) ∈ exports → ∃ front layer back, layers = front ++ layer :: back ∧
    layer.Gives key value ∧ ∀ later ∈ back, key ∉ later.map Prod.fst
  order : exports.map Prod.fst = firstOccurrences (layers.flatten.map Prod.fst)

/-! ### Setting variables -/

theorem lookup_cons_eq (entry : String × String) (rest : Exports) (key : String) :
    List.lookup key (entry :: rest) = if entry.1 = key then some entry.2 else List.lookup key rest := by
  rw [List.lookup_cons]
  by_cases same : entry.1 = key
  · simp [same]
  · have different : (key == entry.1) = false := by simpa using Ne.symm same
    simp [same, different]

theorem lookup_eq_none : List.lookup key exports = none ↔ key ∉ exports.map Prod.fst := by
  induction exports with
  | nil => simp
  | cons entry rest ih =>
      rw [lookup_cons_eq, List.map_cons, List.mem_cons, not_or, ← ih]
      by_cases same : entry.1 = key
      · simp [same]
      · simp [same, Ne.symm same]

theorem lookup_of_mem (once : (exports.map Prod.fst).Nodup) (member : (key, value) ∈ exports) :
    List.lookup key exports = some value := by
  induction exports with
  | nil => cases member
  | cons entry rest ih =>
      obtain ⟨fresh, once⟩ := List.nodup_cons.mp once
      rw [lookup_cons_eq]
      rcases List.mem_cons.mp member with rfl | later
      · exact if_pos rfl
      · have different : entry.1 ≠ key := fun same => fresh (same ▸ List.mem_map_of_mem later)
        rw [if_neg different, ih once later]

theorem lookup_put (exports : Exports) (key value other : String) :
    List.lookup other (exports.put key value) = if key = other then some value else List.lookup other exports := by
  induction exports with
  | nil => rw [put, lookup_cons_eq]
  | cons entry rest ih =>
      rw [put]
      by_cases same : entry.1 = key
      · rw [if_pos same, lookup_cons_eq, lookup_cons_eq, same]
        by_cases here : key = other <;> simp [here]
      · rw [if_neg same, lookup_cons_eq, lookup_cons_eq, ih]
        by_cases here : entry.1 = other
        · simp [here, here ▸ Ne.symm same]
        · simp [here]

theorem keys_put (exports : Exports) (key value : String) : (exports.put key value).map Prod.fst =
    if key ∈ exports.map Prod.fst then exports.map Prod.fst else exports.map Prod.fst ++ [key] := by
  induction exports with
  | nil => rfl
  | cons entry rest ih =>
      rw [put]
      by_cases same : entry.1 = key
      · simp [same]
      · rw [if_neg same, List.map_cons, ih, List.map_cons]
        by_cases known : key ∈ rest.map Prod.fst <;> simp [known, Ne.symm same]

-- The last entry of a variable decides, and what was there before where there is no entry.
theorem lookup_putAll (base entries : Exports) (key : String) :
    List.lookup key (base.putAll entries) = (List.lookup key entries.reverse).or (List.lookup key base) := by
  induction entries using List.reverseRecOn with
  | nil => rfl
  | append_singleton entries entry ih =>
      rw [putAll, List.foldl_append, ← putAll, List.reverse_append, List.reverse_singleton, List.singleton_append,
        lookup_cons_eq]
      change List.lookup key ((base.putAll entries).put entry.1 entry.2) = _
      rw [lookup_put, ih]
      by_cases same : entry.1 = key <;> simp [same]

theorem lookup_reverse (once : (exports.map Prod.fst).Nodup) (key : String) :
    List.lookup key exports.reverse = List.lookup key exports := by
  cases found : List.lookup key exports with
  | none =>
      rw [lookup_eq_none] at found ⊢
      simpa using found
  | some value =>
      obtain ⟨front, back, parts, _⟩ := List.lookup_eq_some_iff.mp found
      refine lookup_of_mem ?_ (List.mem_reverse.mpr (parts ▸ List.mem_append_right _ List.mem_cons_self))
      rw [List.map_reverse]
      exact (List.reverse_perm _).nodup_iff.mpr once

theorem keys_putAll (entries : Exports) : (putAll [] entries).map Prod.fst = firstOccurrences (entries.map Prod.fst) := by
  induction entries using List.reverseRecOn with
  | nil => rfl
  | append_singleton entries entry ih =>
      rw [putAll, List.foldl_append, ← putAll, List.map_append, List.map_singleton, firstOccurrences_concat]
      change ((putAll [] entries).put entry.1 entry.2).map Prod.fst = _
      rw [keys_put, ih]
      simp only [mem_firstOccurrences]

theorem lookup_layers (found : List.lookup key layers.flatten.reverse = some value) :
    ∃ front layer back, layers = front ++ layer :: back ∧ layer.Gives key value ∧ ∀ later ∈ back, key ∉ later.map Prod.fst := by
  induction layers using List.reverseRecOn with
  | nil => cases found
  | append_singleton layers layer ih =>
      rw [List.flatten_append, List.flatten_singleton, List.reverse_append, List.lookup_append] at found
      cases given : List.lookup key layer.reverse with
      | some last =>
          rw [given] at found
          obtain rfl : last = value := Option.some.inj found
          obtain ⟨back, front, parts, unlisted⟩ := List.lookup_eq_some_iff.mp given
          refine ⟨layers, layer, [], rfl, ⟨front.reverse, back.reverse, ?_, ?_⟩, nofun⟩
          · simpa using congrArg List.reverse parts
          · intro again
            obtain ⟨entry, member, same⟩ := List.mem_map.mp again
            simpa [same] using unlisted entry (List.mem_reverse.mp member)
      | none =>
          rw [given, Option.none_or] at found
          obtain ⟨front, before, back, rfl, gives, others⟩ := ih found
          refine ⟨front, before, back ++ [layer], by simp, gives, List.forall_mem_append.mpr ⟨others, ?_⟩⟩
          rw [List.forall_mem_singleton]
          simpa using lookup_eq_none.mp given

theorem layered_of_order (order : exports.map Prod.fst = firstOccurrences (layers.flatten.map Prod.fst))
    (values : ∀ key, List.lookup key exports = List.lookup key layers.flatten.reverse) : Layered layers exports where
  once := order ▸ nodup_firstOccurrences _
  defined key := by
    rw [order, mem_firstOccurrences]
    simp only [List.mem_map, List.mem_flatten]
    constructor
    · rintro ⟨entry, ⟨layer, among, member⟩, same⟩
      exact ⟨layer, among, entry, member, same⟩
    · rintro ⟨layer, among, entry, member, same⟩
      exact ⟨entry, ⟨layer, among, member⟩, same⟩
  last key value member := lookup_layers (values key ▸ lookup_of_mem (order ▸ nodup_firstOccurrences _) member)
  order := order

theorem layered_putAll (layers : List Exports) : Layered layers (putAll [] layers.flatten) :=
  layered_of_order (keys_putAll layers.flatten) fun key => by rw [lookup_putAll, List.lookup_nil, Option.or_none]

-- A variable that is set again on top of others keeps its first place and its last value either way.
theorem layered_putAll_putAll (others queued : Exports) (flat : layers.flatten = others ++ queued) :
    Layered layers (putAll [] (others ++ putAll [] queued)) := by
  have once : ((putAll [] queued).map Prod.fst).Nodup := keys_putAll queued ▸ nodup_firstOccurrences _
  refine layered_of_order ?_ fun key => ?_
  · rw [flat, keys_putAll, List.map_append, List.map_append, keys_putAll, firstOccurrences_append_self]
  · rw [flat, lookup_putAll, List.reverse_append, List.reverse_append, List.lookup_append, List.lookup_append,
      lookup_reverse once, lookup_putAll, List.lookup_nil, Option.or_none, Option.or_none]

end Exports

/-! ### The layers -/

def Exports.ofTable (table : List (String × Option String)) : Exports :=
  table.filterMap fun entry => entry.2.map fun value => (entry.1, value)

def filled (setting : Option String) : Option String := setting.filter (· ≠ "")

def clusterTable (topology : Topology) (roles : RoleSet) : List (String × Option String) :=
  [("CLUSTER_NAME", some topology.clusterName),
    ("CLUSTER_USER", topology.clusterUser),
    ("CLOUD_PROVIDER", some topology.provider),
    ("AUTO_HOSTNAME_SUFFIX", filled topology.hostnameSuffix),
    ("AUTO_HOSTNAME_PREFIX", if filled topology.hostnameSuffix = none then none else filled topology.hostnamePrefix),
    ("JDK_INSTALL_URL", topology.jdkInstallUrl),
    ("KERBEROS_REALM", some (topology.kerberosRealm.getD "STRATUSCLUSTER.COM")),
    ("ROLES", some (",".intercalate roles.toList))]

def generalLayers (topology : Topology) (roles : RoleSet) : List Exports :=
  [topology.env.toList, Exports.ofTable (clusterTable topology roles)] ++
    roles.toList.map fun role => ((topology.roles.get? role).map fun config => config.env.toList).getD []

def machineLayers (machine : Instance) (hosts : Option Hosts) (calls : List (String × String × String)) : List Exports :=
  [.ofTable [("PUBLIC_IP", machine.node.publicIp), ("PRIVATE_IP", machine.node.privateIp)],
    .ofTable [("PUBLIC_HOST_NAME", hosts.bind Hosts.publicName), ("PRIVATE_HOST_NAME", hosts.bind Hosts.privateName)],
    (calls.filter fun call => call.1 = machine.id).map Prod.snd]

inductive StatementQueue.FilledBy : StatementQueue → List (String × String × String) → Prop
  | empty : FilledBy .empty []
  | add {queue : StatementQueue} {calls : List (String × String × String)} (filled : FilledBy queue calls)
      (role : String) (statement : Statement) : FilledBy (queue.add role statement) calls
  | setExport {queue : StatementQueue} {calls : List (String × String × String)} (filled : FilledBy queue calls)
      (id key value : String) : FilledBy (queue.setExport id key value) (calls ++ [(id, key, value)])

variable {topology : Topology} {roles : RoleSet} {machine : Instance} {hosts : Option Hosts} {queue : StatementQueue}
  {calls : List (String × String × String)}

-- One call more is one variable more to set on its machine.
theorem StatementQueue.FilledBy.exportsFor (filledBy : queue.FilledBy calls) (id : String) :
    (queue.exportsFor id).getD [] = Exports.putAll [] ((calls.filter fun call => call.1 = id).map Prod.snd) := by
  induction filledBy with
  | empty => rfl
  | add _ role statement ih => exact ih
  | @setExport queue calls _ other key value ih =>
      unfold StatementQueue.exportsFor StatementQueue.setExport SortedMap.modify
      rw [SortedMap.get?_insert]
      by_cases same : other = id
      · subst same
        simp only [StatementQueue.exportsFor] at ih
        simp [SortedMap.getD, ih, Exports.putAll]
      · rw [if_neg (Ne.symm same)]
        simpa [StatementQueue.exportsFor, same] using ih

theorem clusterExports_eq (topology : Topology) (roles : RoleSet) :
    clusterExports topology roles = .ofTable (clusterTable topology roles) := by
  unfold clusterExports clusterTable filled defaultRealm
  cases topology.clusterUser <;> cases topology.jdkInstallUrl <;>
    cases topology.hostnameSuffix.filter (· ≠ "") <;> cases topology.hostnamePrefix.filter (· ≠ "") <;> rfl

theorem environment_eq (topology : Topology) (roles : RoleSet) :
    environment topology roles = Exports.putAll [] (generalLayers topology roles).flatten := by
  simp [environment, generalLayers, clusterExports_eq, roleExports, Topology.roleConfig?, List.flatMap_def]

theorem addressExports_eq (node : Node) :
    addressExports node = .ofTable [("PUBLIC_IP", node.publicIp), ("PRIVATE_IP", node.privateIp)] := by
  unfold addressExports
  cases node.publicIp <;> cases node.privateIp <;> rfl

theorem hostExports_eq (hosts : Option Hosts) : hostExports hosts =
    .ofTable [("PUBLIC_HOST_NAME", hosts.bind Hosts.publicName), ("PRIVATE_HOST_NAME", hosts.bind Hosts.privateName)] := by
  unfold hostExports
  cases hosts.bind Hosts.publicName <;> cases hosts.bind Hosts.privateName <;> rfl

theorem environment_layered (topology : Topology) (roles : RoleSet) :
    Exports.Layered (generalLayers topology roles) (environment topology roles) :=
  environment_eq topology roles ▸ Exports.layered_putAll _

-- The queue keeps one entry for each variable of a machine, at its first place and with its last value.
theorem instanceExports_layered (filledBy : queue.FilledBy calls) (topology : Topology) (machine : Instance)
    (hosts : Option Hosts) :
    Exports.Layered (generalLayers topology machine.roles ++ machineLayers machine hosts calls)
      (instanceExports topology machine hosts queue) := by
  have exports : instanceExports topology machine hosts queue =
      Exports.putAll [] ((generalLayers topology machine.roles).flatten ++ (addressExports machine.node ++ hostExports hosts) ++
        Exports.putAll [] ((calls.filter fun call => call.1 = machine.id).map Prod.snd)) := by
    rw [instanceExports, environment_eq, filledBy.exportsFor, Exports.putAll, Exports.putAll, ← List.foldl_append,
      ← List.append_assoc]
    rfl
  rw [exports]
  apply Exports.layered_putAll_putAll
  simp [machineLayers, addressExports_eq, hostExports_eq]

/-- What every script for a role set exports is the general layers laid over each other. What a script exports on a machine
is those for its roles, and over them what is set on the machine: its addresses, the host names that it is known by or
else those that the provider answers, and what handlers have exported on it. The variables of the roles come first. -/
theorem Provider.exports_in_layers {σ : Type} (provider : Provider σ) (topology : Topology) (machine : Instance)
    (filledBy : queue.FilledBy calls) (state : σ) :
    let exports := (provider.environment topology machine queue state).1
    let hosts := machine.hosts.or (provider.resolveHosts machine.node state).1.toOption
    (∀ roles, Exports.Layered (generalLayers topology roles) (Muster.environment topology roles)) ∧
    Exports.Layered (generalLayers topology machine.roles ++ machineLayers machine hosts calls) exports ∧
    (Muster.environment topology machine.roles).map Prod.fst <+: exports.map Prod.fst := by
  intro exports hosts
  have asked : exports = instanceExports topology machine hosts queue := by
    simp only [exports, hosts, Provider.environment, Provider.hosts]
    cases machine.hosts <;> rfl
  have layered := instanceExports_layered filledBy topology machine hosts
  rw [asked]
  refine ⟨environment_layered topology, layered, ?_⟩
  rw [layered.order, (environment_layered topology machine.roles).order, List.flatten_append, List.map_append]
  exact firstOccurrences_isPrefix _ _

-- The role overrides the topology, and a handler overrides both of itself and the cluster; all keep their places.
theorem Provider.exports_in_layers_of_override :
    let java : RoleConfig := ⟨.ofList [("JAVA_HOME", "/opt/java")], .empty, []⟩
    let topology := { TopologyDraft.empty with
      env := .ofList [("java_home", "/usr/java")]
      roles := .ofList [("namenode", java)]
      hostnamePrefix := some "node-" }.assemble .builtIn "small" "stub" [.new (.ofList ["namenode"]) 1]
    let machine : Instance := ⟨⟨"i-1", some "54.0.0.1", none, .empty⟩, .ofList ["namenode"], some ⟨none, some "node-1"⟩⟩
    let calls := [("i-1", "PORT", "8020"), ("i-2", "PORT", "9000"), ("i-1", "ROLES", "master"), ("i-1", "PORT", "8021")]
    let queue := calls.foldl (fun queue call => queue.setExport call.1 call.2.1 call.2.2) StatementQueue.empty
    let exports := (Simulation.provider.environment topology machine queue .new).1
    queue.FilledBy calls ∧
    exports = [("JAVA_HOME", "/opt/java"), ("CLUSTER_NAME", "small"), ("CLOUD_PROVIDER", "stub"),
      ("KERBEROS_REALM", "STRATUSCLUSTER.COM"), ("ROLES", "master"), ("PUBLIC_IP", "54.0.0.1"),
      ("PRIVATE_HOST_NAME", "node-1"), ("PORT", "8021")] ∧
    Exports.Layered (generalLayers topology machine.roles ++ machineLayers machine machine.hosts calls) exports ∧
    (Muster.environment topology machine.roles).map Prod.fst <+: exports.map Prod.fst := by
  intro java topology machine calls queue exports
  have filledBy : queue.FilledBy calls :=
    (((StatementQueue.FilledBy.empty.setExport "i-1" "PORT" "8020").setExport "i-2" "PORT" "9000").setExport
      "i-1" "ROLES" "master").setExport "i-1" "PORT" "8021"
  obtain ⟨_, layered, front⟩ := exports_in_layers Simulation.provider topology machine filledBy .new
  exact ⟨filledBy, by decide +kernel, layered, front⟩

end Muster
