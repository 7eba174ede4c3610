import Mathlib.Data.List.Nodup
import Muster.Proofs.FirstOccurrences

/-!
What a firewall permits on a cluster, in terms of all that was ever added to it. Everything that a rule
opens is at a spot: which rule it is, which machine, which port and which source. The targets are what is
at some spot, each of them once, in the order of their first spots.
-/

namespace Muster

/-! ### What is added -/

inductive Addition where
  | rule (single : FirewallRule)
  | config (topology : Topology)

/-- The rules of an addition. An entry of a topology opens ports on every machine, or on those that carry
a role, to the clients of the topology. -/
def Addition.rules : Addition → List FirewallRule
  | .rule single => [single]
  | .config topology => topology.firewallRules.toList.map fun entry =>
      { destination := if entry.1 = "all" ∨ entry.1 = "" then .all else .carrying (.ofList [entry.1])
        ports := .ofList entry.2
        sources := [] }

namespace Firewall

def add (firewall : Firewall) : Addition → Firewall
  | .rule rule => firewall.addRule rule
  | .config topology => firewall.addConfigRules topology

def addAll (firewall : Firewall) (additions : List Addition) : Firewall := additions.foldl add firewall

def added (additions : List Addition) : List FirewallRule := additions.flatMap Addition.rules

end Firewall

/-! ### What a rule opens -/

def Destination.Reaches (destination : Destination) (machine : Instance) : Prop :=
  match destination with
  | .all => True
  | .carrying roles => ∃ role ∈ roles, role ∈ machine.roles
  | .machine id => machine.id = id

/-- The sources of the rule, or the clients if it lists none, or any address if there are no clients. -/
def FirewallRule.sourcesFor (clients : List String) (rule : FirewallRule) : List String :=
  if rule.sources ≠ [] then rule.sources else if clients ≠ [] then clients else ["0.0.0.0/0"]

structure FirewallRule.Opens (clients : List String) (rule : FirewallRule) (machine : Instance) (port : UInt16)
    (cidr : String) : Prop where
  reaches : rule.destination.Reaches machine
  port : port ∈ rule.ports
  source : cidr ∈ rule.sourcesFor clients

def Instance.target (machine : Instance) (port : UInt16) (cidr : String) : IngressTarget :=
  ⟨machine.id, machine.address, port, cidr⟩

def IngressTarget.key (target : IngressTarget) : String × UInt16 × String := (target.id, target.port, target.cidr)

/-- A spot is the position of a rule, that of a machine, a port, and the position of a source. The target is what
the rule opens there. -/
inductive FoundAt (clients : List String) (rules : List FirewallRule) (cluster : Cluster) :
    List Nat → IngressTarget → Prop
  | spot {r m s : Nat} {rule : FirewallRule} {machine : Instance} {port : UInt16} {cidr : String}
      (ruleAt : rules[r]? = some rule) (machineAt : cluster.instances[m]? = some machine)
      (reaches : rule.destination.Reaches machine) (opens : port ∈ rule.ports)
      (sourceAt : (rule.sourcesFor clients)[s]? = some cidr) :
      FoundAt clients rules cluster [r, m, port.toNat, s] (machine.target port cidr)

theorem Destination.covers_iff (destination : Destination) (machine : Instance) :
    destination.covers machine = true ↔ destination.Reaches machine := by
  cases destination with
  | all => simp [covers, Reaches]
  | carrying roles => simp [covers, Reaches, SortedSet.intersects_eq_true, and_comm]
  | machine id => simp [covers, Reaches]

/-! ### Loops inside of loops -/

section
variable {α β : Type} {placed : List (Nat × α)} {inner : α → List (List Nat × β)} {n : Nat} {item : α}

/-- A loop over placed items around a loop for each of them: what is found inside is found at the place outside and
then the place inside. -/
def spread (placed : List (Nat × α)) (inner : α → List (List Nat × β)) : List (List Nat × β) :=
  placed.flatMap fun item => (inner item.2).map fun found => (item.1 :: found.1, found.2)

theorem mem_spread {place : List Nat} {found : β} : (place, found) ∈ spread placed inner ↔
    ∃ n item rest, (n, item) ∈ placed ∧ (rest, found) ∈ inner item ∧ place = n :: rest := by
  simp only [spread, List.mem_flatMap, List.mem_map, Prod.exists, Prod.mk.injEq]
  constructor
  · rintro ⟨n, item, member, rest, _, inside, rfl, rfl⟩
    exact ⟨n, item, rest, member, inside, rfl⟩
  · rintro ⟨n, item, rest, member, inside, rfl⟩
    exact ⟨n, item, member, rest, found, inside, rfl, rfl⟩

theorem spread_ordered (ordered : placed.Pairwise fun one next => one.1 < next.1)
    (orderedInside : ∀ item, (inner item).Pairwise fun one next => one.1 < next.1) :
    (spread placed inner).Pairwise fun one next => one.1 < next.1 := by
  refine List.pairwise_flatMap.mpr ⟨fun item _ => ?_, ordered.imp fun {one next} before => ?_⟩
  · rw [List.pairwise_map]
    exact (orderedInside item.2).imp fun before => List.cons_lt_cons_iff.mpr (.inr ⟨rfl, before⟩)
  · intro _ found _ other
    obtain ⟨_, _, rfl⟩ := List.mem_map.mp found
    obtain ⟨_, _, rfl⟩ := List.mem_map.mp other
    exact List.cons_lt_cons_iff.mpr (.inl before)

theorem map_snd_spread (placed : List (Nat × α)) (inner : α → List (List Nat × β)) :
    (spread placed inner).map Prod.snd = (placed.map Prod.snd).flatMap fun item => (inner item).map Prod.snd := by
  simp only [spread, List.map_flatMap, List.map_map, List.flatMap_map]
  rfl

end

/-! ### All spots -/

namespace Firewall

variable {clients : List String} {rules : List FirewallRule} {cluster : Cluster} {spot : List Nat} {target : IngressTarget}

def candidates (clients : List String) (rules : List FirewallRule) (cluster : Cluster) : List (List Nat × IngressTarget) :=
  spread (numbered rules) fun rule =>
    spread ((numbered cluster.instances).filter fun machine => rule.destination.covers machine.2) fun machine =>
      spread (rule.ports.toList.map fun port => (port.toNat, port)) fun port =>
        (numbered (rule.sourcesFor clients)).map fun source => ([source.1], machine.target port source.2)

theorem ports_ordered (ports : SortedSet UInt16) :
    (ports.toList.map fun port => (port.toNat, port)).Pairwise fun one next => one.1 < next.1 := by
  rw [List.pairwise_map]
  exact ports.ascending.imp fun before => (compareNumbers_lt _ _).mp before

theorem candidates_ordered (clients : List String) (rules : List FirewallRule) (cluster : Cluster) :
    (candidates clients rules cluster).Pairwise fun one next => one.1 < next.1 := by
  refine spread_ordered (numbered_ordered rules) fun rule => ?_
  refine spread_ordered ((numbered_ordered cluster.instances).filter _) fun machine => ?_
  refine spread_ordered (ports_ordered rule.ports) fun port => ?_
  rw [List.pairwise_map]
  exact (numbered_ordered _).imp fun before => List.cons_lt_cons_iff.mpr (.inl before)

theorem mem_candidates : (spot, target) ∈ candidates clients rules cluster ↔ FoundAt clients rules cluster spot target := by
  simp only [candidates, mem_spread, mem_numbered, List.mem_filter, List.mem_map, Destination.covers_iff, Prod.exists,
    Prod.mk.injEq]
  constructor
  · rintro ⟨r, rule, _, ruleAt, ⟨m, machine, _, ⟨machineAt, reaches⟩, ⟨_, port, _, ⟨_, opens, rfl, rfl⟩,
      ⟨s, cidr, sourceAt, rfl, rfl⟩, rfl⟩, rfl⟩, rfl⟩
    exact .spot ruleAt machineAt reaches opens sourceAt
  · rintro @⟨r, m, s, rule, machine, port, cidr, ruleAt, machineAt, reaches, opens, sourceAt⟩
    exact ⟨r, rule, _, ruleAt, ⟨m, machine, _, ⟨machineAt, reaches⟩, ⟨_, port, _, ⟨port, opens, rfl, rfl⟩,
      ⟨s, cidr, sourceAt, rfl, rfl⟩, rfl⟩, rfl⟩, rfl⟩

theorem foundAt_iff : (∃ spot, FoundAt clients rules cluster spot target) ↔ ∃ rule ∈ rules, ∃ machine ∈ cluster.instances,
    ∃ port cidr, rule.Opens clients machine port cidr ∧ target = machine.target port cidr := by
  constructor
  · rintro ⟨_, @⟨_, _, _, rule, machine, port, cidr, ruleAt, machineAt, reaches, opens, sourceAt⟩⟩
    exact ⟨rule, List.mem_of_getElem? ruleAt, machine, List.mem_of_getElem? machineAt, port, cidr,
      ⟨reaches, opens, List.mem_of_getElem? sourceAt⟩, rfl⟩
  · rintro ⟨rule, listed, machine, member, port, cidr, ⟨reaches, opens, source⟩, rfl⟩
    obtain ⟨_, ruleAt⟩ := List.mem_iff_getElem?.mp listed
    obtain ⟨_, machineAt⟩ := List.mem_iff_getElem?.mp member
    obtain ⟨_, sourceAt⟩ := List.mem_iff_getElem?.mp source
    exact ⟨_, .spot ruleAt machineAt reaches opens sourceAt⟩

theorem sourcesOf_new (clients : List String) (rule : FirewallRule) :
    (new clients).sourcesOf rule = rule.sourcesFor clients := by
  rw [sourcesOf, new, FirewallRule.sourcesFor, world]
  cases rule.sources <;> cases clients <;> simp

theorem map_snd_candidates (clients : List String) (rules : List FirewallRule) (cluster : Cluster) :
    (candidates clients rules cluster).map Prod.snd = rules.flatMap ((new clients).expand cluster) := by
  have machines (rule : FirewallRule) :
      ((numbered cluster.instances).filter fun machine => rule.destination.covers machine.2).map Prod.snd =
        cluster.instances.filter rule.destination.covers := by
    rw [← map_snd_numbered cluster.instances, List.filter_map, map_snd_numbered]
    rfl
  have ports (rule : FirewallRule) : (rule.ports.toList.map fun port => (port.toNat, port)).map Prod.snd = rule.ports.toList := by
    simp [Function.comp_def]
  have sources (rule : FirewallRule) (machine : Instance) (port : UInt16) :
      ((numbered (rule.sourcesFor clients)).map fun source => ([source.1], machine.target port source.2)).map Prod.snd =
        (rule.sourcesFor clients).map fun cidr => machine.target port cidr := by
    rw [← map_snd_numbered (rule.sourcesFor clients), List.map_map, List.map_map, map_snd_numbered]
    rfl
  simp only [candidates, map_snd_spread, map_snd_numbered, machines, ports, sources]
  simp only [← sourcesOf_new]
  rfl

/-! ### What additions lead to -/

variable {firewall : Firewall} {rule : FirewallRule} {additions others : List Addition}

theorem configRules_eq (topology : Topology) : configRules topology = (Addition.config topology).rules := by
  refine List.map_congr_left fun entry _ => ?_
  unfold configRule FirewallRule.withPorts FirewallRule.forRole FirewallRule.new
  split <;> rename_i everywhere
  · rw [if_pos (by simpa using everywhere)]
    rfl
  · rw [if_neg (by simpa using everywhere)]
    rfl

theorem addAll_eq (firewall : Firewall) (additions : List Addition) :
    firewall.addAll additions = firewall.addRules (added additions) := by
  induction additions generalizing firewall with
  | nil => rfl
  | cons addition rest ih =>
      have first : firewall.add addition = firewall.addRules addition.rules := by
        cases addition with
        | rule single => rfl
        | config topology => rw [← configRules_eq, ← addConfigRules_eq]; rfl
      have all : added (addition :: rest) = addition.rules ++ added rest := List.flatMap_cons
      change (firewall.add addition).addAll rest = _
      rw [ih, first, all, addRules, addRules, addRules, List.foldl_append]

structure Gathers (clients : List String) (firewall : Firewall) (rules : List FirewallRule) : Prop where
  sources : firewall.defaultSources = (new clients).defaultSources
  only : ∀ rule ∈ firewall.rules, rule ∈ rules
  resolved : ∀ cluster, firewall.resolve cluster = firstOccurrences (rules.flatMap (firewall.expand cluster))

theorem gathers_new (clients : List String) : Gathers clients (new clients) [] := ⟨rfl, nofun, fun _ => rfl⟩

theorem expand_of_isEmpty (firewall : Firewall) (cluster : Cluster) (closed : rule.ports.isEmpty = true) :
    firewall.expand cluster rule = [] := by
  have none : rule.ports.toList = [] := by simpa [SortedSet.isEmpty] using closed
  simp [expand, none]

theorem Gathers.addRule (gathers : Gathers clients firewall rules) (rule : FirewallRule) :
    Gathers clients (firewall.addRule rule) (rules ++ [rule]) := by
  have only : ∀ rule' ∈ firewall.rules, rule' ∈ rules ++ [rule] := fun rule' member =>
    List.mem_append_left _ (gathers.only rule' member)
  rw [Firewall.addRule]
  split
  · rename_i has
    refine ⟨gathers.sources, only, fun cluster => ?_⟩
    rw [gathers.resolved, List.flatMap_append, List.flatMap_singleton, firstOccurrences_append_of_known]
    intro target opened
    simp only [Bool.or_eq_true, decide_eq_true_eq] at has
    rcases has with closed | known
    · rw [expand_of_isEmpty firewall cluster closed] at opened
      cases opened
    · exact List.mem_flatMap.mpr ⟨rule, gathers.only rule known, opened⟩
  · refine ⟨gathers.sources, ?_, fun cluster => ?_⟩
    · intro other member
      rcases List.mem_append.mp member with member | member
      · exact only other member
      · exact List.mem_append_right _ member
    · rw [resolve, List.flatMap_append, List.flatMap_append]
      exact firstOccurrences_append_of_eq (gathers.resolved cluster) _

theorem Gathers.addRules (gathers : Gathers clients firewall rules) (more : List FirewallRule) :
    Gathers clients (firewall.addRules more) (rules ++ more) := by
  induction more generalizing firewall rules with
  | nil => simpa [Firewall.addRules] using gathers
  | cons rule rest ih => simpa [Firewall.addRules] using ih (gathers.addRule rule)

theorem gathers_addAll (clients : List String) (additions : List Addition) :
    Gathers clients ((new clients).addAll additions) (added additions) := by
  rw [addAll_eq]
  exact (gathers_new clients).addRules (added additions)

theorem Gathers.resolve_eq (gathers : Gathers clients firewall rules) (cluster : Cluster) :
    firewall.resolve cluster = firstOccurrences ((candidates clients rules cluster).map Prod.snd) := by
  have expand : firewall.expand cluster = (new clients).expand cluster := by
    funext rule
    rw [Firewall.expand, Firewall.expand, sourcesOf, sourcesOf, gathers.sources]
  rw [gathers.resolved, map_snd_candidates, expand]

theorem Gathers.mem_resolve (gathers : Gathers clients firewall rules) :
    target ∈ firewall.resolve cluster ↔ ∃ rule ∈ rules, ∃ machine ∈ cluster.instances,
      ∃ port cidr, rule.Opens clients machine port cidr ∧ target = machine.target port cidr := by
  rw [gathers.resolve_eq, mem_firstOccurrences, ← foundAt_iff]
  simp [List.mem_map, mem_candidates]

-- Of two machines with one id there is one, so that the address is no part of what tells targets apart.
theorem Gathers.nodup_keys (gathers : Gathers clients firewall rules) (cluster : Cluster) :
    ((firewall.resolve cluster).map IngressTarget.key).Nodup := by
  have distinct : (firewall.resolve cluster).Nodup := nodup_firstOccurrences _
  refine List.Nodup.map_on ?_ distinct
  intro one resolved other again same
  obtain ⟨_, _, machine, member, port, cidr, _, rfl⟩ := gathers.mem_resolve.mp resolved
  obtain ⟨_, _, machine', member', port', cidr', _, rfl⟩ := gathers.mem_resolve.mp again
  simp only [IngressTarget.key, Instance.target, Prod.mk.injEq] at same
  obtain ⟨id, rfl, rfl⟩ := same
  rw [List.inj_on_of_nodup_map cluster.distinct member member' id]

theorem Gathers.ordered (gathers : Gathers clients firewall rules) (cluster : Cluster) :
    (firewall.resolve cluster).Pairwise fun earlier later => ∃ spot, FoundAt clients rules cluster spot earlier ∧
      ∀ other, FoundAt clients rules cluster other later → spot < other := by
  rw [gathers.resolve_eq]
  refine (firstOccurrences_pairwise (candidates_ordered clients rules cluster)).imp fun {earlier later} precedes => ?_
  obtain ⟨spot, found, first⟩ := precedes
  exact ⟨spot, mem_candidates.mp found, fun other again => first other (mem_candidates.mpr again)⟩

theorem Gathers.resolve_isPrefix (gathers : Gathers clients firewall rules) (rule : FirewallRule) (cluster : Cluster) :
    firewall.resolve cluster <+: (firewall.addRule rule).resolve cluster := by
  rw [gathers.resolve_eq, (gathers.addRule rule).resolve_eq, map_snd_candidates, map_snd_candidates, List.flatMap_append]
  exact firstOccurrences_isPrefix _ _

theorem Gathers.target_mem_resolve (gathers : Gathers clients firewall rules) {machine : Instance}
    (member : machine ∈ cluster.instances) {port : UInt16} {cidr : String} :
    machine.target port cidr ∈ firewall.resolve cluster ↔ ∃ rule ∈ rules, rule.Opens clients machine port cidr := by
  rw [gathers.mem_resolve]
  constructor
  · rintro ⟨rule, listed, other, member', port', cidr', opens, same⟩
    simp only [Instance.target, IngressTarget.mk.injEq] at same
    obtain ⟨id, _, rfl, rfl⟩ := same
    rw [List.inj_on_of_nodup_map cluster.distinct member member' id]
    exact ⟨rule, listed, opens⟩
  · rintro ⟨rule, listed, opens⟩
    exact ⟨rule, listed, machine, member, port, cidr, opens, rfl⟩

/-- Whatever is added to a firewall, in whatever order, a machine's port is open to a source exactly if some rule that was
added opens it. Every target is that of a machine with its address; there is one for each machine, port and source, and
they are in the order of the spots at which they are found first: by rule, machine, port and source. One more rule
leaves the targets in front as they are, and a rule without ports changes nothing. The same rules, in another order or more
than once, permit the same. -/
theorem expands_exactly (clients : List String) (additions : List Addition) (cluster : Cluster) :
    let firewall := (new clients).addAll additions
    let targets := firewall.resolve cluster
    (∀ machine ∈ cluster.instances, ∀ port cidr,
      machine.target port cidr ∈ targets ↔ ∃ rule ∈ added additions, rule.Opens clients machine port cidr) ∧
    (∀ target ∈ targets, ∃ machine ∈ cluster.instances, target = machine.target target.port target.cidr) ∧
    (targets.map IngressTarget.key).Nodup ∧
    (targets.Pairwise fun earlier later => ∃ spot, FoundAt clients (added additions) cluster spot earlier ∧
      ∀ other, FoundAt clients (added additions) cluster other later → spot < other) ∧
    (∀ rule, targets <+: (firewall.addRule rule).resolve cluster) ∧
    (∀ rule, rule.ports = .empty → firewall.addRule rule = firewall) ∧
    ∀ others, (∀ rule, rule ∈ added others ↔ rule ∈ added additions) →
      ∀ target, target ∈ ((new clients).addAll others).resolve cluster ↔ target ∈ targets := by
  intro firewall targets
  have gathers := gathers_addAll clients additions
  refine ⟨fun machine member port cidr => gathers.target_mem_resolve member, ?_, gathers.nodup_keys cluster,
    gathers.ordered cluster, fun rule => gathers.resolve_isPrefix rule cluster, ?_, ?_⟩
  · intro target resolved
    obtain ⟨_, _, machine, member, port, cidr, _, rfl⟩ := gathers.mem_resolve.mp resolved
    exact ⟨machine, member, rfl⟩
  · intro rule closed
    exact addRule_of_has (.inl (by rw [closed]; rfl))
  · intro others same target
    rw [(gathers_addAll clients others).mem_resolve, gathers.mem_resolve]
    simp only [same]

-- The rule for every machine comes first; the rule for a role adds what is new, and what was there stays where it was.
theorem expands_exactly_of_two :
    let front : Instance := ⟨⟨"i-1", some "54.0.0.1", none, .empty⟩, .ofList ["web"], none⟩
    let back : Instance := ⟨⟨"i-2", none, some "10.0.0.2", .empty⟩, .ofList ["web", "zookeeper"], none⟩
    let cluster : Cluster := ⟨"small", [front, back], .empty, by decide⟩
    let ssh : FirewallRule := ⟨.all, .ofList [22], []⟩
    let peers : FirewallRule := ⟨.carrying (.ofList ["zookeeper"]), .ofList [2181, 22], ["10.0.0.0/8", "0.0.0.0/0"]⟩
    let additions : List Addition := [.rule ssh, .rule peers, .rule ssh, .rule (.new .all)]
    let targets := ((new []).addAll additions).resolve cluster
    (back ∈ cluster.instances ∧ (FirewallRule.new .all).ports = .empty ∧
      ∀ rule, rule ∈ added [.rule (.new .all), .rule peers, .rule ssh] ↔ rule ∈ added additions) ∧
    targets = [front.target 22 "0.0.0.0/0", back.target 22 "0.0.0.0/0", back.target 22 "10.0.0.0/8",
      back.target 2181 "10.0.0.0/8", back.target 2181 "0.0.0.0/0"] ∧
    (∃ rule ∈ added additions, rule.Opens [] back 22 "10.0.0.0/8") ∧ (targets.map IngressTarget.key).Nodup ∧
    ((new []).addAll additions).addRule (.new .all) = (new []).addAll additions ∧
    ∀ target, target ∈ ((new []).addAll [.rule (.new .all), .rule peers, .rule ssh]).resolve cluster ↔ target ∈ targets := by
  intro front back cluster ssh peers additions targets
  have member : back ∈ cluster.instances := by decide
  have same (rule : FirewallRule) : rule ∈ added [.rule (.new .all), .rule peers, .rule ssh] ↔ rule ∈ added additions := by
    simp only [added, additions, Addition.rules, List.flatMap_cons, List.flatMap_nil, List.mem_append, List.mem_singleton]
    grind
  have resolved : targets = [front.target 22 "0.0.0.0/0", back.target 22 "0.0.0.0/0", back.target 22 "10.0.0.0/8",
      back.target 2181 "10.0.0.0/8", back.target 2181 "0.0.0.0/0"] := by decide +kernel
  obtain ⟨exact, _, once, _, _, closed, again⟩ := expands_exactly [] additions cluster
  refine ⟨⟨member, rfl, same⟩, resolved, (exact back member 22 "10.0.0.0/8").mp ?_, once, closed _ rfl, again _ same⟩
  have among : back.target 22 "10.0.0.0/8" ∈ targets := by rw [resolved]; simp
  exact among

end Firewall

end Muster
