import Muster.Cluster
import Muster.Text.Quoted
import Muster.Topology

/-!
Firewall rules and what they permit. A rule opens ports on some machines of a
cluster; spelled out against a cluster it becomes ingress targets, one for each
machine, port and source. What has been granted is remembered, so that it is
asked for once.
-/

namespace Muster

inductive Destination where
  | all
  | carrying (roles : RoleSet)
  | machine (id : String)
  deriving DecidableEq

namespace Destination

def covers (destination : Destination) (candidate : Instance) : Bool :=
  match destination with
  | all => true
  | carrying roles => candidate.roles.intersects roles
  | machine id => candidate.id = id

def text : Destination → String
  | all => "all"
  | carrying roles => "roles(" ++ roles.text ++ ")"
  | machine id => "instance(" ++ id ++ ")"

end Destination

/-- Opens `ports` on the destination to `sources`, or to the sources of the
topology where the rule names none. -/
structure FirewallRule where
  destination : Destination
  ports : SortedSet UInt16
  sources : List String
  deriving DecidableEq

namespace FirewallRule

def new (destination : Destination) : FirewallRule := ⟨destination, .empty, []⟩

def forRole (role : String) : FirewallRule := new (.carrying (.ofList [role]))

def withPorts (rule : FirewallRule) (ports : List UInt16) : FirewallRule :=
  { rule with ports := ports.foldl (fun set port => set.insert port) rule.ports }

def withSource (rule : FirewallRule) (cidr : String) : FirewallRule :=
  if cidr ∈ rule.sources then rule else { rule with sources := rule.sources ++ [cidr] }

def text (rule : FirewallRule) : String :=
  rule.destination.text ++ " ports \x7b" ++
    ", ".intercalate (rule.ports.toList.map fun port => toString port.toNat) ++ "\x7d from [" ++
    ", ".intercalate (rule.sources.map Text.quoted) ++ "]"

end FirewallRule

structure IngressTarget where
  id : String
  address : String
  port : UInt16
  cidr : String
  deriving DecidableEq

def IngressTarget.text (target : IngressTarget) : String :=
  target.cidr ++ " -> " ++ target.address ++ ":" ++ toString target.port.toNat ++ " (" ++ target.id ++ ")"

def firstOccurrences {α : Type} [DecidableEq α] (items : List α) : List α :=
  items.foldl (fun kept item => if item ∈ kept then kept else kept ++ [item]) []

structure Firewall where
  rules : List FirewallRule
  defaultSources : List String
  applied : List IngressTarget

namespace Firewall

def world : String := "0.0.0.0/0"

def new (cidrs : List String) : Firewall := ⟨[], if cidrs.isEmpty then [world] else cidrs, []⟩

def forTopology (topology : Topology) : Firewall := new topology.clientCidrs

/-- Adds a rule unless it opens nothing or is there already. -/
def addRule (firewall : Firewall) (rule : FirewallRule) : Firewall :=
  if rule.ports.isEmpty || rule ∈ firewall.rules then firewall
  else { firewall with rules := firewall.rules ++ [rule] }

def configRule (key : String) (ports : List UInt16) : FirewallRule :=
  (if key = "all" || key = "" then .new .all else FirewallRule.forRole key).withPorts ports

def addConfigRules (firewall : Firewall) (topology : Topology) : Firewall :=
  topology.firewallRules.toList.foldl
    (fun firewall entry => firewall.addRule (configRule entry.1 entry.2)) firewall

def sourcesOf (firewall : Firewall) (rule : FirewallRule) : List String :=
  if rule.sources.isEmpty then firewall.defaultSources else rule.sources

/-- What one rule permits: by machine in cluster order, port and source. -/
def expand (firewall : Firewall) (cluster : Cluster) (rule : FirewallRule) : List IngressTarget :=
  (cluster.instances.filter rule.destination.covers).flatMap fun machine =>
    rule.ports.toList.flatMap fun port =>
      (firewall.sourcesOf rule).map fun cidr => ⟨machine.id, machine.address, port, cidr⟩

def resolve (firewall : Firewall) (cluster : Cluster) : List IngressTarget :=
  firstOccurrences (firewall.rules.flatMap (firewall.expand cluster))

/-- What is permitted and has not been granted yet. -/
def pending (firewall : Firewall) (cluster : Cluster) : List IngressTarget :=
  (firewall.resolve cluster).filter fun target => target ∉ firewall.applied

def markApplied (firewall : Firewall) (targets : List IngressTarget) : Firewall :=
  { firewall with applied := firewall.applied ++ targets }

end Firewall

end Muster
