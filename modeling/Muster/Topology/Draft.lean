import Muster.BlobDefaults
import Muster.Template
import Muster.Text.Uppercase
import Muster.Topology
import Muster.Yaml.Typed

/-!
The settings of a topology as they are written, before anything is checked, and
the topology made from them. Every setting may be missing.
-/

namespace Muster

structure TopologyDraft where
  clusterName : Option String
  serviceName : Option String
  clusterUser : Option String
  templates : Option String
  minPercents : Option String
  minInstances : Option String
  maxStartupRetries : Option UInt32
  maxConcurrentLaunches : Option UInt64
  terminateAllOnFailure : Option Bool
  provider : Option String
  endpoint : Option String
  identity : Option String
  credential : Option String
  blobProvider : Option String
  blobEndpoint : Option String
  blobIdentity : Option String
  blobCredential : Option String
  blobLocationId : Option String
  blobCacheContainer : Option String
  store : Option StoreKind
  storeContainer : Option String
  storeBlob : Option String
  clientCidrs : List String
  firewallRules : SortedMap String (List UInt16)
  env : SortedMap String String
  roles : SortedMap String RoleConfig
  hostnamePrefix : Option String
  hostnameSuffix : Option String
  jdkInstallUrl : Option String
  kerberosRealm : Option String

namespace TopologyDraft

open Yaml Yaml.Reader

def defaultRetries : UInt32 := 1

def defaultConcurrency : UInt64 := 10

def percentsKey : String := "instance-templates-min-percent-success"

def minimumsKey : String := "instance-templates-minimum-number-of-instances"

def keys : List String :=
  ["cluster-name", "service-name", "cluster-user", "instance-templates", percentsKey, minimumsKey,
    "max-startup-retries", "max-concurrent-launches", "terminate-all-on-launch-failure", "provider",
    "endpoint", "identity", "credential", "blobstore-provider", "blobstore-endpoint",
    "blobstore-identity", "blobstore-credential", "blobstore-location-id",
    "blobstore-cache-container", "state-store", "state-store-container", "state-store-blob",
    "client-cidrs", "firewall-rules", "env", "roles", "auto-hostname-prefix",
    "auto-hostname-suffix", "jdk-install-url", "kerberos-realm"]

def otherKeys : List (String × String) :=
  [("instance-templates-max-percent-failures", percentsKey)]

def readTexts (node : Yaml.Node) : Reader (SortedMap String String) :=
  .ofList <$> table text node

def readRole (node : Yaml.Node) : Reader RoleConfig := do
  let fields ← record ["env", "properties", "disallow-colocation"] [] node
  return {
    env := ← fieldD fields "env" .empty readTexts
    properties := ← fieldD fields "properties" .empty readTexts
    disallowColocation := ← fieldD fields "disallow-colocation" [] (items text) }

def readPorts (node : Yaml.Node) : Reader (List UInt16) :=
  items (fun port => UInt16.ofNat <$> natural 16 port) node

def read (node : Yaml.Node) : Reader TopologyDraft := do
  let fields ← record keys otherKeys node
  let words (key : String) : Reader (Option String) := field fields key text
  return {
    clusterName := ← words "cluster-name"
    serviceName := ← words "service-name"
    clusterUser := ← words "cluster-user"
    templates := ← words "instance-templates"
    minPercents := ← words percentsKey
    minInstances := ← words minimumsKey
    maxStartupRetries :=
      ← field fields "max-startup-retries" fun node => UInt32.ofNat <$> natural 32 node
    maxConcurrentLaunches :=
      ← field fields "max-concurrent-launches" fun node => UInt64.ofNat <$> natural 64 node
    terminateAllOnFailure := ← field fields "terminate-all-on-launch-failure" flag
    provider := ← words "provider"
    endpoint := ← words "endpoint"
    identity := ← words "identity"
    credential := ← words "credential"
    blobProvider := ← words "blobstore-provider"
    blobEndpoint := ← words "blobstore-endpoint"
    blobIdentity := ← words "blobstore-identity"
    blobCredential := ← words "blobstore-credential"
    blobLocationId := ← words "blobstore-location-id"
    blobCacheContainer := ← words "blobstore-cache-container"
    store := ← field fields "state-store" (choice StoreKind.ofName?)
    storeContainer := ← words "state-store-container"
    storeBlob := ← words "state-store-blob"
    clientCidrs := ← fieldD fields "client-cidrs" [] (items text)
    firewallRules :=
      ← fieldD fields "firewall-rules" .empty fun node => .ofList <$> table readPorts node
    env := ← fieldD fields "env" .empty readTexts
    roles := ← fieldD fields "roles" .empty fun node => .ofList <$> table readRole node
    hostnamePrefix := ← words "auto-hostname-prefix"
    hostnameSuffix := ← words "auto-hostname-suffix"
    jdkInstallUrl := ← words "jdk-install-url"
    kerberosRealm := ← words "kerberos-realm" }

def empty : TopologyDraft where
  clusterName := none
  serviceName := none
  clusterUser := none
  templates := none
  minPercents := none
  minInstances := none
  maxStartupRetries := none
  maxConcurrentLaunches := none
  terminateAllOnFailure := none
  provider := none
  endpoint := none
  identity := none
  credential := none
  blobProvider := none
  blobEndpoint := none
  blobIdentity := none
  blobCredential := none
  blobLocationId := none
  blobCacheContainer := none
  store := none
  storeContainer := none
  storeBlob := none
  clientCidrs := []
  firewallRules := .empty
  env := .empty
  roles := .empty
  hostnamePrefix := none
  hostnameSuffix := none
  jdkInstallUrl := none
  kerberosRealm := none

def ofYaml (source : String) : Except ConfigError TopologyDraft :=
  match (Document.ofText? source).bind fun document => document.read empty read with
  | none => .error (.unreadable "")
  | some draft => .ok draft

/-! ### From settings to a topology -/

def addOverrides (key : String) (numbers : SortedMap RoleSet UInt32) :
    List (UInt32 × RoleSet) → Except ConfigError (SortedMap RoleSet UInt32)
  | [] => .ok numbers
  | (number, roles) :: rest =>
      if numbers.contains roles then
        .error (.invalid key ("instance group [" ++ roles.text ++ "] is listed twice"))
      else addOverrides key (numbers.insert roles number) rest

def overrides (key : String) (written : Option String) :
    Except ConfigError (SortedMap RoleSet UInt32) :=
  match written with
  | none => .ok .empty
  | some list => do addOverrides key .empty (← Template.counted list)

/-- The group of one entry of the templates. Without a minimum of its own the group
needs the percentage of its machines, one hundred at most. -/
def group (percents minimums : SortedMap RoleSet UInt32) (entry : UInt32 × RoleSet) :
    Except ConfigError InstanceGroup :=
  let target := entry.1
  let roles := entry.2
  let percent := percents.getD roles 100
  if 255 < percent then .error (InstanceGroup.percentFault roles percent.toNat)
  else
    let percent := percent.toUInt8
    let minimum := minimums.getD roles (ceilPercent target (if percent ≤ 100 then percent else 100))
    .ok ⟨roles, target, percent, minimum⟩

def undeclared (groups : List InstanceGroup) (percents minimums : SortedMap RoleSet UInt32) :
    Option RoleSet :=
  (percents.keys ++ minimums.keys).find? fun roles => !groups.any fun group => group.roles = roles

def required (key : String) (setting : Option String) : Except ConfigError String :=
  match setting with
  | none => .error (.missing key)
  | some value => .ok value

def assemble (draft : TopologyDraft) (defaults : BlobDefaults) (clusterName provider : String)
    (groups : List InstanceGroup) : Topology where
  clusterName
  serviceName := draft.serviceName
  clusterUser := draft.clusterUser
  groups
  maxStartupRetries := draft.maxStartupRetries.getD defaultRetries
  maxConcurrentLaunches := draft.maxConcurrentLaunches.getD defaultConcurrency
  terminateAllOnFailure := draft.terminateAllOnFailure.getD true
  provider
  endpoint := draft.endpoint
  identity := draft.identity
  credential := draft.credential
  blobStore := {
    provider := draft.blobProvider.or (defaults.get? provider)
    endpoint := draft.blobEndpoint
    identity := draft.blobIdentity
    credential := draft.blobCredential
    locationId := draft.blobLocationId
    cacheContainer := draft.blobCacheContainer }
  store := draft.store.getD .files
  storeContainer := draft.storeContainer
  storeBlob := draft.storeBlob
  clientCidrs := draft.clientCidrs
  firewallRules := draft.firewallRules
  env := .ofList (draft.env.toList.map fun (key, value) => (Text.uppercase key, value))
  roles := draft.roles
  hostnamePrefix := draft.hostnamePrefix
  hostnameSuffix := draft.hostnameSuffix
  jdkInstallUrl := draft.jdkInstallUrl
  kerberosRealm := draft.kerberosRealm

/-- The valid topology of a draft, or its first fault. Names of exported variables
become upper case; of names that become the same the last one's value counts. -/
def create (draft : TopologyDraft) (defaults : BlobDefaults) : Except ConfigError Topology := do
  let clusterName ← required "cluster-name" draft.clusterName
  let provider ← required "provider" draft.provider
  let templates ← required "instance-templates" draft.templates
  let percents ← overrides percentsKey draft.minPercents
  let minimums ← overrides minimumsKey draft.minInstances
  let groups ← (← Template.counted templates).mapM (group percents minimums)
  match undeclared groups percents minimums with
  | some roles =>
      throw (.group roles
        "an override names an instance group that is not declared in instance-templates")
  | none =>
      let topology := draft.assemble defaults clusterName provider groups
      topology.validate
      return topology

end TopologyDraft

namespace Topology

def parseWith (source : String) (defaults : BlobDefaults) : Except ConfigError Topology := do
  (← TopologyDraft.ofYaml source).create defaults

def parse (source : String) : Except ConfigError Topology := parseWith source .builtIn

end Topology

end Muster
