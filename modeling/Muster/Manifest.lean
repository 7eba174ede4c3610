import Muster.Error
import Muster.Json
import Muster.Timestamp

/-!
The saved form of a cluster: a record for each machine, the properties and the
moment of saving, written as JSON.
-/

namespace Muster

structure InstanceRecord where
  id : String
  roles : RoleSet
  publicIp : Option String
  privateIp : Option String
  publicHost : Option String
  privateHost : Option String
  metadata : SortedMap String String
  deriving DecidableEq

structure Manifest where
  clusterName : String
  instances : List InstanceRecord
  properties : SortedMap String String
  savedAt : Timestamp
  deriving DecidableEq

namespace InstanceRecord

def ofInstance (machine : Instance) : InstanceRecord :=
  let hosts := machine.hosts.getD .unknown
  { id := machine.id
    roles := machine.roles
    publicIp := machine.node.publicIp
    privateIp := machine.node.privateIp
    publicHost := hosts.publicName
    privateHost := hosts.privateName
    metadata := machine.node.metadata }

/-- The host names of a record, which are known when it has one of the two. -/
def hosts (record : InstanceRecord) : Option Hosts :=
  match record.publicHost, record.privateHost with
  | none, none => none
  | publicName, privateName => some ⟨publicName, privateName⟩

def toInstance (record : InstanceRecord) : Instance where
  node := ⟨record.id, record.publicIp, record.privateIp, record.metadata⟩
  roles := record.roles
  hosts := record.hosts

def fields : List String :=
  ["id", "roles", "public_ip", "private_ip", "public_host", "private_host", "metadata"]

def textsJson (texts : SortedMap String String) : Json :=
  .ofMembers (texts.toList.map fun (key, value) => (key, .ofText value))

def rolesJson (roles : RoleSet) : Json := .array (roles.toList.map Json.ofText)

def toJson (record : InstanceRecord) : Json :=
  .ofMembers [("id", .ofText record.id), ("roles", rolesJson record.roles),
    ("public_ip", .ofText? record.publicIp), ("private_ip", .ofText? record.privateIp),
    ("public_host", .ofText? record.publicHost), ("private_host", .ofText? record.privateHost),
    ("metadata", textsJson record.metadata)]

def readTexts (json : Json) : Option (SortedMap String String) := do
  let members ← json.asMembers?
  let texts ← members.mapM fun (key, value) => value.asText?.map fun text => (key, text)
  return .ofList texts

def readRoles (json : Json) : Option RoleSet := do
  let items ← json.asItems?
  return .ofList (← items.mapM Json.asText?)

def readOptional (inArray : Bool) : Option Json → Option (Option String)
  | none => if inArray then none else some none
  | some json => json.asOptionalText?

def readTextsD : Option Json → Option (SortedMap String String)
  | none => some .empty
  | some json => readTexts json

def ofJson? (json : Json) : Option InstanceRecord := do
  match ← json.asRecord? fields with
  | [id, roles, publicIp, privateIp, publicHost, privateHost, metadata] =>
      return {
        id := ← (← id).asText?
        roles := ← readRoles (← roles)
        publicIp := ← readOptional json.isArray publicIp
        privateIp := ← readOptional json.isArray privateIp
        publicHost := ← readOptional json.isArray publicHost
        privateHost := ← readOptional json.isArray privateHost
        metadata := ← readTextsD metadata }
  | _ => none

end InstanceRecord

namespace Manifest

def ofCluster (cluster : Cluster) (savedAt : Timestamp) : Manifest :=
  ⟨cluster.name, cluster.instances.map .ofInstance, cluster.properties, savedAt⟩

/-- The cluster of a manifest. Of records with one id the first counts. -/
def toCluster (manifest : Manifest) : Cluster :=
  (Cluster.ofInstances manifest.clusterName (manifest.instances.map InstanceRecord.toInstance)).setProperties
    manifest.properties

def fields : List String := ["cluster_name", "instances", "properties", "saved_at"]

def toJson (manifest : Manifest) : Json :=
  .ofMembers [("cluster_name", .ofText manifest.clusterName),
    ("instances", .array (manifest.instances.map InstanceRecord.toJson)),
    ("properties", InstanceRecord.textsJson manifest.properties),
    ("saved_at", .ofText manifest.savedAt.text)]

def ofJson? (json : Json) : Option Manifest := do
  match ← json.asRecord? fields with
  | [name, instances, properties, savedAt] =>
      return {
        clusterName := ← (← name).asText?
        instances := ← (← (← instances).asItems?).mapM InstanceRecord.ofJson?
        properties := ← InstanceRecord.readTextsD properties
        savedAt := ← Timestamp.ofText? (← (← savedAt).asText?) }
  | _ => none

def encode (manifest : Manifest) : String := manifest.toJson.text

def decode (cluster text : String) : Except StoreError Manifest :=
  match (Json.read? text).bind ofJson? with
  | none => .error (.corrupt cluster "")
  | some manifest => .ok manifest

end Manifest

end Muster
