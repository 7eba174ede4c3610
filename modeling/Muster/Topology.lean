import Muster.InstanceGroup
import Muster.SortedMap
import Muster.Text.Blank

/-!
The validated description of one cluster: what to launch, where, under which
account, and how each role is configured.
-/

namespace Muster

inductive StoreKind where
  | files
  | blob
  | memory
  | discard
  deriving DecidableEq, Repr

namespace StoreKind

def all : List StoreKind := [.files, .blob, .memory, .discard]

def name : StoreKind → String
  | files => "local"
  | blob => "blob"
  | memory => "memory"
  | discard => "none"

def ofName? (text : String) : Option StoreKind := all.find? fun kind => kind.name = text

theorem ofName?_name (kind : StoreKind) : ofName? kind.name = some kind := by
  cases kind <;> decide

end StoreKind

structure BlobSettings where
  provider : Option String
  endpoint : Option String
  identity : Option String
  credential : Option String
  locationId : Option String
  cacheContainer : Option String
  deriving DecidableEq

structure RoleConfig where
  env : SortedMap String String
  properties : SortedMap String String
  disallowColocation : List String
  deriving DecidableEq

namespace RoleConfig

def empty : RoleConfig := ⟨.empty, .empty, []⟩

def property (config : RoleConfig) (key : String) : Option String := config.properties.get? key

end RoleConfig

structure Topology where
  clusterName : String
  serviceName : Option String
  clusterUser : Option String
  groups : List InstanceGroup
  maxStartupRetries : UInt32
  maxConcurrentLaunches : UInt64
  terminateAllOnFailure : Bool
  provider : String
  endpoint : Option String
  identity : Option String
  credential : Option String
  blobStore : BlobSettings
  store : StoreKind
  storeContainer : Option String
  storeBlob : Option String
  clientCidrs : List String
  /-- Open ports by role; the keys `all` and the empty text stand for every instance. -/
  firewallRules : SortedMap String (List UInt16)
  env : SortedMap String String
  roles : SortedMap String RoleConfig
  hostnamePrefix : Option String
  hostnameSuffix : Option String
  jdkInstallUrl : Option String
  kerberosRealm : Option String
  deriving DecidableEq

def isClusterName (name : String) : Bool :=
  match name.toList with
  | [] => false
  | first :: rest =>
      first.isAlphanum && rest.all (fun c => c.isAlphanum || c = '_' || c = '-') &&
        rest.length ≤ 62

def isContainerEnd (c : Char) : Bool := c.isLower || c.isDigit

def isContainerName (name : String) : Bool :=
  let chars := name.toList
  3 ≤ chars.length && chars.length ≤ 63 &&
    chars.all (fun c => isContainerEnd c || c = '.' || c = '-') &&
    chars.head?.all isContainerEnd && chars.getLast?.all isContainerEnd

def reservedUsers : List String := ["root"]

def validateGroups (seen : List RoleSet) : List InstanceGroup → Except ConfigError Unit
  | [] => .ok ()
  | group :: rest =>
      match group.validate with
      | .error fault => .error fault
      | .ok () =>
          if group.roles ∈ seen then .error (.duplicateGroup group.roles)
          else validateGroups (group.roles :: seen) rest

namespace Topology

def validateName (topology : Topology) : Except ConfigError Unit :=
  if isClusterName topology.clusterName then .ok ()
  else .error (.invalid "cluster-name" ("'" ++ topology.clusterName ++
    "' must be 1-63 letters, digits, '-' or '_' and start with a letter or digit"))

def validateUser (topology : Topology) : Except ConfigError Unit :=
  match topology.clusterUser with
  | none => .ok ()
  | some user =>
      if user ∈ reservedUsers then
        .error (.invalid "cluster-user" ("'" ++ user ++
          "' is a reserved account; cluster-user must not be a privileged user"))
      else .ok ()

def validateLimits (topology : Topology) : Except ConfigError Unit :=
  if topology.maxConcurrentLaunches < 1 then
    .error (.invalid "max-concurrent-launches" "must be at least 1")
  else if Text.allBlank topology.provider then .error (.missing "provider")
  else .ok ()

def validateStore (topology : Topology) : Except ConfigError Unit :=
  match topology.storeContainer with
  | some container =>
      if isContainerName container then .ok ()
      else .error (.invalid "state-store-container"
        ("'" ++ container ++ "' is not a valid 3-63 character dns name"))
  | none => if topology.store = .blob then .error (.missing "state-store-container") else .ok ()

def validate (topology : Topology) : Except ConfigError Unit := do
  topology.validateName
  topology.validateUser
  if topology.groups.isEmpty then throw (.missing "instance-templates")
  validateGroups [] topology.groups
  topology.validateLimits
  topology.validateStore

def withClusterName (topology : Topology) (name : String) : Except ConfigError Topology :=
  let renamed := { topology with clusterName := name }
  renamed.validate.map fun () => renamed

def group? (topology : Topology) (roles : RoleSet) : Option InstanceGroup :=
  topology.groups.find? fun group => group.roles = roles

def updateGroup (topology : Topology) (roles : RoleSet) (change : InstanceGroup → InstanceGroup) :
    Topology :=
  match topology.groups.findIdx? fun group => group.roles = roles with
  | none => topology
  | some index => { topology with groups := topology.groups.modify index change }

def roleNames (topology : Topology) : RoleSet := rolesOf (topology.groups.map InstanceGroup.roles)

def roleConfig? (topology : Topology) (role : String) : Option RoleConfig := topology.roles.get? role

def roleProperty? (topology : Topology) (role key : String) : Option String :=
  (topology.roleConfig? role).bind fun config => config.property key

def totalTarget (topology : Topology) : UInt32 :=
  topology.groups.foldl (fun total group => total + group.target) 0

def isSimulated (topology : Topology) : Bool := topology.provider = "stub"

def blobIdentity (topology : Topology) : Option String :=
  topology.blobStore.identity.or topology.identity

def blobCredential (topology : Topology) : Option String :=
  topology.blobStore.credential.or topology.credential

def manifestBlob (topology : Topology) : String :=
  topology.storeBlob.getD ("stratus-" ++ topology.clusterName)

end Topology

end Muster
