import Muster.Provider
import Muster.StatementQueue

/-!
The variables that a script exports, in layers: what the topology sets for all,
what is known of the cluster, what the topology sets for each role, and on a
running machine its addresses, its host names and what handlers export on it. A
later layer changes the value of a variable and not its place.
-/

namespace Muster

def defaultRealm : String := "STRATUSCLUSTER.COM"

def optionalExport (key : String) (value : Option String) : Exports :=
  value.toList.map fun value => (key, value)

/-- What is known of the cluster. A host name prefix counts only with a suffix. -/
def clusterExports (topology : Topology) (roles : RoleSet) : Exports :=
  let suffix := topology.hostnameSuffix.filter (· ≠ "")
  let hostnamePrefix := if suffix.isSome then topology.hostnamePrefix.filter (· ≠ "") else none
  [("CLUSTER_NAME", topology.clusterName)] ++
    optionalExport "CLUSTER_USER" topology.clusterUser ++
    [("CLOUD_PROVIDER", topology.provider)] ++
    optionalExport "AUTO_HOSTNAME_SUFFIX" suffix ++
    optionalExport "AUTO_HOSTNAME_PREFIX" hostnamePrefix ++
    optionalExport "JDK_INSTALL_URL" topology.jdkInstallUrl ++
    [("KERBEROS_REALM", topology.kerberosRealm.getD defaultRealm),
      ("ROLES", ",".intercalate roles.toList)]

def roleExports (topology : Topology) (roles : RoleSet) : Exports :=
  roles.toList.flatMap fun role => ((topology.roleConfig? role).map (·.env.toList)).getD []

def environment (topology : Topology) (roles : RoleSet) : Exports :=
  Exports.putAll []
    (topology.env.toList ++ clusterExports topology roles ++ roleExports topology roles)

def addressExports (node : Node) : Exports :=
  optionalExport "PUBLIC_IP" node.publicIp ++ optionalExport "PRIVATE_IP" node.privateIp

def hostExports (hosts : Option Hosts) : Exports :=
  optionalExport "PUBLIC_HOST_NAME" (hosts.bind Hosts.publicName) ++
    optionalExport "PRIVATE_HOST_NAME" (hosts.bind Hosts.privateName)

def instanceExports (topology : Topology) (machine : Instance) (hosts : Option Hosts)
    (queue : StatementQueue) : Exports :=
  Exports.putAll (environment topology machine.roles)
    (addressExports machine.node ++ hostExports hosts ++ (queue.exportsFor machine.id).getD [])

namespace Provider

variable {σ : Type}

def hosts (provider : Provider σ) (machine : Instance) (state : σ) :
    Except ProviderError Hosts × σ :=
  match machine.hosts with
  | some hosts => (.ok hosts, state)
  | none => provider.resolveHosts machine.node state

def environment (provider : Provider σ) (topology : Topology) (machine : Instance)
    (queue : StatementQueue) (state : σ) : Exports × Option Hosts × σ :=
  let (resolved, state) := provider.hosts machine state
  let hosts := resolved.toOption
  (instanceExports topology machine hosts queue, hosts, state)

end Provider

def Cluster.noteHosts (cluster : Cluster) (id : String) (hosts : Option Hosts) : Cluster :=
  match hosts with
  | none => cluster
  | some hosts => cluster.rememberHosts id hosts

end Muster
