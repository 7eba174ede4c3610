import Muster.Handler
import Muster.Text.Digits

/-!
Handlers that need nothing but the settings of their role. In every phase such a
handler queues one function call; in CONFIGURE it also opens the role's ports and
passes the addresses of the role's machines to the function, and afterwards
publishes them as the property `<role>.hosts` of the cluster.
-/

namespace Muster.Handler.Scripted

variable {σ : Type}

def portsKey : String := "ports"

def retryHelpersKey : String := "retry-helpers"

def retryHelpers : Statement := .function "retry_helpers"

def hostsKey (role : String) : String := role ++ ".hosts"

def defaultFunction (role : String) (phase : Phase) : String :=
  phase.verb ++ "_" ++ .ofList (role.toList.map fun c => if c = '-' then '_' else c)

def function (topology : Topology) (role : String) (phase : Phase) : String :=
  (topology.roleProperty? role phase.functionKey).getD (defaultFunction role phase)

/-- A port: decimal digits, after a plus sign or not, of a value below `2 ^ 16`. -/
def readPort (text : List Char) : Option UInt16 :=
  let digits := if text.head? = some '+' then text.tail else text
  if digits.isEmpty || !digits.all Char.isDigit then none
  else if Text.decimalValue digits < 65536 then some (.ofNat (Text.decimalValue digits)) else none

def readPorts (role text : String) : Except ConfigError (List UInt16) :=
  let entries := (text.toList.splitOn ',').map Text.trimChars
  (entries.filter fun entry => !entry.isEmpty).mapM fun entry =>
    match readPort entry with
    | some port => .ok port
    | none =>
        .error (.invalid ("roles." ++ role ++ ".properties." ++ portsKey)
          ("'" ++ .ofList entry ++ "' is not a port"))

def ports (topology : Topology) (role : String) : Except ConfigError (List UInt16) :=
  match topology.roleProperty? role portsKey with
  | none => .ok []
  | some text => readPorts role text

def hosts (cluster : Cluster) (role : String) : List String :=
  (cluster.withRole role).map Instance.internalAddress

def statements (topology : Topology) (role : String) (phase : Phase) (args : List String) :
    List Statement :=
  let call := Statement.call (function topology role phase) args
  if topology.roleProperty? role retryHelpersKey = some "false" then [call] else [retryHelpers, call]

def queue (topology : Topology) (role : String) (phase : Phase) (args : List String)
    (event : PhaseEvent σ) : PhaseEvent σ :=
  { event with
    queue := (statements topology role phase args).foldl (fun queue statement =>
      queue.add role statement) event.queue }

def beforeConfigure (role : String) : HookAction σ := fun topology event =>
  match ports topology role with
  | .error error => (.error (.config error), event)
  | .ok ports =>
      let rule := (FirewallRule.forRole role).withPorts ports
      let opened := { event with firewall := event.firewall.addRule rule }
      (.ok (), queue topology role .configure (hosts event.cluster role) opened)

def afterConfigure (role : String) : HookAction σ := fun _ event =>
  (.ok (), { event with
    cluster := event.cluster.setProperty (hostsKey role)
      (",".intercalate (hosts event.cluster role)) })

end Scripted

variable {σ : Type}

open Scripted in
def scripted (role : String) : Handler σ where
  role
  disallowed := []
  hook := fun
    | .before, .configure => beforeConfigure role
    | .before, phase => fun topology event => (.ok (), Scripted.queue topology role phase [] event)
    | .after, .configure => afterConfigure role
    | .after, _ => .nothing

end Muster.Handler

namespace Muster.Registry

variable {σ : Type}

def withScripted (registry : Registry σ) (topology : Topology) : Registry σ :=
  topology.roleNames.toList.foldl
    (fun registry role =>
      if registry.contains role then registry else registry.register (.scripted role)) registry

end Muster.Registry
