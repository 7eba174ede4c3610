import Muster.Duration
import Muster.Firewall
import Muster.Script

/-!
The boundary to the cloud. A provider answers requests and changes its own state
`σ` with each of them; nothing else is known of it. Creating a machine has two
ends: it begins, and later it is finished or dropped. It may crash at either end.
Checking a machine's readiness takes time too, but leaves nothing behind when it
is interrupted.
-/

namespace Muster

inductive ProviderError where
  | failed (detail : String)
  | notReady (id detail : String)
  | unresolved (id detail : String)
  | statements (id detail : String)
  | timedOut (limit : Duration)
  | blobNotFound (name : String)
  deriving DecidableEq

namespace ProviderError

def message : ProviderError → String
  | failed detail => "provider error: '" ++ detail ++ "'"
  | notReady id detail => "instance '" ++ id ++ "' did not become ready: '" ++ detail ++ "'"
  | unresolved id detail =>
      "could not resolve addresses of instance '" ++ id ++ "': '" ++ detail ++ "'"
  | statements id detail => "statements failed on instance '" ++ id ++ "': '" ++ detail ++ "'"
  | timedOut limit => "instance creation timed out after " ++ limit.text
  | blobNotFound name => "blob '" ++ name ++ "' not found"

end ProviderError

structure InstanceSpec where
  clusterName : String
  roles : RoleSet
  bootstrap : Script
  deriving DecidableEq

/-- How a creation begins: it ends at once without an answer, or it goes on for
some milliseconds. -/
inductive Beginning where
  | crashed
  | working (millis : Nat)
  deriving DecidableEq

structure Provider (σ : Type) where
  beginCreate : InstanceSpec → σ → Beginning × σ
  /-- Without an answer the creation has crashed. -/
  finishCreate : InstanceSpec → σ → Option (Except ProviderError Node) × σ
  dropCreate : InstanceSpec → σ → σ
  readyMillis : Node → σ → Nat
  checkReady : Node → σ → Except ProviderError Unit × σ
  destroy : List String → σ → Except ProviderError Unit × σ
  resolveHosts : Node → σ → Except ProviderError Hosts × σ
  runScript : Node → Script → σ → Except ProviderError Unit × σ
  authorize : List IngressTarget → σ → Except ProviderError Unit × σ

namespace Provider

variable {σ : Type}

def create (provider : Provider σ) (spec : InstanceSpec) (state : σ) :
    Option (Except ProviderError Node) × σ :=
  match provider.beginCreate spec state with
  | (.crashed, state) => (none, state)
  | (.working _, state) => provider.finishCreate spec state

def createMany (provider : Provider σ) (spec : InstanceSpec) :
    Nat → σ → List (Option (Except ProviderError Node)) × σ
  | 0, state => ([], state)
  | count + 1, state =>
      let (result, state) := provider.create spec state
      let (results, state) := provider.createMany spec count state
      (result :: results, state)

end Provider

end Muster
