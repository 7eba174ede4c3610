import Muster.Launch.Report
import Muster.Placement
import Muster.Provider

/-!
Every way in which an operation on a cluster can fail, with its text, the exit
status of the command line, and whether it makes sense to try again.
-/

namespace Muster

inductive StoreError where
  | notFound (cluster : String)
  | corrupt (cluster detail : String)
  | writeFailed (cluster detail : String)
  deriving DecidableEq

namespace StoreError

def message : StoreError → String
  | notFound cluster => "no saved state for cluster '" ++ cluster ++ "'"
  | corrupt cluster detail =>
      "saved state for cluster '" ++ cluster ++ "' is corrupt: '" ++ detail ++ "'"
  | writeFailed cluster detail =>
      "could not write state for cluster '" ++ cluster ++ "': '" ++ detail ++ "'"

def isNotFound : StoreError → Bool
  | notFound _ => true
  | _ => false

def exitCode : StoreError → Nat
  | notFound _ => 40
  | corrupt .. => 41
  | writeFailed .. => 42

end StoreError

inductive Error where
  | config (error : ConfigError)
  | placement (error : PlacementError)
  | launch (error : LaunchError)
  | handler (role : String) (phase : Phase) (hook : Hook) (cause : Error)
  | store (error : StoreError)
  | provider (error : ProviderError)
  | note (text : String)
  deriving DecidableEq

namespace Error

def message : Error → String
  | config error => error.message
  | placement error => error.message
  | launch error => error.message
  | handler role phase hook cause =>
      "[" ++ phase.name ++ "] " ++ hook.name ++ " hook of role '" ++ role ++ "' failed: " ++
        cause.message
  | store error => error.message
  | provider error => error.message
  | note text => text

def exitCode : Error → Nat
  | config _ => 10
  | placement _ => 11
  | launch error => error.exitCode
  | handler .. => 30
  | store error => error.exitCode
  | provider _ => 22
  | note _ => 1

/-- A fatal error stays until somebody changes something; others may pass. -/
def isFatal : Error → Bool
  | config _ | placement _ => true
  | store error => !error.isNotFound
  | _ => false

end Error

end Muster
