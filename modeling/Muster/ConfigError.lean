import Muster.RoleSet

/-!
What can be wrong with a description of a cluster, before anything is done
for it.
-/

namespace Muster

inductive ConfigError where
  | unreadable (detail : String)
  | template (text detail : String)
  | duplicateGroup (roles : RoleSet)
  | group (roles : RoleSet) (detail : String)
  | invalid (key detail : String)
  | missing (key : String)
  | noHandler (role : String)
  | providerUnavailable (provider : String)
  deriving DecidableEq

namespace ConfigError

def message : ConfigError → String
  | unreadable detail => "topology config could not be parsed: '" ++ detail ++ "'"
  | template text detail => "invalid instance template string '" ++ text ++ "': " ++ detail
  | duplicateGroup roles => "instance group [" ++ roles.text ++ "] is declared more than once"
  | group roles detail => "instance group [" ++ roles.text ++ "]: " ++ detail
  | invalid key detail => "illegal value for '" ++ key ++ "': " ++ detail
  | missing key => "missing required property '" ++ key ++ "'"
  | noHandler role => "no handler is registered for role '" ++ role ++ "'"
  | providerUnavailable provider =>
      "provider: '" ++ provider ++ "' is recognized but is not available on this build of Stratus"

end ConfigError

end Muster
