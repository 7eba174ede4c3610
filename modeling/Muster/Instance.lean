import Muster.RoleSet
import Muster.SortedMap

/-!
The machines of a cluster. The provider knows a machine as a node; a cluster
knows it as an instance, which also has roles and, once they were found out, the
names of its hosts.
-/

namespace Muster

structure Node where
  id : String
  publicIp : Option String
  privateIp : Option String
  metadata : SortedMap String String
  deriving DecidableEq

structure Hosts where
  publicName : Option String
  privateName : Option String
  deriving DecidableEq

namespace Hosts

def unknown : Hosts := ⟨none, none⟩

end Hosts

structure Instance where
  node : Node
  roles : RoleSet
  /-- Found out once and kept from then on. -/
  hosts : Option Hosts
  deriving DecidableEq

namespace Instance

def ofNode (node : Node) (roles : RoleSet) : Instance := ⟨node, roles, none⟩

def id (machine : Instance) : String := machine.node.id

def hasRole (machine : Instance) (role : String) : Bool := machine.roles.contains role

/-- Where others reach the machine: its public address, else its private one, else
its id. -/
def address (machine : Instance) : String :=
  (machine.node.publicIp.or machine.node.privateIp).getD machine.id

def internalAddress (machine : Instance) : String :=
  machine.node.privateIp.getD machine.address

def text (machine : Instance) : String :=
  machine.id ++ " [" ++ machine.roles.text ++ "] " ++ machine.address

def sameMachine (machine other : Instance) : Bool := machine.id = other.id

end Instance

end Muster
