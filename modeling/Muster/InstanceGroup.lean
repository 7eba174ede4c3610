import Muster.ConfigError

/-!
Groups of machines that all carry the same roles, and the number of healthy
machines at which a group counts as launched.
-/

namespace Muster

/-- A percentage of a count, rounded up. The product is taken in 64 bits and
the result is narrowed to 32. -/
def ceilPercent (count : UInt32) (percent : UInt8) : UInt32 :=
  ((count.toUInt64 * percent.toUInt64 + 99) / 100).toUInt32

structure InstanceGroup where
  roles : RoleSet
  target : UInt32
  minPercent : UInt8
  minInstances : UInt32
  deriving DecidableEq

namespace InstanceGroup

def new (roles : RoleSet) (target : UInt32) : InstanceGroup := ⟨roles, target, 100, target⟩

def withMinPercent (group : InstanceGroup) (percent : UInt8) : InstanceGroup :=
  { group with minPercent := percent }

def withMinInstances (group : InstanceGroup) (count : UInt32) : InstanceGroup :=
  { group with minInstances := count }

/-- The number of healthy machines at which the group counts as launched. -/
def required (group : InstanceGroup) : UInt32 :=
  let share := ceilPercent group.target group.minPercent
  if share ≤ group.minInstances then group.minInstances else share

def hasRole (group : InstanceGroup) (role : String) : Bool := group.roles.contains role

def text (group : InstanceGroup) : String := toString group.target.toNat ++ " " ++ group.roles.text

def percentFault (roles : RoleSet) (percent : Nat) : ConfigError :=
  .group roles ("minimum success percentage " ++ toString percent ++ " is not within 0..=100")

def validate (group : InstanceGroup) : Except ConfigError Unit :=
  if group.roles.isEmpty then .error (.group group.roles "declares no roles")
  else if group.target < 1 then .error (.group group.roles "instance count must be at least 1")
  else if 100 < group.minPercent then .error (percentFault group.roles group.minPercent.toNat)
  else if group.target < group.minInstances then
    .error (.group group.roles
      ("minimum number of instances " ++ toString group.minInstances.toNat ++
        " exceeds the instance count " ++ toString group.target.toNat))
  else .ok ()

end InstanceGroup

end Muster
