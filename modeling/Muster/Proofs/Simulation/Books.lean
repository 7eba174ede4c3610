import Mathlib.Data.List.Basic
import Mathlib.Data.List.Nodup
import Muster.Provider.Simulated

/-!
The books of the simulated provider: which machines there are, and under which ids.
Machines are numbered in the order in which they are created, no two numbers give the
same id or a common address, and only a creation that succeeds adds to the books.
-/

namespace Muster.Simulation

/-! ### Ids -/

def machineId (number : Nat) : String := "stub-" ++ .ofList (Text.paddedDigits 5 number)

theorem machineId_injective {m n : Nat} (same : machineId m = machineId n) : m = n := by
  have digits := congrArg String.toList same
  simp only [machineId, String.toList_append, String.toList_ofList, List.append_cancel_left_eq] at digits
  exact Text.paddedDigits_injective 5 digits

def machineIds (first count : Nat) : List String := (List.range' (first + 1) count).map machineId

theorem machineIds_nodup (first count : Nat) : (machineIds first count).Nodup := by
  unfold machineIds
  refine List.Nodup.map ?_ List.nodup_range'
  intro _ _ same
  exact machineId_injective same

theorem machineIds_succ (first count : Nat) :
    machineIds first (count + 1) = machineIds first count ++ [machineId (first + count + 1)] := by
  simp [machineIds, List.range'_concat, Nat.add_right_comm]

/-! ### Addresses -/

def host (number : Nat) : String := toString (number / 250) ++ "." ++ toString (number % 250 + 1)

theorem toList_host (number : Nat) : (host number).toList =
    Text.decimalDigits (number / 250) ++ '.' :: Text.decimalDigits (number % 250 + 1) := by
  simp [host, Text.decimalDigits]

theorem dot_notMem_digits (n : Nat) : '.' ∉ Text.decimalDigits n := by
  intro member
  have digit : '.'.isDigit = true := Nat.isDigit_of_mem_toDigits (by decide) (by decide) member
  exact absurd digit (by decide)

-- The dot tells the quotient from the remainder, and the two tell the number.
theorem host_injective {m n : Nat} (same : host m = host n) : m = n := by
  have texts := congrArg String.toList same
  rw [toList_host, toList_host, List.append_cons_inj_of_notMem (dot_notMem_digits _) (dot_notMem_digits _)] at texts
  have quotients := Text.decimalDigits_injective texts.1
  have remainders := Text.decimalDigits_injective texts.2.2
  omega

def publicAddress (number : Nat) : String := "203.0." ++ host number

def privateAddress (number : Nat) : String := "10.0." ++ host number

theorem publicAddress_injective {m n : Nat} (same : publicAddress m = publicAddress n) : m = n :=
  host_injective (String.append_right_inj _ |>.mp same)

theorem privateAddress_injective {m n : Nat} (same : privateAddress m = privateAddress n) : m = n :=
  host_injective (String.append_right_inj _ |>.mp same)

theorem publicAddress_ne_privateAddress (m n : Nat) : publicAddress m ≠ privateAddress n := by
  intro same
  have texts := congrArg String.toList same
  simp [publicAddress, privateAddress] at texts

def addressesOf (number : Nat) : List String := [publicAddress number, privateAddress number]

theorem number_of_address {m n : Nat} {address : String} (one : address ∈ addressesOf m)
    (other : address ∈ addressesOf n) : m = n := by
  simp only [addressesOf, List.mem_cons, List.not_mem_nil, or_false] at one other
  rcases one with rfl | rfl <;> rcases other with same | same
  · exact publicAddress_injective same
  · exact absurd same (publicAddress_ne_privateAddress m n)
  · exact absurd same.symm (publicAddress_ne_privateAddress n m)
  · exact privateAddress_injective same

theorem addresses_nodup (first count : Nat) : ((List.range' (first + 1) count).flatMap addressesOf).Nodup := by
  refine List.nodup_flatMap.mpr ⟨fun number _ => ?_, ?_⟩
  · simp [addressesOf, publicAddress_ne_privateAddress]
  · have distinct : (List.range' (first + 1) count).Nodup := List.nodup_range'
    refine List.Pairwise.imp ?_ distinct
    intro m n different address one other
    exact different (number_of_address one other)

/-! ### What answers leave -/

def ended (simulation : Simulation) (roles : RoleSet) : Simulation :=
  { simulation.dropCreate with attempts := simulation.attempts.modify roles 0 (· + 1) }

-- A creation is told to fail always, told to fail this time, or makes a machine.
theorem finishCreate_cases (simulation : Simulation) (spec : InstanceSpec) :
    let due := simulation.dueFor spec.roles
    (due.createAlways = true ∧
      simulation.finishCreate spec = (.error (creationFailure spec.roles), simulation.ended spec.roles)) ∨
    (due.createAlways = false ∧ 0 < due.create ∧
      simulation.finishCreate spec = (.error (creationFailure spec.roles),
        (simulation.ended spec.roles).setDue spec.roles { due with create := due.create - 1 })) ∨
    (due.createAlways = false ∧ due.create = 0 ∧
      simulation.finishCreate spec =
        (.ok (shown simulation.faults (nodeNumbered (simulation.sequence + 1) spec.clusterName)),
          ((simulation.ended spec.roles).launch spec).2)) := by
  intro due
  unfold finishCreate
  dsimp only
  split
  · rename_i always
    exact .inl ⟨always, rfl⟩
  · rename_i sometimes
    have sometimes : due.createAlways = false := Bool.eq_false_iff.mpr sometimes
    split
    · rename_i some
      exact .inr (.inl ⟨sometimes, some, rfl⟩)
    · rename_i none
      exact .inr (.inr ⟨sometimes, Nat.eq_zero_of_not_pos none, rfl⟩)

-- A machine is unknown, is told to fail its check, or passes it.
theorem checkReady_cases (simulation : Simulation) (id : String) :
    (simulation.rolesById.get? id = none ∧
      simulation.checkReady id = (.error (.notReady id "unknown machine"), simulation)) ∨
    ∃ roles, simulation.rolesById.get? id = some roles ∧
      let due := simulation.dueFor roles
      (0 < due.ready ∧ simulation.checkReady id = (.error (.notReady id "injected readiness failure"),
        simulation.setDue roles { due with ready := due.ready - 1 })) ∨
      (due.ready = 0 ∧ simulation.checkReady id = (.ok (), simulation)) := by
  unfold checkReady
  split
  · rename_i unknown
    exact .inl ⟨unknown, rfl⟩
  · rename_i roles known
    refine .inr ⟨roles, known, ?_⟩
    dsimp only
    split
    · rename_i some
      exact .inl ⟨some, rfl⟩
    · rename_i none
      exact .inr ⟨Nat.eq_zero_of_not_pos none, rfl⟩

/-! ### Machines -/

def createdIds (simulation : Simulation) : List String := simulation.created.map Node.id

def SameMachines (before after : Simulation) : Prop :=
  after.sequence = before.sequence ∧ after.created = before.created

theorem beginCreate_sameMachines (simulation : Simulation) :
    SameMachines simulation simulation.beginCreate.2 := by
  unfold beginCreate
  split <;> exact ⟨rfl, rfl⟩

theorem dropCreate_sameMachines (simulation : Simulation) :
    SameMachines simulation simulation.dropCreate := ⟨rfl, rfl⟩

theorem checkReady_sameMachines (simulation : Simulation) (id : String) :
    SameMachines simulation (simulation.checkReady id).2 := by
  obtain ⟨_, answer⟩ | ⟨_, _, ⟨_, answer⟩ | ⟨_, answer⟩⟩ := simulation.checkReady_cases id <;>
    rw [answer] <;> exact ⟨rfl, rfl⟩

theorem destroy_sameMachines (simulation : Simulation) (ids : List String) :
    SameMachines simulation (simulation.destroy ids).2 := by
  unfold destroy
  split <;> exact ⟨rfl, rfl⟩

-- A creation adds the machine that it answers, under the next number, or nothing.
theorem finishCreate_books (simulation : Simulation) (spec : InstanceSpec) :
    (∃ error, (simulation.finishCreate spec).1 = .error error ∧
      SameMachines simulation (simulation.finishCreate spec).2) ∨
    (∃ node, (simulation.finishCreate spec).1 = .ok node ∧
      node.id = machineId (simulation.sequence + 1) ∧
      (simulation.finishCreate spec).2.sequence = simulation.sequence + 1 ∧
      (simulation.finishCreate spec).2.createdIds = simulation.createdIds ++ [node.id]) := by
  obtain ⟨_, answer⟩ | ⟨_, _, answer⟩ | ⟨_, _, answer⟩ := simulation.finishCreate_cases spec <;> rw [answer]
  · exact .inl ⟨_, rfl, rfl, rfl⟩
  · exact .inl ⟨_, rfl, rfl, rfl⟩
  · refine .inr ⟨_, rfl, rfl, rfl, ?_⟩
    simp [createdIds, launch, ended, dropCreate, shown]

end Muster.Simulation
