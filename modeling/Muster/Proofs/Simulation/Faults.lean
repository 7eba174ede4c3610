import Muster.Proofs.Simulation.Books

/-!
Which failures the simulated provider has left after a request. A request spends at most
one of them, of the role set that it is about, and only if it fails. The provider knows
the roles of every machine that it has created.
-/

namespace Muster.Simulation

structure Calm (simulation : Simulation) : Prop where
  crashes : simulation.faults.crashes = 0
  destroys : simulation.faults.failDestroy = false

def Knows (simulation : Simulation) (id : String) (roles : RoleSet) : Prop :=
  simulation.rolesById.get? id = some roles ∧ ∃ number ≤ simulation.sequence, id = machineId number

theorem dueFor_setDue (simulation : Simulation) (roles other : RoleSet) (due : DueFailures) :
    (simulation.setDue roles due).dueFor other =
      if other = roles then due else simulation.dueFor other := by
  simp only [dueFor, setDue, SortedMap.getD, SortedMap.get?_insert]
  split <;> rfl

theorem beginCreate_calm {simulation : Simulation} (calm : simulation.Calm) :
    simulation.beginCreate = (.working simulation.faults.createMillis,
      { simulation with
        inFlight := simulation.inFlight + 1
        maxInFlight := max simulation.maxInFlight (simulation.inFlight + 1) }) := by
  simp [beginCreate, calm.crashes]

theorem finishCreate_of_answer {simulation after : Simulation} {spec : InstanceSpec}
    {result : Except ProviderError Node}
    (answer : provider.finishCreate spec simulation = (some result, after)) :
    simulation.finishCreate spec = (result, after) := by
  have first : (simulation.finishCreate spec).1 = result := Option.some.inj (congrArg Prod.fst answer)
  have second : (simulation.finishCreate spec).2 = after := congrArg Prod.snd answer
  exact Prod.ext first second

theorem dueFor_of_faults {before after : Simulation} (same : after.faults = before.faults)
    (roles : RoleSet) : after.dueFor roles = before.dueFor roles := by
  simp only [dueFor, same]

-- A creation succeeds when none is due to fail.
theorem finishCreate_ok {simulation after : Simulation} {spec : InstanceSpec} {node : Node}
    (answer : simulation.finishCreate spec = (.ok node, after)) :
    (simulation.dueFor spec.roles).createAlways = false ∧ (simulation.dueFor spec.roles).create = 0 ∧
      after.faults = simulation.faults ∧ after.sequence = simulation.sequence + 1 ∧
      node.id = machineId (simulation.sequence + 1) ∧
      after.rolesById = simulation.rolesById.insert node.id spec.roles := by
  obtain ⟨_, refused⟩ | ⟨_, _, refused⟩ | ⟨sometimes, none, created⟩ := simulation.finishCreate_cases spec
  · cases refused.symm.trans answer
  · cases refused.symm.trans answer
  · cases created.symm.trans answer
    exact ⟨sometimes, none, rfl, rfl, rfl, rfl⟩

theorem finishCreate_error {simulation after : Simulation} {spec : InstanceSpec} {error : ProviderError}
    (answer : simulation.finishCreate spec = (.error error, after)) :
    after.sequence = simulation.sequence ∧ after.rolesById = simulation.rolesById ∧
    ((simulation.dueFor spec.roles).createAlways = true ∧ after.faults = simulation.faults ∨
      (simulation.dueFor spec.roles).createAlways = false ∧ 0 < (simulation.dueFor spec.roles).create ∧
        after.faults = (simulation.setDue spec.roles { simulation.dueFor spec.roles with
          create := (simulation.dueFor spec.roles).create - 1 }).faults) := by
  obtain ⟨always, refused⟩ | ⟨sometimes, some, refused⟩ | ⟨_, _, created⟩ := simulation.finishCreate_cases spec
  · cases refused.symm.trans answer
    exact ⟨rfl, rfl, .inl ⟨always, rfl⟩⟩
  · cases refused.symm.trans answer
    exact ⟨rfl, rfl, .inr ⟨sometimes, some, rfl⟩⟩
  · cases created.symm.trans answer

theorem checkReady_ok {simulation after : Simulation} {id : String} {roles : RoleSet}
    (known : simulation.Knows id roles) (answer : simulation.checkReady id = (.ok (), after)) :
    (simulation.dueFor roles).ready = 0 ∧ after = simulation := by
  obtain ⟨unknown, _⟩ | ⟨_, here, ⟨_, refused⟩ | ⟨none, passed⟩⟩ := simulation.checkReady_cases id
  · cases unknown.symm.trans known.1
  · cases refused.symm.trans answer
  · cases here.symm.trans known.1
    cases passed.symm.trans answer
    exact ⟨none, rfl⟩

theorem checkReady_error {simulation after : Simulation} {id : String} {roles : RoleSet}
    {error : ProviderError} (known : simulation.Knows id roles)
    (answer : simulation.checkReady id = (.error error, after)) :
    0 < (simulation.dueFor roles).ready ∧ after = simulation.setDue roles
      { simulation.dueFor roles with ready := (simulation.dueFor roles).ready - 1 } := by
  obtain ⟨unknown, _⟩ | ⟨_, here, ⟨some, refused⟩ | ⟨_, passed⟩⟩ := simulation.checkReady_cases id
  · cases unknown.symm.trans known.1
  · cases here.symm.trans known.1
    cases refused.symm.trans answer
    exact ⟨some, rfl⟩
  · cases passed.symm.trans answer

-- A provider that is calm destroys what it is told to.
theorem destroy_calm {simulation : Simulation} (calm : simulation.Calm) (ids : List String) :
    simulation.destroy ids =
      (.ok (), { simulation with destroyed := markDestroyed simulation.destroyed ids }) := by
  simp [destroy, calm.destroys]

theorem Calm.destroy_ne_error {simulation after : Simulation} (calm : simulation.Calm) {ids : List String}
    {error : ProviderError} : provider.destroy ids simulation ≠ (.error error, after) := by
  intro refused
  cases (destroy_calm calm ids).symm.trans refused

-- Creating a machine takes no other out of the books.
theorem Knows.create {before after : Simulation} {id fresh : String} {roles other : RoleSet}
    (knows : before.Knows id roles) (sequence : after.sequence = before.sequence + 1)
    (numbered : fresh = machineId (before.sequence + 1))
    (rolesById : after.rolesById = before.rolesById.insert fresh other) : after.Knows id roles := by
  obtain ⟨known, number, within, same⟩ := knows
  refine ⟨?_, number, by omega, same⟩
  rw [rolesById, SortedMap.get?_insert, if_neg]
  · exact known
  · intro clash
    have equal := machineId_injective (same.symm.trans (clash.trans numbered))
    omega

theorem Knows.created {before after : Simulation} {fresh : String} {roles : RoleSet}
    (sequence : after.sequence = before.sequence + 1) (numbered : fresh = machineId (before.sequence + 1))
    (rolesById : after.rolesById = before.rolesById.insert fresh roles) : after.Knows fresh roles :=
  ⟨by rw [rolesById, SortedMap.get?_insert, if_pos rfl], _, Nat.le_of_eq sequence.symm, numbered⟩

theorem Calm.same {before after : Simulation} (calm : before.Calm)
    (faults : after.faults = before.faults) : after.Calm :=
  ⟨faults ▸ calm.crashes, faults ▸ calm.destroys⟩

theorem Knows.same {before after : Simulation} {id : String} {roles : RoleSet}
    (knows : before.Knows id roles) (sequence : after.sequence = before.sequence)
    (rolesById : after.rolesById = before.rolesById) : after.Knows id roles :=
  ⟨rolesById ▸ knows.1, sequence ▸ knows.2⟩

end Muster.Simulation
