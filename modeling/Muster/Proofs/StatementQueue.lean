import Muster.Proofs.FirstOccurrences
import Muster.StatementQueue

/-!
What a queue of statements hands out after statements were added to it. For a set of roles these are the statements
that were added for one of them, each of them once. What is added for one role keeps its order, and
how additions for different roles take turns makes no difference.
-/

namespace Muster

namespace StatementQueue

variable {queue : StatementQueue} {adds others : List (String × Statement)} {roles : RoleSet} {role : String}
  {statement : Statement}

/-! ### Additions -/

def addAll (queue : StatementQueue) (adds : List (String × Statement)) : StatementQueue :=
  adds.foldl (fun queue add => queue.add add.1 add.2) queue

def addedFor (adds : List (String × Statement)) (role : String) : List Statement :=
  (adds.filter fun add => add.1 = role).map Prod.snd

theorem mem_addedFor : statement ∈ addedFor adds role ↔ (role, statement) ∈ adds := by
  simp [addedFor]

theorem forRole_add (queue : StatementQueue) (role other : String) (statement : Statement) :
    (queue.add role statement).forRole other =
      if role = other then queue.forRole other ++ [statement] else queue.forRole other := by
  simp only [forRole, add, SortedMap.modify, SortedMap.getD, SortedMap.get?_insert]
  by_cases same : role = other
  · simp [same]
  · simp [same, Ne.symm same]

theorem forRole_addAll (queue : StatementQueue) (adds : List (String × Statement)) (role : String) :
    (queue.addAll adds).forRole role = queue.forRole role ++ addedFor adds role := by
  induction adds generalizing queue with
  | nil => simp [addAll, addedFor]
  | cons add rest ih =>
      change ((queue.add add.1 add.2).addAll rest).forRole role = _
      rw [ih, forRole_add]
      by_cases same : add.1 = role <;> simp [addedFor, same]

theorem forRole_empty_addAll (adds : List (String × Statement)) (role : String) :
    (empty.addAll adds).forRole role = addedFor adds role := forRole_addAll empty adds role

/-! ### What is handed out -/

theorem mem_forRoles : statement ∈ queue.forRoles roles ↔ ∃ role ∈ roles, statement ∈ queue.forRole role := by
  simp [forRoles, mem_firstOccurrences, SortedSet.mem_toList]

theorem forRole_of_isEmpty (empty : queue.isEmpty = true) (role : String) : queue.forRole role = [] := by
  simp only [forRole, SortedMap.getD, SortedMap.get?]
  cases found : queue.byRole.toList.find? fun entry => entry.1 = role with
  | none => rfl
  | some entry =>
      have member := List.mem_of_find?_eq_some found
      exact List.isEmpty_iff.mp (List.all_eq_true.mp empty entry member)

-- A queue without statements has none for any machine.
theorem forRoles_of_isEmpty (empty : queue.isEmpty = true) (roles : RoleSet) : queue.forRoles roles = [] := by
  rw [forRoles, List.flatMap_eq_nil_iff.mpr fun role _ => forRole_of_isEmpty empty role, firstOccurrences_nil]

theorem forRoles_addAll (adds : List (String × Statement)) (roles : RoleSet) :
    (empty.addAll adds).forRoles roles = firstOccurrences (roles.toList.flatMap (addedFor adds)) := by
  rw [forRoles, funext (forRole_empty_addAll adds)]

theorem isEmpty_addAll_iff : (empty.addAll adds).isEmpty = true ↔ adds = [] := by
  constructor
  · intro none
    by_contra some
    obtain ⟨add, member⟩ := List.exists_mem_of_ne_nil _ some
    have among := mem_addedFor.mpr member
    rw [← forRole_empty_addAll, forRole_of_isEmpty none] at among
    cases among
  · rintro rfl
    rfl

/-- What a set of roles gets is what was added for one of the roles, without repetitions, in the order in which it
comes up first when one goes through what was added for one role after the other. Additions that give every role of
the set the same statements in the same order come to the same, and a queue is empty exactly if nothing was added. -/
theorem addAll_hands_out (adds : List (String × Statement)) :
    (∀ roles : RoleSet,
      ((empty.addAll adds).forRoles roles).Nodup ∧
      (∀ statement, statement ∈ (empty.addAll adds).forRoles roles ↔ ∃ role ∈ roles, (role, statement) ∈ adds) ∧
      ((empty.addAll adds).forRoles roles).Pairwise (fun earlier later =>
        ∃ n : Nat, (roles.toList.flatMap (addedFor adds))[n]? = some earlier ∧
          ∀ m : Nat, (roles.toList.flatMap (addedFor adds))[m]? = some later → n < m) ∧
      ∀ others, (∀ role ∈ roles, addedFor others role = addedFor adds role) →
        (empty.addAll others).forRoles roles = (empty.addAll adds).forRoles roles) ∧
    ((empty.addAll adds).isEmpty = true ↔ adds = []) ∧
    ((empty.addAll adds).isEmpty = true → ∀ roles, (empty.addAll adds).forRoles roles = []) := by
  refine ⟨fun roles => ⟨nodup_firstOccurrences _, fun statement => ?_, ?_, fun others same => ?_⟩,
    isEmpty_addAll_iff, forRoles_of_isEmpty⟩
  · simp only [mem_forRoles, forRole_empty_addAll, mem_addedFor]
  · rw [forRoles_addAll]
    exact firstOccurrences_ordered _
  · have parts : roles.toList.map (addedFor others) = roles.toList.map (addedFor adds) := List.map_congr_left same
    rw [forRoles_addAll, forRoles_addAll, List.flatMap_def, List.flatMap_def, parts]

-- The helpers are installed first on a machine that has both roles, and once.
theorem addAll_hands_out_of_two :
    let adds := [("namenode", .function "retry_helpers"), ("namenode", .function "install_namenode"),
      ("jobtracker", .function "retry_helpers"), ("jobtracker", .function "install_jobtracker")]
    let others := [("jobtracker", .function "retry_helpers"), ("namenode", .function "retry_helpers"),
      ("jobtracker", .function "install_jobtracker"), ("namenode", .function "install_namenode")]
    let roles : RoleSet := .ofList ["namenode", "jobtracker"]
    (empty.addAll adds).forRoles roles =
        [.function "retry_helpers", .function "install_jobtracker", .function "install_namenode"] ∧
      (∀ role ∈ roles, addedFor others role = addedFor adds role) ∧
      (empty.addAll others).forRoles roles = (empty.addAll adds).forRoles roles ∧
      ((empty.addAll []).isEmpty = true ∧ (empty.addAll []).forRoles roles = []) := by
  intro adds others roles
  have same : ∀ role ∈ roles, addedFor others role = addedFor adds role := by decide
  have none : (empty.addAll []).isEmpty = true := (addAll_hands_out []).2.1.mpr rfl
  exact ⟨by decide, same, ((addAll_hands_out adds).1 roles).2.2.2 others same, none, (addAll_hands_out []).2.2 none roles⟩

end StatementQueue

end Muster
