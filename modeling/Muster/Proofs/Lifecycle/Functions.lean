import Mathlib.Data.Finset.Card
import Muster.Proofs.Lifecycle.Scripted
import Muster.Provider.Simulated
import Muster.Topology.Draft

/-!
Which functions the machines of a phase call. Every role calls the function that is named after it, with underscores
for hyphens. A statement is there once, so that two roles whose names are told apart by hyphens and
underscores alone have one call between them, unless they call it with different arguments.
-/

namespace Muster

open Handler Handler.Scripted Dispatcher

variable {σ : Type}

namespace Handler.Scripted

def underscored (name : String) : String := .ofList (name.toList.map fun c => if c = '-' then '_' else c)

def dueCall (phase : Phase) (cluster : Cluster) (role : String) : Statement :=
  .call (phase.verb ++ "_" ++ underscored role) (arguments phase cluster role)

variable {topology : Topology} {phase : Phase} {cluster : Cluster} {role other : String} {statement : Statement}

theorem dueCall_ne_retryHelpers : dueCall phase cluster role ≠ retryHelpers := by
  intro same
  have letters := congrArg String.toList (Statement.call.inj same).1
  cases phase <;> simp [Phase.verb, String.toList_append] at letters

theorem dueCall_eq_iff : dueCall phase cluster role = dueCall phase cluster other ↔
    underscored role = underscored other ∧ arguments phase cluster role = arguments phase cluster other := by
  rw [dueCall, dueCall, Statement.call.injEq, String.append_right_inj]

theorem arguments_eq_iff : arguments phase cluster role = arguments phase cluster other ↔
    (phase = .configure → hosts cluster role = hosts cluster other) := by
  unfold arguments
  split <;> simp_all

theorem mem_queued (plain : topology.roleProperty? role phase.functionKey = none) :
    statement ∈ queued topology phase cluster role ∧ statement ≠ retryHelpers ↔ statement = dueCall phase cluster role := by
  have named : function topology role phase = phase.verb ++ "_" ++ underscored role := by
    rw [function, plain]
    rfl
  have listed : statement ∈ queued topology phase cluster role ↔ statement = dueCall phase cluster role ∨
      (statement = retryHelpers ∧ topology.roleProperty? role retryHelpersKey ≠ some "false") := by
    simp only [queued, statements, named]
    split <;> simp_all [dueCall, or_comm]
  rw [listed]
  constructor
  · rintro ⟨rfl | ⟨rfl, _⟩, other⟩
    · rfl
    · exact (other rfl).elim
  · rintro rfl
    exact ⟨.inl rfl, dueCall_ne_retryHelpers⟩

end Handler.Scripted

-- Keys in strictly ascending order are all different.
theorem SortedSet.nodup_toList {α : Type} [Sortable α] (set : SortedSet α) : set.toList.Nodup :=
  set.ascending.imp fun {one next} before (same : one = next) => Sortable.before_irrefl next (same ▸ before)

/-- As many different items as there are keys come of the keys exactly if no two of them lead to the same. -/
theorem length_eq_size_iff {α β : Type} [Sortable α] [DecidableEq α] [DecidableEq β] {items : List β} {keys : SortedSet α}
    {item : α → β} (once : items.Nodup) (made : ∀ one, one ∈ items ↔ ∃ key ∈ keys, one = item key) :
    items.length = keys.size ↔ ∀ key ∈ keys, ∀ other ∈ keys, item key = item other → key = other := by
  have image : items.toFinset = keys.toList.toFinset.image item := by
    ext one
    simp only [List.mem_toFinset, made, Finset.mem_image, SortedSet.mem_toList, eq_comm]
  rw [SortedSet.size, ← List.toFinset_card_of_nodup once, ← List.toFinset_card_of_nodup keys.nodup_toList, image,
    Finset.card_image_iff]
  simp [Set.InjOn, SortedSet.mem_toList]

namespace Dispatcher

-- What is assembled for some roles while a phase is at work, without the helpers.
theorem assembled_iff {dispatcher : Dispatcher σ} {phase : Phase} {topology : Topology} {cluster : Cluster} {now : Nat}
    {state : σ}
    (found : dispatcher.handlersFor phase topology cluster = .ok ((rolesFor phase topology cluster).toList.map .scripted))
    (plain : ∀ role ∈ rolesFor phase topology cluster, topology.roleProperty? role phase.functionKey = none)
    {entry : Performed (PhaseStep σ) (PhaseRun σ) Error}
    (member : entry ∈ dispatcher.history phase topology cluster now state) {effect : Effect}
    (step : entry.step = .effect effect) {roles : RoleSet} {statement : Statement} :
    statement ∈ entry.found.event.queue.forRoles roles ∧ statement ≠ retryHelpers ↔
      ∃ role ∈ roles, role ∈ rolesFor phase topology cluster ∧ statement = dueCall phase cluster role := by
  rw [effect_prepared found member step, PhaseEvent.mem_prepared rfl]
  change (∃ role ∈ roles, role ∈ (rolesFor phase topology cluster).toList ∧ statement ∈ queued topology phase cluster role) ∧
    statement ≠ retryHelpers ↔ _
  constructor
  · rintro ⟨⟨role, member, among, queued⟩, other⟩
    exact ⟨role, member, among, (mem_queued (plain role among)).mp ⟨queued, other⟩⟩
  · rintro ⟨role, member, among, due⟩
    obtain ⟨queued, other⟩ := (mem_queued (plain role among)).mpr due
    exact ⟨⟨role, member, among, queued⟩, other⟩

/-- Where a phase has scripted handlers for its roles and no settings name other functions, the statements for a set
of roles hold, but for the helpers, one call for each role of the phase in it, and nothing else. There are as many of
them as roles exactly if no two roles of the set are called the same with underscores for hyphens and called with the
same arguments. -/
theorem roles_call_functions (dispatcher : Dispatcher σ) (phase : Phase) (topology : Topology) (cluster : Cluster)
    (now : Nat) (state : σ)
    (scripted : ∀ role ∈ rolesFor phase topology cluster, dispatcher.registry.get? role = some (.scripted role))
    (plain : ∀ role ∈ rolesFor phase topology cluster, topology.roleProperty? role phase.functionKey = none) :
    let listed := rolesFor phase topology cluster
    let done := dispatcher.history phase topology cluster now state
    (∀ entry ∈ done, ∀ effect, entry.step = .effect effect → ∀ roles : RoleSet,
      let calls := (entry.found.event.queue.forRoles roles).filter (· ≠ retryHelpers)
      calls.Nodup ∧
      (∀ statement, statement ∈ calls ↔ ∃ role ∈ roles, role ∈ listed ∧ statement =
        .call (phase.verb ++ "_" ++ underscored role) (if phase = .configure then hosts cluster role else [])) ∧
      ((∀ role ∈ roles, role ∈ listed) → (calls.length = roles.size ↔
        ∀ role ∈ roles, ∀ other ∈ roles, underscored role = underscored other →
          (phase = .configure → hosts cluster role = hosts cluster other) → role = other))) ∧
    ((∃ handlers, dispatcher.handlersFor phase topology cluster = .ok handlers) →
      (phase = .configure → ∀ role ∈ listed, ∀ entry ∈ portEntries topology role, ∃ port, SpellsPort entry port) →
      ∃ entry ∈ done, ∃ effect, entry.step = .effect effect) := by
  intro listed done
  have handlers_eq {handlers : List (Handler σ)} (found : dispatcher.handlersFor phase topology cluster = .ok handlers) :
      dispatcher.handlersFor phase topology cluster = .ok (listed.toList.map .scripted) := by
    rw [found, handlers_scripted (fun role member handler registered => ?_) found]
    exact Option.some.inj (registered.symm.trans (scripted role member))
  refine ⟨fun entry member effect step roles => ?_, fun ⟨handlers, found⟩ reads => ?_⟩
  · intro calls
    obtain ⟨handlers, found, _⟩ := performed_of_history member
    have made (statement : Statement) :
        statement ∈ calls ↔ ∃ role ∈ roles, role ∈ listed ∧ statement = dueCall phase cluster role := by
      simp only [calls, List.mem_filter, decide_eq_true_eq]
      exact assembled_iff (handlers_eq found) plain member step
    have once : calls.Nodup := (nodup_firstOccurrences _).filter _
    refine ⟨once, made, fun all => ?_⟩
    have due (statement : Statement) : statement ∈ calls ↔ ∃ role ∈ roles, statement = dueCall phase cluster role := by
      rw [made]
      exact exists_congr fun role => and_congr_right fun member => and_iff_right (all role member)
    rw [length_eq_size_iff once due]
    simp only [dueCall_eq_iff, arguments_eq_iff, and_imp]
  · refine effect_reached (handlers_eq found) fun role member => refusal?_eq_none.mpr fun configure => ?_
    exact reads configure role member

theorem roles_call_functions_of_two :
    let group : InstanceGroup := ⟨.ofList ["hdfs-namenode", "jobtracker"], 1, 100, 1⟩
    let topology := Launch.plainTopology [group] 0
    let dispatcher : Dispatcher Simulation :=
      .new Simulation.provider (.ofHandlers [.scripted "hdfs-namenode", .scripted "jobtracker"]) topology .none
    let listed := rolesFor .bootstrap topology (.new "small")
    (∀ role ∈ listed, dispatcher.registry.get? role = some (.scripted role)) ∧
    (∀ role ∈ listed, topology.roleProperty? role (Phase.functionKey .bootstrap) = none) ∧
    ∃ entry ∈ dispatcher.history .bootstrap topology (.new "small") 0 .new, ∃ effect, entry.step = .effect effect ∧
      let calls := (entry.found.event.queue.forRoles group.roles).filter (· ≠ retryHelpers)
      calls.length = 2 ∧ .function "install_hdfs_namenode" ∈ calls := by
  intro group topology dispatcher listed
  have members : ∀ role ∈ listed, role = "hdfs-namenode" ∨ role = "jobtracker" := by decide
  have scripted : ∀ role ∈ listed, dispatcher.registry.get? role = some (.scripted role) := by
    intro role member
    rcases members role member with rfl | rfl <;> rfl
  have plain : ∀ role ∈ listed, topology.roleProperty? role (Phase.functionKey .bootstrap) = none := fun _ _ => rfl
  have found : dispatcher.handlersFor .bootstrap topology (.new "small") =
      .ok [.scripted "hdfs-namenode", .scripted "jobtracker"] := rfl
  obtain ⟨calls, reached⟩ :=
    roles_call_functions dispatcher .bootstrap topology (.new "small") 0 Simulation.new scripted plain
  obtain ⟨entry, member, effect, step⟩ := reached ⟨_, found⟩ nofun
  obtain ⟨_, made, count⟩ := calls entry member effect step group.roles
  refine ⟨scripted, plain, entry, member, effect, step, ?_, ?_⟩
  · have apart : ∀ role ∈ group.roles, ∀ other ∈ group.roles, underscored role = underscored other → role = other := by
      decide
    exact (count (by decide)).mpr fun role here other there same _ => apart role here other there same
  · exact (made _).mpr ⟨"hdfs-namenode", by decide, by decide, by decide⟩

-- Both roles of the machine are called install_a_b, so that one call is made for the two of them. A group of which
-- no machine is there has no calls at all.
theorem roles_share_function :
    let draft := { TopologyDraft.empty with
      clusterName := some "small", provider := some "stub", templates := some "1 a-b+a_b" }
    let group := InstanceGroup.new (.ofList ["a-b", "a_b"]) 1
    let topology := draft.assemble .builtIn "small" "stub" [group]
    let dispatcher : Dispatcher Simulation :=
      .new Simulation.provider (.ofHandlers [.scripted "a-b", .scripted "a_b"]) topology .none
    draft.create .builtIn = .ok topology ∧
    (∀ role ∈ group.roles, dispatcher.registry.get? role = some (.scripted role) ∧
      ∀ phase, topology.roleProperty? role (Phase.functionKey phase) = none) ∧
    group.roles.size = 2 ∧
    (∃ entry ∈ dispatcher.history .bootstrap topology (.new "small") 0 .new, entry.step = .effect .launch ∧
      entry.found.event.queue.forRoles group.roles = [retryHelpers, .function "install_a_b"]) ∧
    ∃ entry ∈ dispatcher.history .start topology (.new "small") 0 .new, entry.step = .effect .rollOut ∧
      entry.found.event.queue.forRoles group.roles = [] := by
  intro draft group topology dispatcher
  have accepted : draft.create .builtIn = .ok topology := by decide +kernel
  have launch : (dispatcher.history .bootstrap topology (.new "small") 0 .new)[2]?.map (fun entry =>
      (entry.step.act, entry.found.event.queue.forRoles group.roles)) =
        some (.effect .launch, [retryHelpers, .function "install_a_b"]) := by decide +kernel
  have start : (dispatcher.history .start topology (.new "small") 0 .new)[0]?.map (fun entry =>
      (entry.step.act, entry.found.event.queue.forRoles group.roles)) = some (.effect .rollOut, []) := by decide +kernel
  refine ⟨accepted, ?_, by decide, ?_, ?_⟩
  · intro role member
    have either : role = "a-b" ∨ role = "a_b" := by simpa [group, InstanceGroup.new] using member
    rcases either with rfl | rfl
    · exact ⟨rfl, fun _ => rfl⟩
    · exact ⟨rfl, fun _ => rfl⟩
  · obtain ⟨entry, there, same⟩ := Option.map_eq_some_iff.mp launch
    obtain ⟨step, calls⟩ := Prod.mk.inj same
    exact ⟨entry, List.mem_of_getElem? there, PhaseStep.act_eq_effect.mp step, calls⟩
  · obtain ⟨entry, there, same⟩ := Option.map_eq_some_iff.mp start
    obtain ⟨step, calls⟩ := Prod.mk.inj same
    exact ⟨entry, List.mem_of_getElem? there, PhaseStep.act_eq_effect.mp step, calls⟩

end Dispatcher

end Muster
