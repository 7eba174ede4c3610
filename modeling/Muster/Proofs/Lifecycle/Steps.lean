import Muster.Dispatcher

/-!
What single steps of a phase do to its cluster. Hooks may do what they like unless something
is asked of them; authorizing rules and rolling out statements keep the machines; a request
to destroy takes all of them out when it is granted, and nothing when it is not.
-/

namespace Muster

variable {σ : Type}

/-! ### What hooks may do -/

-- What a hook of any handler does to the phase in progress is allowed.
def Registry.Within (allowed : PhaseEvent σ → PhaseEvent σ → Prop) (registry : Registry σ) : Prop :=
  ∀ role handler, registry.get? role = some handler →
    ∀ hook phase topology event, allowed event (handler.hook hook phase topology event).2

def Registry.Each (holds : String → Handler σ → Prop) (registry : Registry σ) : Prop :=
  ∀ role handler, registry.get? role = some handler → holds role handler

def PhaseEvent.SameName (before after : PhaseEvent σ) : Prop := after.cluster.name = before.cluster.name

structure PhaseEvent.SameMachines (before after : PhaseEvent σ) : Prop where
  name : after.cluster.name = before.cluster.name
  ids : after.cluster.ids = before.cluster.ids

structure Cluster.SameMachines (before after : Cluster) : Prop where
  name : after.name = before.name
  ids : after.ids = before.ids

theorem mapM_eq_ok {α β ε : Type} {f : α → Except ε β} {items : List α} {results : List β} :
    items.mapM f = .ok results ↔ items.map f = results.map .ok := by
  induction items generalizing results with
  | nil => cases results <;> simp [pure, Except.pure]
  | cons item rest ih =>
      rw [List.mapM_cons]
      cases first : f item with
      | error error => cases results <;> simp [bind, Except.bind, first]
      | ok head =>
          cases results with
          | nil =>
              cases others : rest.mapM f <;> simp [bind, Except.bind, pure, Except.pure]
          | cons result results =>
              rw [List.map_cons, List.map_cons, List.cons.injEq, ← ih, first]
              cases others : rest.mapM f <;> simp [bind, Except.bind, pure, Except.pure]

theorem mapM_eq_error {α β ε : Type} {f : α → Except ε β} {items : List α} {error : ε}
    (fails : items.mapM f = .error error) : ∃ item ∈ items, f item = .error error := by
  induction items with
  | nil => cases fails
  | cons item rest ih =>
      rw [List.mapM_cons] at fails
      cases first : f item with
      | error other =>
          rw [first] at fails
          cases fails
          exact ⟨item, List.mem_cons_self, first⟩
      | ok head =>
          cases others : rest.mapM f with
          | error other =>
              rw [first, others] at fails
              cases fails
              obtain ⟨source, among, found⟩ := ih others
              exact ⟨source, List.mem_cons_of_mem _ among, found⟩
          | ok tail =>
              rw [first, others] at fails
              cases fails

theorem mem_of_mapM_ok {α β ε : Type} {f : α → Except ε β} {items : List α} {results : List β}
    (succeeds : items.mapM f = .ok results) {result : β} (member : result ∈ results) :
    ∃ item ∈ items, f item = .ok result := by
  have found : .ok result ∈ items.map f := by
    rw [mapM_eq_ok.mp succeeds]
    exact List.mem_map_of_mem member
  exact List.mem_map.mp found

namespace Registry

variable {allowed wider : PhaseEvent σ → PhaseEvent σ → Prop} {registry : Registry σ}

theorem Within.mono (within : registry.Within allowed)
    (implies : ∀ before after, allowed before after → wider before after) : registry.Within wider :=
  fun role handler present hook phase topology event =>
    implies _ _ (within role handler present hook phase topology event)

section

variable {holds : String → Handler σ → Prop}

theorem empty_each : Registry.Each holds (SortedMap.empty : Registry σ) := by
  intro role handler present
  cases present

theorem register_each (each : registry.Each holds) {handler : Handler σ} (fresh : holds handler.role handler) :
    (registry.register handler).Each holds := by
  intro role found present
  rw [register, SortedMap.get?_insert] at present
  split at present
  · rename_i same
    obtain rfl := Option.some.inj present
    exact same ▸ fresh
  · exact each role found present

theorem withScripted_each (each : registry.Each holds) (topology : Topology)
    (fresh : ∀ role, holds role (.scripted role)) : (registry.withScripted topology).Each holds := by
  simp only [withScripted]
  generalize topology.roleNames.toList = roles
  induction roles generalizing registry with
  | nil => exact each
  | cons role rest ih =>
      rw [List.foldl_cons]
      apply ih
      split
      · exact each
      · exact register_each each (fresh role)

end

theorem empty_within : Registry.Within allowed (SortedMap.empty : Registry σ) := empty_each

theorem register_within (within : registry.Within allowed) {handler : Handler σ}
    (fresh : ∀ hook phase topology event, allowed event (handler.hook hook phase topology event).2) :
    (registry.register handler).Within allowed :=
  register_each within fresh

theorem withScripted_within (within : registry.Within allowed) (topology : Topology)
    (fresh : ∀ role hook phase topology event,
      allowed event ((Handler.scripted role : Handler σ).hook hook phase topology event).2) :
    (registry.withScripted topology).Within allowed :=
  withScripted_each within topology fresh

theorem mem_resolve {registry : Registry σ} {roles : RoleSet} {handlers : List (Handler σ)}
    (resolved : registry.resolve roles = .ok handlers) {handler : Handler σ} (member : handler ∈ handlers) :
    ∃ role, registry.get? role = some handler := by
  obtain ⟨role, _, found⟩ := mem_of_mapM_ok resolved member
  refine ⟨role, ?_⟩
  split at found
  · cases found
  · rename_i other present
    cases found
    exact present

end Registry

-- Scripted handlers queue statements, add rules and set a property; they ask the provider for nothing.
theorem Handler.scripted_event (role : String) (hook : Hook) (phase : Phase) (topology : Topology)
    (event : PhaseEvent σ) :
    let after := ((Handler.scripted role : Handler σ).hook hook phase topology event).2
    event.SameMachines after ∧ after.provider = event.provider := by
  cases hook with
  | before =>
      cases phase with
      | configure =>
          change event.SameMachines (Scripted.beforeConfigure role topology event).2 ∧
            (Scripted.beforeConfigure role topology event).2.provider = event.provider
          simp only [Scripted.beforeConfigure]
          split <;> exact ⟨⟨rfl, rfl⟩, rfl⟩
      | bootstrap | start | stop | cleanup => exact ⟨⟨rfl, rfl⟩, rfl⟩
  | after => cases phase <;> exact ⟨⟨rfl, rfl⟩, rfl⟩

theorem Registry.withScripted_machines {registry : Registry σ} (within : registry.Within PhaseEvent.SameMachines)
    (topology : Topology) : (registry.withScripted topology).Within PhaseEvent.SameMachines :=
  withScripted_within within topology fun role hook phase topology event =>
    (Handler.scripted_event role hook phase topology event).1

/-! ### What is done in a phase -/

namespace Phase

variable {phase : Phase} {handlers : List (Handler σ)}

theorem mem_of_call {hook : Hook} {handler : Handler σ} (member : .call hook handler ∈ phase.steps handlers) :
    handler ∈ handlers := by
  simp only [steps, List.mem_append, List.mem_map] at member
  rcases member with (⟨other, among, same⟩ | ⟨effect, _, same⟩) | ⟨other, among, same⟩
  · cases same
    exact among
  · cases same
  · cases same
    exact among

theorem mem_of_effect {effect : Effect} (member : .effect effect ∈ phase.steps handlers) :
    effect ∈ phase.effects := by
  simp only [steps, List.mem_append, List.mem_map] at member
  rcases member with (⟨other, _, same⟩ | ⟨other, among, same⟩) | ⟨other, _, same⟩
  · cases same
  · cases same
    exact among
  · cases same

end Phase

theorem Cluster.noteHosts_same (cluster : Cluster) (id : String) (hosts : Option Hosts) :
    cluster.SameMachines (cluster.noteHosts id hosts) := by
  cases hosts with
  | none => exact ⟨rfl, rfl⟩
  | some hosts =>
      refine ⟨rfl, ?_⟩
      simp only [ids, noteHosts, rememberHosts, List.map_map]
      apply List.map_congr_left
      intro machine _
      simp only [Function.comp_apply]
      split <;> rfl

namespace Rollout

variable {provider : Provider σ} {plan : RolloutPlan}

/-- What a step can be. A machine's turn comes when there is room for it, and it is worked on if it
has something to run; then its script is settled, and then it is run. -/
inductive Taken (provider : Provider σ) (plan : RolloutPlan) (rollout : Rollout σ) :
    RolloutEvent → Rollout σ → Prop where
  | passes {machine : Instance} {rest : List Instance} (waits : rollout.waiting = machine :: rest)
      (room : rollout.atWork.length < plan.limit) (idle : (plan.queue.forRoles machine.roles).isEmpty = true) :
      Taken provider plan rollout .start { rollout with waiting := rest }
  | begins {machine : Instance} {rest : List Instance} (waits : rollout.waiting = machine :: rest)
      (room : rollout.atWork.length < plan.limit) (busy : (plan.queue.forRoles machine.roles).isEmpty = false) :
      Taken provider plan rollout .start { rollout with
        waiting := rest
        atWork := rollout.atWork ++ [⟨machine, plan.queue.forRoles machine.roles, none⟩] }
  | settles {id : String} {task : RolloutTask} (found : rollout.task? id = some task) (unsettled : task.script = none) :
      Taken provider plan rollout (.settle id) (rollout.settle provider plan task)
  | finishes {id : String} {task : RolloutTask} {script : Script} (found : rollout.task? id = some task)
      (settled : task.script = some script) :
      Taken provider plan rollout (.finish id) (rollout.finish provider task script)

theorem taken_of_step {rollout next : Rollout σ} {event : RolloutEvent}
    (happens : rollout.step provider plan event = some next) : Taken provider plan rollout event next := by
  cases event with
  | start =>
      simp only [step] at happens
      split at happens
      · cases happens
      · rename_i machine rest waits
        split at happens
        · rename_i room
          cases idle : (plan.queue.forRoles machine.roles).isEmpty with
          | true =>
              simp only [idle, if_true] at happens
              cases happens
              exact .passes waits room idle
          | false =>
              simp only [idle, Bool.false_eq_true, if_false] at happens
              cases happens
              exact .begins waits room idle
        · cases happens
  | settle id =>
      simp only [step, Option.bind_eq_bind, Option.bind_eq_some_iff] at happens
      obtain ⟨task, found, happens⟩ := happens
      split at happens
      · rename_i unsettled
        cases happens
        exact .settles found unsettled
      · cases happens
  | finish id =>
      simp only [step, Option.bind_eq_bind, Option.bind_eq_some_iff] at happens
      obtain ⟨task, found, happens⟩ := happens
      split at happens
      · cases happens
      · rename_i script settled
        cases happens
        exact .finishes found settled

theorem Taken.step {rollout next : Rollout σ} {event : RolloutEvent}
    (taken : Taken provider plan rollout event next) : rollout.step provider plan event = some next := by
  cases taken with
  | passes waits room idle => simp [Rollout.step, waits, room, idle]
  | begins waits room busy => simp [Rollout.step, waits, room, busy]
  | settles found unsettled => simp [Rollout.step, found, unsettled]
  | finishes found settled => simp [Rollout.step, found, settled]

-- A step asks for host names and notes them, or runs a script, or asks for nothing.
theorem step_cases {rollout next : Rollout σ} {event : RolloutEvent}
    (happens : rollout.step provider plan event = some next) :
    (next.cluster = rollout.cluster ∧ next.provider = rollout.provider) ∨
    (∃ machine hosts, next.cluster = rollout.cluster.noteHosts machine.id hosts ∧
      next.provider = (provider.hosts machine rollout.provider).2) ∨
    (∃ node script, next.cluster = rollout.cluster ∧
      next.provider = (provider.runScript node script rollout.provider).2) := by
  cases taken_of_step happens with
  | passes | begins => exact .inl ⟨rfl, rfl⟩
  | @settles _ task => exact .inr (.inl ⟨task.machine, _, rfl, rfl⟩)
  | @finishes _ task script => exact .inr (.inr ⟨task.machine.node, script, rfl, rfl⟩)

theorem step_machines {rollout next : Rollout σ} {event : RolloutEvent}
    (happens : rollout.step provider plan event = some next) :
    rollout.cluster.SameMachines next.cluster := by
  rcases step_cases happens with ⟨same, _⟩ | ⟨machine, hosts, noted, _⟩ | ⟨node, script, same, _⟩
  · rw [same]
    exact ⟨rfl, rfl⟩
  · rw [noted]
    exact rollout.cluster.noteHosts_same machine.id hosts
  · rw [same]
    exact ⟨rfl, rfl⟩

-- What every step keeps is kept by the whole, in which steps that cannot be taken are left out.
theorem run_keeps {kept : Rollout σ → Prop} {cluster : Cluster} {state : σ}
    (keeps : ∀ rollout event next, rollout.step provider plan event = some next → kept rollout → kept next)
    (start : kept (initial cluster state)) : kept (run provider plan cluster state) := by
  rw [run]
  generalize oneByOne cluster.instances = events
  generalize initial cluster state = rollout at start ⊢
  induction events generalizing rollout with
  | nil => exact start
  | cons event rest ih =>
      rw [List.foldl_cons]
      apply ih
      rw [stepOrStay]
      cases happens : rollout.step provider plan event with
      | none => exact start
      | some next => exact keeps rollout event next happens start

theorem run_machines (provider : Provider σ) (plan : RolloutPlan) (cluster : Cluster) (state : σ) :
    cluster.SameMachines (run provider plan cluster state).cluster := by
  have keeps (rollout : Rollout σ) (event : RolloutEvent) (next : Rollout σ)
      (happens : rollout.step provider plan event = some next) (kept : cluster.SameMachines rollout.cluster) :
      cluster.SameMachines next.cluster := by
    have same := step_machines happens
    exact ⟨same.name.trans kept.name, same.ids.trans kept.ids⟩
  exact run_keeps keeps ⟨rfl, rfl⟩

end Rollout

namespace PhaseRun

variable (plan : PhasePlan σ) (run : PhaseRun σ)

theorem call_event (hook : Hook) (handler : Handler σ) :
    (call plan hook handler run).2.event = (handler.hook hook plan.phase plan.topology run.event).2 := by
  simp only [call]
  split
  · rename_i answer
    rw [answer]
    rfl
  · rename_i answer
    rw [answer]
    rfl

theorem authorize_cluster : (authorize plan run).2.event.cluster = run.event.cluster := by
  simp only [authorize]
  split
  · rfl
  · split <;> rfl

theorem rollOut_machines : run.event.SameMachines (rollOut plan run).2.event := by
  have kept := Rollout.run_machines plan.provider ⟨plan.topology, run.event.queue, concurrency plan.topology
    plan.options⟩ run.event.cluster run.event.provider
  simp only [rollOut]
  split
  · exact ⟨rfl, rfl⟩
  · split <;> exact ⟨kept.name, kept.ids⟩

theorem destroy_cases : ∃ next : PhaseRun σ,
    (run.event.cluster.ids = [] ∧ next = run ∧ destroy plan run = (.ok (), next)) ∨
    (∃ error, plan.provider.destroy run.event.cluster.ids run.event.provider =
        (.error error, next.event.provider) ∧
      next.event.cluster = run.event.cluster ∧
      destroy plan run = (.error (providerError plan run.event.cluster error), next)) ∨
    (plan.provider.destroy run.event.cluster.ids run.event.provider = (.ok (), next.event.provider) ∧
      next.event.cluster = (run.event.cluster.remove run.event.cluster.ids).2 ∧
      destroy plan run = (.ok (), next)) := by
  simp only [destroy]
  split
  · rename_i empty
    exact ⟨run, .inl ⟨List.isEmpty_iff.mp empty, rfl, rfl⟩⟩
  · split
    · rename_i error answered answer
      refine ⟨_, .inr (.inl ⟨error, ?_, ?_, rfl⟩)⟩
      · exact answer
      · rfl
    · rename_i answered answer
      refine ⟨_, .inr (.inr ⟨?_, ?_, rfl⟩)⟩
      · exact answer
      · rfl

end PhaseRun

theorem Cluster.ids_remove_ids (cluster : Cluster) : (cluster.remove cluster.ids).2.ids = [] := by
  have gone (machine : Instance) (member : machine ∈ cluster.instances) :
      machine.id ∈ cluster.instances.map Instance.id := List.mem_map.mpr ⟨machine, member, rfl⟩
  simp only [ids, remove, List.map_eq_nil_iff, List.filter_eq_nil_iff]
  intro machine member
  simpa using gone machine member

theorem Dispatcher.registered_of_found {dispatcher : Dispatcher σ} {phase : Phase} {topology : Topology}
    {cluster : Cluster} {handlers : List (Handler σ)}
    (found : dispatcher.handlersFor phase topology cluster = .ok handlers) {handler : Handler σ}
    (member : handler ∈ handlers) : ∃ role, dispatcher.registry.get? role = some handler := by
  simp only [handlersFor] at found
  split at found
  · cases found
  · rename_i resolved
    split at found
    · cases found
    · cases found
      exact Registry.mem_resolve resolved member

end Muster
