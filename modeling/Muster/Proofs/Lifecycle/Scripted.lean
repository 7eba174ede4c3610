import Muster.Proofs.Lifecycle.Ports
import Muster.Proofs.Lifecycle.Reconfigure
import Muster.Proofs.Lifecycle.Repeating
import Muster.Proofs.StatementQueue

/-!
What scripted handlers make of a phase before it does anything. Each queues the statements of its role and opens the
ports that are listed for it. The only thing that can go wrong is an entry in CONFIGURE that is no port;
then nothing comes after it.
-/

namespace Muster

variable {σ : Type}

namespace Handler.Scripted

def arguments (phase : Phase) (cluster : Cluster) (role : String) : List String :=
  if phase = .configure then hosts cluster role else []

def queued (topology : Topology) (phase : Phase) (cluster : Cluster) (role : String) : List Statement :=
  statements topology role phase (arguments phase cluster role)

def refusal? (topology : Topology) (phase : Phase) (role : String) : Option ConfigError :=
  match phase, ports topology role with
  | .configure, .error error => some error
  | _, _ => none

variable {topology : Topology} {phase : Phase} {role : String} {error : ConfigError}

theorem refusal?_eq_some : refusal? topology phase role = some error ↔
    phase = .configure ∧ ports topology role = .error error := by
  unfold refusal?
  split <;> simp_all

theorem refusal?_eq_none : refusal? topology phase role = none ↔
    (phase = .configure → ∀ entry ∈ portEntries topology role, ∃ port, SpellsPort entry port) := by
  rw [← exists_ports_iff, Option.eq_none_iff_forall_ne_some]
  constructor
  · intro none configure
    cases read : ports topology role with
    | ok listed => exact ⟨listed, rfl⟩
    | error error => exact (none error (refusal?_eq_some.mpr ⟨configure, read⟩)).elim
  · intro reads error refused
    obtain ⟨configure, fails⟩ := refusal?_eq_some.mp refused
    obtain ⟨listed, read⟩ := reads configure
    cases fails.symm.trans read

end Handler.Scripted

open Handler Handler.Scripted

theorem StatementQueue.addAll_map (queue : StatementQueue) (role : String) (statements : List Statement) :
    queue.addAll (statements.map fun statement => (role, statement)) =
      statements.foldl (fun queue statement => queue.add role statement) queue := by
  rw [addAll, List.foldl_map]

theorem Handler.scripted_before (role : String) (phase : Phase) (topology : Topology) (event : PhaseEvent σ) :
    (Handler.scripted role).hook .before phase topology event =
      match refusal? topology phase role with
      | some error => (.error (.config error), event)
      | none => (.ok (), { event with
          firewall := event.firewall.addRules (opened topology role phase)
          queue := event.queue.addAll
            ((queued topology phase event.cluster role).map fun statement => (role, statement)) }) := by
  rw [StatementQueue.addAll_map]
  cases phase with
  | configure =>
      change beforeConfigure role topology event = _
      cases read : ports topology role with
      | error refused => simp only [beforeConfigure, refusal?, read]
      | ok listed =>
          simp only [beforeConfigure, refusal?, opened, read]
          rfl
  | bootstrap | start | stop | cleanup => rfl

def PhaseEvent.prepared (event : PhaseEvent σ) (topology : Topology) (phase : Phase) (roles : List String) :
    PhaseEvent σ :=
  { event with
    firewall := event.firewall.addRules (roles.flatMap fun role => opened topology role phase)
    queue := event.queue.addAll (roles.flatMap fun role =>
      (queued topology phase event.cluster role).map fun statement => (role, statement)) }

-- The hooks add to the queue what there is for their roles, so that each role has its own statements.
theorem PhaseEvent.mem_prepared {event : PhaseEvent σ} (new : event.queue = .empty) (topology : Topology) (phase : Phase)
    (listed : List String) (roles : RoleSet) {statement : Statement} :
    statement ∈ (event.prepared topology phase listed).queue.forRoles roles ↔
      ∃ role ∈ roles, role ∈ listed ∧ statement ∈ queued topology phase event.cluster role := by
  simp only [prepared, new, StatementQueue.mem_forRoles, StatementQueue.forRole_empty_addAll, StatementQueue.mem_addedFor,
    List.mem_flatMap, List.mem_map, Prod.mk.injEq]
  constructor
  · rintro ⟨role, member, _, among, _, statement, rfl, rfl⟩
    exact ⟨_, member, among, statement⟩
  · rintro ⟨role, member, among, queued⟩
    exact ⟨role, member, role, among, statement, queued, rfl, rfl⟩

theorem Phase.effects_ne_nil (phase : Phase) : phase.effects ≠ [] := by cases phase <;> exact List.cons_ne_nil _ _

theorem Phase.steps_eq (phase : Phase) (handlers : List (Handler σ)) : phase.steps handlers =
    handlers.map (.call .before) ++ (phase.effects.map .effect ++ handlers.map (.call .after)) :=
  List.append_assoc _ _ _

namespace PhaseRun

variable {plan : PhasePlan σ} {roles : List String}

theorem call_before_accepted {role : String} (accepts : refusal? plan.topology plan.phase role = none) (run : PhaseRun σ) :
    perform plan (.call .before (.scripted role)) run =
      (.ok (), { run with
        event := run.event.prepared plan.topology plan.phase [role]
        deeds := run.deeds ++ [.hook .before role true] }) := by
  have hook := Handler.scripted_before role plan.phase plan.topology run.event
  rw [accepts] at hook
  simp only [perform, call, hook, PhaseEvent.prepared, List.flatMap_singleton]
  rfl

theorem call_before_refused {role : String} {error : ConfigError}
    (refuses : refusal? plan.topology plan.phase role = some error) (run : PhaseRun σ) :
    perform plan (.call .before (.scripted role)) run =
      (.error (.handler role plan.phase .before (.config error)), run.note (.hook .before role false)) := by
  have hook := Handler.scripted_before role plan.phase plan.topology run.event
  rw [refuses] at hook
  simp only [perform, call, hook]
  rfl

-- By induction over the roles: as long as no ports are refused, every hook succeeds.
theorem befores_prepare (plan : PhasePlan σ) (accepted : ∀ role ∈ roles, refusal? plan.topology plan.phase role = none)
    (run : PhaseRun σ) :
    inOrder (perform plan) ((roles.map .scripted).map (.call .before)) run =
      (.ok (), { run with
        event := run.event.prepared plan.topology plan.phase roles
        deeds := run.deeds ++ roles.map fun role => .hook .before role true }) := by
  induction roles generalizing run with
  | nil => simp [inOrder, PhaseEvent.prepared, Firewall.addRules, StatementQueue.addAll]
  | cons role rest ih =>
      obtain ⟨accepts, accepted⟩ := List.forall_mem_cons.mp accepted
      rw [List.map_cons, List.map_cons, inOrder_of_ok (call_before_accepted accepts run), ih accepted]
      simp [PhaseEvent.prepared, Firewall.addRules, StatementQueue.addAll]

-- The first role whose ports are refused is the last whose hook is called.
theorem befores_refused (plan : PhasePlan σ) (run : PhaseRun σ)
    (refused : ∃ role ∈ roles, refusal? plan.topology plan.phase role ≠ none) :
    ∃ role ∈ roles, ∃ error called left, refusal? plan.topology plan.phase role = some error ∧
      inOrder (perform plan) ((roles.map .scripted).map (.call .before)) run =
        (.error (.handler role plan.phase .before (.config error)), left) ∧
      left.deeds = run.deeds ++ called ∧ ∀ deed ∈ called, ∃ role succeeded, deed = .hook .before role succeeded := by
  induction roles generalizing run with
  | nil =>
      obtain ⟨role, member, _⟩ := refused
      cases member
  | cons role rest ih =>
      cases answer : refusal? plan.topology plan.phase role with
      | some error =>
          refine ⟨role, List.mem_cons_self, error, _, _, answer, inOrder_of_error (call_before_refused answer run), rfl, ?_⟩
          intro deed member
          exact ⟨role, false, List.mem_singleton.mp member⟩
      | none =>
          have later : ∃ role ∈ rest, refusal? plan.topology plan.phase role ≠ none := by
            obtain ⟨other, member, refuses⟩ := refused
            rcases List.mem_cons.mp member with rfl | among
            · exact (refuses answer).elim
            · exact ⟨other, among, refuses⟩
          have performed := call_before_accepted answer run
          obtain ⟨other, member, error, called, left, refuses, ends, deeds, hooks⟩ := ih _ later
          refine ⟨other, List.mem_cons_of_mem _ member, error, .hook .before role true :: called, left, refuses, ?_, ?_, ?_⟩
          · rw [List.map_cons, List.map_cons, inOrder_of_ok performed, ends]
          · rw [deeds, List.append_assoc, List.singleton_append]
          · exact List.forall_mem_cons.mpr ⟨⟨role, true, rfl⟩, hooks⟩

-- Nothing comes after a hook that is refused its ports, and the hooks before it leave the cluster and the provider alone.
theorem phase_refused (plan : PhasePlan σ) (run : PhaseRun σ)
    (refused : ∃ role ∈ roles, refusal? plan.topology plan.phase role ≠ none) :
    ∃ role ∈ roles, ∃ error called left, refusal? plan.topology plan.phase role = some error ∧
      inOrder (perform plan) (plan.phase.steps (roles.map .scripted)) run =
        (.error (.handler role plan.phase .before (.config error)), left) ∧
      left.event.cluster = run.event.cluster ∧ left.event.provider = run.event.provider ∧
      left.deeds = run.deeds ++ called ∧ ∀ deed ∈ called, ∃ role succeeded, deed = .hook .before role succeeded := by
  obtain ⟨role, member, error, called, left, refuses, ends, told⟩ := befores_refused plan run refused
  obtain ⟨cluster, provider⟩ := befores_leave plan roles run
  rw [ends] at cluster provider
  refine ⟨role, member, error, called, left, refuses, ?_, cluster, provider, told⟩
  rw [Phase.steps_eq, inOrder_append, ends]

theorem effect_queue (plan : PhasePlan σ) (effect : Effect) (run : PhaseRun σ) :
    (perform plan (.effect effect) run).2.event.queue = run.event.queue := by
  cases effect with
  | launch =>
      simp only [perform, launch]
      split <;> rfl
  | authorize | rollOut | destroy =>
      simp only [perform, authorize, rollOut, destroy]
      split
      · rfl
      · split <;> rfl

theorem call_after_queue (plan : PhasePlan σ) (role : String) (run : PhaseRun σ) :
    (perform plan (.call .after (.scripted role)) run).2.event.queue = run.event.queue := by
  change (call plan .after (.scripted role) run).2.event.queue = _
  rw [call_event]
  cases plan.phase <;> rfl

end PhaseRun

namespace Dispatcher

variable {dispatcher : Dispatcher σ} {phase : Phase} {topology : Topology} {cluster : Cluster}
  {handlers : List (Handler σ)}

theorem handlers_scripted
    (scripted : ∀ role ∈ rolesFor phase topology cluster, ∀ handler, dispatcher.registry.get? role = some handler →
      handler = .scripted role)
    (found : dispatcher.handlersFor phase topology cluster = .ok handlers) :
    handlers = (rolesFor phase topology cluster).toList.map .scripted := by
  have listed := Registry.resolved_handlers (resolved_of_found found)
  apply List.map_injective_iff.mpr (Option.some_injective (Handler σ))
  rw [← listed, List.map_map]
  refine List.map_congr_left fun role member => ?_
  have registered : dispatcher.registry.get? role ∈ handlers.map some := listed ▸ List.mem_map_of_mem member
  obtain ⟨handler, _, same⟩ := List.mem_map.mp registered
  rw [← same, scripted role member handler same.symm]
  rfl

variable {roles : List String} (found : dispatcher.handlersFor phase topology cluster = .ok (roles.map .scripted))
  {now : Nat} {state : σ}

include found

/-- What is done before a phase: all hooks are called, or one of them is refused its ports and nothing comes after it. -/
theorem history_prepared :
    let plan := dispatcher.planOf phase topology
    let begun := dispatcher.begun phase topology cluster now state
    let hooks := Muster.history (PhaseRun.perform plan) ((roles.map .scripted).map (.call .before)) begun
    ((∀ role ∈ roles, refusal? topology phase role = none) ∧ ∃ prepared : PhaseRun σ,
      prepared.event = begun.event.prepared topology phase roles ∧
      dispatcher.history phase topology cluster now state = hooks ++ Muster.history (PhaseRun.perform plan)
        (phase.effects.map .effect ++ (roles.map .scripted).map (.call .after)) prepared) ∨
    (∃ role ∈ roles, refusal? topology phase role ≠ none) ∧
      dispatcher.history phase topology cluster now state = hooks := by
  intro plan begun hooks
  rw [history_of_found now state found, Phase.steps_eq]
  by_cases refused : ∃ role ∈ roles, refusal? topology phase role ≠ none
  · obtain ⟨_, _, _, _, _, _, ends, _⟩ := PhaseRun.befores_refused plan begun refused
    exact .inr ⟨refused, history_append_of_error (congrArg Prod.fst ends) _⟩
  · have accepted : ∀ role ∈ roles, refusal? topology phase role = none := by simpa using refused
    exact .inl ⟨accepted, _, rfl, history_append_of_ok (PhaseRun.befores_prepare plan accepted begun)⟩

-- Whatever a phase does to the provider, it does with the statements that all hooks before it have queued.
theorem effect_prepared {entry : Performed (PhaseStep σ) (PhaseRun σ) Error}
    (member : entry ∈ dispatcher.history phase topology cluster now state) {effect : Effect}
    (step : entry.step = .effect effect) : entry.found.event.queue =
      ((dispatcher.begun phase topology cluster now state).event.prepared topology phase roles).queue := by
  have early (before : entry ∈ Muster.history (PhaseRun.perform (dispatcher.planOf phase topology))
      ((roles.map Handler.scripted).map (.call .before)) (dispatcher.begun phase topology cluster now state)) : False := by
    obtain ⟨handler, _, same⟩ := List.mem_map.mp (performed_of_mem before).1
    cases same.trans step
  rcases history_prepared found with ⟨_, prepared, event, parts⟩ | ⟨_, parts⟩
  · rw [parts] at member
    rcases List.mem_append.mp member with before | later
    · exact (early before).elim
    · refine found_keeps (fun run : PhaseRun σ => run.event.queue = _) ?_ (congrArg PhaseEvent.queue event) later
      intro step among run same
      rcases List.mem_append.mp among with among | among
      · obtain ⟨does, _, rfl⟩ := List.mem_map.mp among
        exact (PhaseRun.effect_queue _ does run).trans same
      · rw [List.map_map] at among
        obtain ⟨role, _, rfl⟩ := List.mem_map.mp among
        exact (PhaseRun.call_after_queue _ role run).trans same
  · rw [parts] at member
    exact (early member).elim

-- A phase that gets past its hooks does something to the provider.
theorem effect_reached (accepted : ∀ role ∈ roles, refusal? topology phase role = none) :
    ∃ entry ∈ dispatcher.history phase topology cluster now state, ∃ effect, entry.step = .effect effect := by
  rcases history_prepared found with ⟨_, prepared, _, parts⟩ | ⟨⟨role, member, refused⟩, _⟩
  · obtain ⟨effect, more, effects⟩ := List.exists_cons_of_ne_nil phase.effects_ne_nil
    rw [effects, List.map_cons, List.cons_append] at parts
    obtain ⟨entry, first, step⟩ := exists_history_head (PhaseRun.perform (dispatcher.planOf phase topology))
      (.effect effect) (more.map .effect ++ (roles.map .scripted).map (.call .after)) prepared
    exact ⟨entry, parts ▸ List.mem_append_right _ first, effect, step⟩
  · exact (refused (accepted role member)).elim

end Dispatcher

end Muster
