import Muster.Proofs.Lifecycle.Checks
import Muster.Proofs.Lifecycle.Deeds

/-!
The order of a phase. The hooks before it are called in the order of the roles, then the
phase does what it is for, then the hooks after it are called. Nothing is done after a
failure; what is told of the failure is the hook that was called last, or else what the
provider said.
-/

namespace Muster

variable {σ : Type}

/-! ### What there is to do in a phase -/

inductive Act where
  | call (hook : Hook) (role : String)
  | effect (effect : Effect)
  deriving DecidableEq

def PhaseStep.act : PhaseStep σ → Act
  | .call hook handler => .call hook handler.role
  | .effect does => .effect does

def Deed.act : Deed → Act
  | .hook moment role _ => .call moment role
  | .launch _ => .effect .launch
  | .authorize .. => .effect .authorize
  | .run .. => .effect .rollOut
  | .destroy .. => .effect .destroy

def Act.hook? : Act → Option (Hook × String)
  | .call hook role => some (hook, role)
  | .effect _ => none

namespace Phase

def protocol (phase : Phase) (roles : RoleSet) : List Act :=
  roles.toList.map (.call .before) ++ (phase.effects.map .effect ++ roles.toList.map (.call .after))

theorem steps_acts {registry : Registry σ} (keyed : registry.Keyed) {roles : RoleSet}
    {handlers : List (Handler σ)} (resolved : registry.resolve roles = .ok handlers) (phase : Phase) :
    (phase.steps handlers).map PhaseStep.act = phase.protocol roles := by
  have called (hook : Hook) :
      handlers.map (PhaseStep.act ∘ .call hook) = roles.toList.map (.call hook) := by
    rw [← Registry.resolved_roles resolved keyed, List.map_map]
    rfl
  simp only [steps, protocol, List.map_append, List.map_map, called, List.append_assoc]
  rfl

theorem protocol_ne_nil (phase : Phase) (roles : RoleSet) : phase.protocol roles ≠ [] := by
  cases phase <;> simp [protocol, effects]

theorem protocol_hooks (phase : Phase) (roles : RoleSet) :
    (phase.protocol roles).filterMap Act.hook? =
      roles.toList.map (Prod.mk .before) ++ roles.toList.map (Prod.mk .after) := by
  have none : (phase.effects.map Act.effect).filterMap Act.hook? = [] := by
    simp [List.filterMap_map, Act.hook?, Function.comp_def]
  have called (hook : Hook) :
      (roles.toList.map (Act.call hook)).filterMap Act.hook? = roles.toList.map (Prod.mk hook) := by
    rw [List.filterMap_map]
    exact congrFun List.filterMap_eq_map _
  rw [protocol, List.filterMap_append, List.filterMap_append, none, called, called, List.nil_append]

end Phase

-- What stands in two lists that are put together stands in the first or in the second.
theorem split_append {α : Type} {early late first second : List α} {item : α}
    (same : first ++ second = early ++ item :: late) :
    (∃ later, first = early ++ item :: later ∧ late = later ++ second) ∨
      ∃ sooner, early = first ++ sooner ∧ second = sooner ++ item :: late := by
  rcases List.append_eq_append_iff.mp same with ⟨sooner, longer, rest⟩ | ⟨later, longer, rest⟩
  · exact .inr ⟨sooner, longer, rest⟩
  · cases later with
    | nil => exact .inr ⟨[], by simpa using longer.symm, by simpa using rest.symm⟩
    | cons head later =>
        obtain ⟨rfl, remaining⟩ := List.cons.inj rest
        exact .inl ⟨later, longer, remaining⟩

theorem split_map {α β : Type} {f : α → β} (injective : ∀ a b, f a = f b → a = b) {items : List α} {item : α}
    {early late : List β} (same : items.map f = early ++ f item :: late) :
    ∃ sooner later, items = sooner ++ item :: later ∧ early = sooner.map f := by
  obtain ⟨sooner, rest, parts, rfl, after⟩ := List.map_eq_append_iff.mp same
  obtain ⟨next, later, rfl, equal, _⟩ := List.map_eq_cons_iff.mp after
  obtain rfl := injective _ _ equal
  exact ⟨sooner, later, parts, rfl⟩

namespace Phase

variable {phase : Phase} {roles : RoleSet} {early late : List Act}

-- All hooks before the phase come before anything that is done to the provider.
theorem protocol_effect {effect : Effect} (split : phase.protocol roles = early ++ .effect effect :: late) :
    ∃ sooner later, phase.effects = sooner ++ effect :: later ∧
      early = roles.toList.map (.call .before) ++ sooner.map .effect := by
  rcases split_append split with ⟨later, among, _⟩ | ⟨sooner, past, rest⟩
  · have member : Act.effect effect ∈ roles.toList.map (.call .before) := by simp [among]
    simp at member
  · rcases split_append rest with ⟨later, among, _⟩ | ⟨_, _, among⟩
    · obtain ⟨done, left, parts, rfl⟩ := split_map (fun _ _ => Act.effect.inj) among
      exact ⟨done, left, parts, past⟩
    · have member : Act.effect effect ∈ roles.toList.map (.call .after) := by simp [among]
      simp at member

-- All that the phase does to the provider comes before the hooks after it.
theorem protocol_after {role : String} (split : phase.protocol roles = early ++ .call .after role :: late) :
    ∃ sooner later, roles.toList = sooner ++ role :: later ∧
      early = roles.toList.map (.call .before) ++ phase.effects.map .effect ++ sooner.map (.call .after) := by
  rw [protocol, ← List.append_assoc] at split
  rcases split_append split with ⟨later, among, _⟩ | ⟨sooner, past, rest⟩
  · have member : Act.call .after role ∈ roles.toList.map (.call .before) ++ phase.effects.map .effect := by
      simp [among]
    simp at member
  · obtain ⟨called, left, parts, rfl⟩ := split_map (fun _ _ same => (Act.call.inj same).2) rest
    exact ⟨called, left, parts, past⟩

end Phase

/-! ### What is told of a step -/

structure HookCall where
  hook : Hook
  role : String
  answer : Except Error Unit

namespace Performed

variable (entry : Performed (PhaseStep σ) (PhaseRun σ) Error)

def act : Act := entry.step.act

def hookCall? (phase : Phase) (topology : Topology) : Option HookCall :=
  match entry.step with
  | .call hook handler => some ⟨hook, handler.role, (handler.hook hook phase topology entry.found.event).1⟩
  | .effect _ => none

def deeds : List Deed := entry.left.deeds.drop entry.found.deeds.length

structure Noted : Prop where
  kind : ∀ deed ∈ entry.deeds, deed.act = entry.act
  result : entry.result = .ok () ↔ ∀ deed ∈ entry.deeds, deed.succeeded = true
  called : ∀ hook role, entry.act = .call hook role → ∃ succeeded, entry.deeds = [.hook hook role succeeded]

theorem hookCall?_act (phase : Phase) (topology : Topology) :
    (entry.hookCall? phase topology).map (fun call => (call.hook, call.role)) = entry.act.hook? := by
  simp only [hookCall?, act]
  cases entry.step <;> rfl

end Performed

namespace PhaseRun

variable (plan : PhasePlan σ)

-- Deeds are only added, those of an effect are of its kind, and there may be none.
theorem effect_kind (effect : Effect) (run : PhaseRun σ) : ∃ deeds,
    (perform plan (.effect effect) run).2.deeds = run.deeds ++ deeds ∧ ∀ deed ∈ deeds, deed.act = .effect effect := by
  cases effect with
  | launch =>
      simp only [perform, launch]
      split <;> exact ⟨[_], rfl, by simp [Deed.act]⟩
  | authorize =>
      simp only [perform, authorize]
      split
      · exact ⟨[], by simp, List.forall_mem_nil _⟩
      · split <;> exact ⟨[_], rfl, by simp [Deed.act]⟩
  | rollOut =>
      simp only [perform, rollOut]
      split
      · exact ⟨[], by simp, List.forall_mem_nil _⟩
      · split <;> exact ⟨_, rfl, by simp [Deed.act]⟩
  | destroy =>
      simp only [perform, destroy]
      split
      · exact ⟨[], by simp, List.forall_mem_nil _⟩
      · split <;> exact ⟨[_], rfl, by simp [Deed.act]⟩

theorem perform_kind (step : PhaseStep σ) (run : PhaseRun σ) : ∃ deeds,
    (perform plan step run).2.deeds = run.deeds ++ deeds ∧ (∀ deed ∈ deeds, deed.act = step.act) ∧
      ∀ hook role, step.act = .call hook role → ∃ succeeded, deeds = [.hook hook role succeeded] := by
  cases step with
  | call hook handler =>
      have noted : ∃ succeeded, (call plan hook handler run).2.deeds =
          run.deeds ++ [.hook hook handler.role succeeded] := by
        simp only [call]
        split <;> exact ⟨_, rfl⟩
      obtain ⟨succeeded, added⟩ := noted
      refine ⟨_, added, by simp [Deed.act, PhaseStep.act], ?_⟩
      rintro _ _ ⟨⟩
      exact ⟨succeeded, rfl⟩
  | effect effect =>
      obtain ⟨deeds, added, kind⟩ := effect_kind plan effect run
      exact ⟨deeds, added, kind, by simp [PhaseStep.act]⟩

theorem perform_noted {step : PhaseStep σ} {run after : PhaseRun σ} {result : Except Error Unit}
    (performed : perform plan step run = (result, after)) :
    (⟨step, run, result, after⟩ : Performed (PhaseStep σ) (PhaseRun σ) Error).Noted ∧
      after.deeds = run.deeds ++ (⟨step, run, result, after⟩ : Performed (PhaseStep σ) (PhaseRun σ) Error).deeds := by
  obtain ⟨deeds, added, kind, called⟩ := perform_kind plan step run
  obtain ⟨same, told⟩ := perform_tells plan step run
  simp only [performed] at added told
  have noted : (⟨step, run, result, after⟩ : Performed (PhaseStep σ) (PhaseRun σ) Error).deeds = deeds := by
    simp [Performed.deeds, added]
  obtain rfl := List.append_cancel_left (told.added.symm.trans added)
  exact ⟨⟨noted ▸ kind, noted ▸ told.result, noted ▸ called⟩, noted ▸ added⟩

theorem inOrder_deeds (steps : List (PhaseStep σ)) (run : PhaseRun σ) :
    (inOrder (perform plan) steps run).2.deeds =
      run.deeds ++ (Muster.history (perform plan) steps run).flatMap Performed.deeds := by
  induction steps generalizing run with
  | nil => simp [inOrder, Muster.history]
  | cons step rest ih =>
      rcases performed : perform plan step run with ⟨error | ⟨⟩, after⟩
      · rw [inOrder_of_error performed, history_of_error performed, List.flatMap_singleton]
        exact (perform_noted plan performed).2
      · rw [inOrder_of_ok performed, history_of_ok performed, List.flatMap_cons, ih,
          (perform_noted plan performed).2, List.append_assoc]

end PhaseRun

namespace Dispatcher

structure KeepsOrder (phase : Phase) (topology : Topology) (roles : RoleSet)
    (done : List (Performed (PhaseStep σ) (PhaseRun σ) Error)) : Prop where
  acts : done.map Performed.act <+: phase.protocol roles
  hooks : (done.filterMap (Performed.hookCall? · phase topology)).map (fun call => (call.hook, call.role)) <+:
    roles.toList.map (Prod.mk .before) ++ roles.toList.map (Prod.mk .after)
  onward : ∀ early entry late, done = early ++ entry :: late → ∀ other ∈ early, other.result = .ok ()
  effects : ∀ early entry late effect, done = early ++ entry :: late → entry.act = .effect effect →
    ∃ sooner later, phase.effects = sooner ++ effect :: later ∧
      early.map Performed.act = roles.toList.map (.call .before) ++ sooner.map .effect
  afterwards : ∀ early entry late role, done = early ++ entry :: late → entry.act = .call .after role →
    ∃ sooner later, roles.toList = sooner ++ role :: later ∧
      early.map Performed.act = roles.toList.map (.call .before) ++ phase.effects.map .effect ++
        sooner.map (.call .after)

structure MadeOf (dispatcher : Dispatcher σ) (phase : Phase) (topology : Topology) (cluster : Cluster)
    (now : Nat) (state : σ) (done : List (Performed (PhaseStep σ) (PhaseRun σ) Error))
    (outcome : PhaseOutcome σ) : Prop where
  performed : ∀ entry ∈ done,
    PhaseRun.perform (dispatcher.planOf phase topology) entry.step entry.found = (entry.result, entry.left)
  linked : done ≠ [] → ∃ ended : PhaseRun σ,
    outcome = ⟨outcome.result, { dispatcher with firewall := ended.event.firewall }, ended.event.cluster,
      ended.event.provider, ended.now, ended.deeds⟩ ∧
    done.map Performed.found ++ [ended] =
      dispatcher.begun phase topology cluster now state :: done.map Performed.left
  idle : done = [] → outcome = ⟨outcome.result, dispatcher, cluster, state, now, []⟩
  deeds : outcome.deeds = done.flatMap Performed.deeds
  noted : ∀ entry ∈ done, entry.Noted

variable {dispatcher : Dispatcher σ} {phase : Phase} {topology : Topology} {cluster : Cluster}

theorem resolved_of_found {handlers : List (Handler σ)}
    (found : dispatcher.handlersFor phase topology cluster = .ok handlers) :
    dispatcher.registry.resolve (rolesFor phase topology cluster) = .ok handlers := by
  rw [handlersFor] at found
  split at found
  · cases found
  · split at found
    · cases found
    · cases found
      assumption

theorem history_acts (keyed : dispatcher.registry.Keyed) (phase : Phase) (topology : Topology) (cluster : Cluster)
    (now : Nat) (state : σ) : (dispatcher.history phase topology cluster now state).map Performed.act <+:
      phase.protocol (rolesFor phase topology cluster) := by
  cases found : dispatcher.handlersFor phase topology cluster with
  | error refused =>
      rw [history, found]
      exact List.nil_prefix
  | ok handlers =>
      rw [history_of_found now state found, ← Phase.steps_acts keyed (resolved_of_found found)]
      have performed := (history_isPrefix (PhaseRun.perform (dispatcher.planOf phase topology))
        (phase.steps handlers) (dispatcher.begun phase topology cluster now state)).map PhaseStep.act
      rwa [List.map_map] at performed

-- A call that is answered with an error fails with that error under the name of its role.
theorem failed_call {entry : Performed (PhaseStep σ) (PhaseRun σ) Error} (performed :
      PhaseRun.perform (dispatcher.planOf phase topology) entry.step entry.found = (entry.result, entry.left))
    {role : String} {named : Phase} {hook : Hook} {cause : Error} :
    entry.result = .error (.handler role named hook cause) ↔
      named = phase ∧ entry.hookCall? phase topology = some ⟨hook, role, .error cause⟩ := by
  have result := congrArg Prod.fst performed
  cases step : entry.step with
  | effect effect =>
      rw [step] at result
      constructor
      · intro failed
        obtain ⟨_, same⟩ := PhaseRun.effect_error (result.trans failed)
        cases same
      · rintro ⟨_, called⟩
        rw [Performed.hookCall?, step] at called
        cases called
  | call moment handler =>
      rw [step, PhaseRun.call_result] at result
      have called : entry.hookCall? phase topology =
          some ⟨moment, handler.role, (handler.hook moment phase topology entry.found.event).1⟩ := by
        rw [Performed.hookCall?, step]
      rw [called, ← show _ = entry.result from result, planOf]
      cases (handler.hook moment phase topology entry.found.event).1 with
      | ok _ => simp [Except.mapError]
      | error _ =>
          simp only [Except.mapError, Except.error.injEq, Error.handler.injEq, Option.some.injEq, HookCall.mk.injEq]
          constructor
          · rintro ⟨rfl, rfl, rfl, rfl⟩
            exact ⟨rfl, rfl, rfl, rfl⟩
          · rintro ⟨rfl, rfl, rfl, rfl⟩
            exact ⟨rfl, rfl, rfl, rfl⟩

-- What is cut off the history of a phase is cut off its protocol.
theorem history_cut (keyed : dispatcher.registry.Keyed) {now : Nat} {state : σ}
    {early late : List (Performed (PhaseStep σ) (PhaseRun σ) Error)}
    {entry : Performed (PhaseStep σ) (PhaseRun σ) Error}
    (split : dispatcher.history phase topology cluster now state = early ++ entry :: late) :
    ∃ rest, phase.protocol (rolesFor phase topology cluster) = early.map Performed.act ++ entry.act :: rest := by
  obtain ⟨rest, whole⟩ := history_acts keyed phase topology cluster now state
  rw [split, List.map_append, List.map_cons] at whole
  exact ⟨late.map Performed.act ++ rest, by simp [← whole]⟩

theorem history_keepsOrder (keyed : dispatcher.registry.Keyed) (phase : Phase) (topology : Topology) (cluster : Cluster)
    (now : Nat) (state : σ) : KeepsOrder phase topology (rolesFor phase topology cluster)
      (dispatcher.history phase topology cluster now state) := by
  have acts := history_acts keyed phase topology cluster now state
  constructor
  case acts => exact acts
  case hooks =>
    have called := acts.filterMap Act.hook?
    rw [Phase.protocol_hooks, List.filterMap_map] at called
    rw [List.map_filterMap]
    simp only [Performed.hookCall?_act]
    exact called
  case onward =>
    intro early entry late split other member
    cases found : dispatcher.handlersFor phase topology cluster with
    | error refused => simp [history, found] at split
    | ok handlers =>
        rw [history_of_found now state found] at split
        exact ok_of_earlier split member
  case effects =>
    intro early entry late effect split act
    obtain ⟨rest, whole⟩ := history_cut keyed split
    exact Phase.protocol_effect (act ▸ whole)
  case afterwards =>
    intro early entry late role split act
    obtain ⟨rest, whole⟩ := history_cut keyed split
    exact Phase.protocol_after (act ▸ whole)

theorem history_begins (now : Nat) (state : σ) {handlers : List (Handler σ)}
    (found : dispatcher.handlersFor phase topology cluster = .ok handlers) :
    dispatcher.history phase topology cluster now state ≠ [] := by
  rw [history_of_found now state found]
  cases steps : phase.steps handlers with
  | nil => cases phase <;> simp [Phase.steps, Phase.effects] at steps
  | cons step rest => exact history_ne_nil _ step rest _

theorem history_madeOf (dispatcher : Dispatcher σ) (phase : Phase) (topology : Topology) (cluster : Cluster)
    (now : Nat) (state : σ) : MadeOf dispatcher phase topology cluster now state
      (dispatcher.history phase topology cluster now state)
      (dispatcher.run phase topology cluster now state) := by
  cases found : dispatcher.handlersFor phase topology cluster with
  | error refused =>
      have nothing : dispatcher.history phase topology cluster now state = [] := by rw [history, found]
      rw [nothing, run_of_refused now state found]
      exact ⟨List.forall_mem_nil _, fun some => (some rfl).elim, fun _ => rfl, rfl, List.forall_mem_nil _⟩
  | ok handlers =>
      have some := history_begins now state found
      rw [history_of_found now state found] at some ⊢
      rw [run_of_found now state found]
      constructor
      case performed => exact fun entry member => (performed_of_mem member).2
      case linked => exact fun _ => ⟨_, rfl, history_linked _ _ _⟩
      case idle => exact fun none => (some none).elim
      case deeds => exact PhaseRun.inOrder_deeds _ _ _
      case noted =>
        intro entry member
        exact (PhaseRun.perform_noted _ (performed_of_mem member).2).1

theorem last_of_error (keyed : dispatcher.registry.Keyed) {now : Nat} {state : σ} {error : Error}
    (fails : (dispatcher.run phase topology cluster now state).result = .error error) (late : ¬ error.IsCheck) :
    ∃ entry, (dispatcher.history phase topology cluster now state).getLast? = some entry ∧
      entry.result = .error error := by
  have checks := handlersFor_checked dispatcher keyed phase topology cluster
  cases found : dispatcher.handlersFor phase topology cluster with
  | error refused =>
      rw [run_of_refused now state found] at fails
      cases fails
      rw [found] at checks
      exact (late checks.isCheck).elim
  | ok handlers =>
      rw [run_of_found now state found] at fails
      rw [history_of_found now state found]
      exact failed_of_error fails

theorem error_of_entry {now : Nat} {state : σ} {entry : Performed (PhaseStep σ) (PhaseRun σ) Error}
    (member : entry ∈ dispatcher.history phase topology cluster now state) {error : Error}
    (failed : entry.result = .error error) :
    (dispatcher.run phase topology cluster now state).result = .error error := by
  cases found : dispatcher.handlersFor phase topology cluster with
  | error refused => simp [history, found] at member
  | ok handlers =>
      rw [history_of_found now state found] at member
      rw [run_of_found now state found]
      exact error_of_failed member failed

section

variable (keyed : dispatcher.registry.Keyed) (phase : Phase) (topology : Topology) (cluster : Cluster) (now : Nat)
  (state : σ)

include keyed

theorem hook_fails_iff {role : String} {named : Phase} {hook : Hook} {cause : Error} :
    (dispatcher.run phase topology cluster now state).result = .error (.handler role named hook cause) ↔
      named = phase ∧ ((dispatcher.history phase topology cluster now state).filterMap
        (Performed.hookCall? · phase topology)).getLast? = some ⟨hook, role, .error cause⟩ := by
  have madeOf := history_madeOf dispatcher phase topology cluster now state
  constructor
  · intro fails
    obtain ⟨entry, last, failed⟩ := last_of_error keyed fails id
    obtain ⟨same, called⟩ := (failed_call (madeOf.performed entry (List.mem_of_getLast? last))).mp failed
    obtain ⟨early, split⟩ := List.getLast?_eq_some_iff.mp last
    refine ⟨same, ?_⟩
    rw [split, List.filterMap_append]
    simp [called]
  · rintro ⟨rfl, last⟩
    obtain ⟨entry, member, called⟩ := List.mem_filterMap.mp (List.mem_of_getLast? last)
    exact error_of_entry member ((failed_call (madeOf.performed entry member)).mpr ⟨rfl, called⟩)

theorem run_succeeds_iff : (dispatcher.run phase topology cluster now state).result = .ok () ↔
    (dispatcher.history phase topology cluster now state).map (fun entry => (entry.act, entry.result)) =
      (phase.protocol (rolesFor phase topology cluster)).map fun act => (act, .ok ()) := by
  cases found : dispatcher.handlersFor phase topology cluster with
  | error refused =>
      rw [history, found, run_of_refused now state found]
      constructor
      · rintro ⟨⟩
      · intro same
        exact (phase.protocol_ne_nil _ (List.map_eq_nil_iff.mp same.symm)).elim
  | ok handlers =>
      rw [history_of_found now state found, run_of_found now state found,
        ← Phase.steps_acts keyed (resolved_of_found found) phase]
      constructor
      · intro succeeds
        have each := congrArg (List.map (Prod.map PhaseStep.act id)) (history_complete succeeds)
        rw [List.map_map, List.map_map] at each
        rw [List.map_map]
        exact each
      · intro same
        cases ends : (inOrder (PhaseRun.perform (dispatcher.planOf phase topology)) (phase.steps handlers)
          (dispatcher.begun phase topology cluster now state)).1 with
        | ok _ => rfl
        | error error =>
            obtain ⟨entry, last, failed⟩ := failed_of_error ends
            have among := List.mem_map_of_mem (f := fun entry => (entry.act, entry.result))
              (List.mem_of_getLast? last)
            rw [same] at among
            obtain ⟨_, _, equal⟩ := List.mem_map.mp among
            cases (congrArg Prod.snd equal).trans failed

end

/-- A phase keeps to its protocol, whatever its handlers do and wherever it fails: hooks and
effects come in the order laid down, each only after all before it have succeeded, and the phase
succeeds when all of them do. It fails as a hook just when the hook that was called last fails. -/
theorem hooks_in_protocol (dispatcher : Dispatcher σ) (keyed : dispatcher.registry.Keyed) (phase : Phase)
    (topology : Topology) (cluster : Cluster) (now : Nat) (state : σ) :
    let outcome := dispatcher.run phase topology cluster now state
    let done := dispatcher.history phase topology cluster now state
    let roles := rolesFor phase topology cluster
    KeepsOrder phase topology roles done ∧
    MadeOf dispatcher phase topology cluster now state done outcome ∧
    (∀ role named hook cause, outcome.result = .error (.handler role named hook cause) ↔
      named = phase ∧ (done.filterMap (Performed.hookCall? · phase topology)).getLast? =
        some ⟨hook, role, .error cause⟩) ∧
    (outcome.result = .ok () ↔
      done.map (fun entry => (entry.act, entry.result)) = (phase.protocol roles).map fun act => (act, .ok ())) := by
  intro outcome done roles
  constructor
  · exact history_keepsOrder keyed phase topology cluster now state
  constructor
  · exact history_madeOf dispatcher phase topology cluster now state
  constructor
  · intro role named hook cause
    exact hook_fails_iff keyed phase topology cluster now state
  · exact run_succeeds_iff keyed phase topology cluster now state

-- The machines are launched, and then the hook of the second role fails.
theorem hooks_in_protocol_of_two :
    let topology := Launch.plainTopology [⟨.ofList ["master", "worker"], 1, 100, 1⟩] 0
    let failing : Handler Simulation := ⟨"worker", [], fun
      | .before, _ => .nothing
      | .after, _ => fun _ event => (.error (.note "no"), event)⟩
    let dispatcher : Dispatcher Simulation :=
      .new Simulation.provider (.ofHandlers [failing, .idle "master"]) topology .none
    let outcome := dispatcher.run .bootstrap topology (.new "small") 0 .new
    let done := dispatcher.history .bootstrap topology (.new "small") 0 .new
    outcome.result = .error (.handler "worker" .bootstrap .after (.note "no")) ∧
    done.map Performed.act = [.call .before "master", .call .before "worker", .effect .launch,
      .call .after "master", .call .after "worker"] ∧
    KeepsOrder .bootstrap topology (rolesFor .bootstrap topology (.new "small")) done ∧
    (done.filterMap (Performed.hookCall? · .bootstrap topology)).getLast? =
      some ⟨.after, "worker", .error (.note "no")⟩ := by
  intro topology failing dispatcher outcome done
  have keyed : dispatcher.registry.Keyed := Registry.ofHandlers_keyed _
  have fails : outcome.result = .error (.handler "worker" .bootstrap .after (.note "no")) := by decide +kernel
  have acts : done.map Performed.act = [.call .before "master", .call .before "worker", .effect .launch,
      .call .after "master", .call .after "worker"] := by decide +kernel
  obtain ⟨order, _, failed, _⟩ := hooks_in_protocol dispatcher keyed .bootstrap topology (.new "small") 0 .new
  exact ⟨fails, acts, order, ((failed _ _ _ _).mp fails).2⟩

end Dispatcher

end Muster
