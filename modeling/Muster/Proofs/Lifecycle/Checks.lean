import Muster.Proofs.Lifecycle.Leaving

/-!
The checks before a phase. They fail for two reasons only, a role without a handler and two
roles that exclude each other and share a machine, and for no others; and a phase that they
refuse has not begun. What fails later is told as the failure of a hook or of the provider.
-/

namespace Muster

variable {σ : Type}

/-! ### Handlers are known by their roles -/

namespace Registry

/-- Every handler is registered for its own role. Handlers come in by registering, which keeps this so. -/
def Keyed (registry : Registry σ) : Prop :=
  ∀ role handler, registry.get? role = some handler → handler.role = role

variable {registry : Registry σ}

theorem empty_keyed : Registry.Keyed (SortedMap.empty : Registry σ) := empty_each

theorem register_keyed (keyed : registry.Keyed) (handler : Handler σ) : (registry.register handler).Keyed :=
  register_each keyed rfl

theorem ofHandlers_keyed (handlers : List (Handler σ)) : (ofHandlers handlers).Keyed := by
  have kept (registry : Registry σ) (keyed : registry.Keyed) : (handlers.foldl register registry).Keyed := by
    induction handlers generalizing registry with
    | nil => exact keyed
    | cons handler rest ih => exact ih _ (register_keyed keyed handler)
  exact kept _ empty_keyed

theorem withScripted_keyed (keyed : registry.Keyed) (topology : Topology) :
    (registry.withScripted topology).Keyed :=
  withScripted_each keyed topology fun _ => rfl

theorem resolve_error {roles : RoleSet} {error : ConfigError} (fails : registry.resolve roles = .error error) :
    ∃ role ∈ roles, registry.get? role = none ∧ error = .noHandler role := by
  obtain ⟨role, member, missing⟩ := mapM_eq_error fails
  split at missing
  · rename_i absent
    cases missing
    exact ⟨role, member, absent, rfl⟩
  · cases missing

variable {roles : RoleSet} {handlers : List (Handler σ)} (resolved : registry.resolve roles = .ok handlers)

include resolved

-- One handler for each role, in the order of the roles.
theorem resolved_handlers : roles.toList.map registry.get? = handlers.map some := by
  have found := congrArg (List.map Except.toOption) (mapM_eq_ok.mp resolved)
  simp only [List.map_map] at found
  refine Eq.trans (List.map_congr_left fun role _ => ?_) found
  simp only [Function.comp_apply]
  split <;> rename_i present <;> exact present

theorem mem_resolved {handler : Handler σ} :
    handler ∈ handlers ↔ ∃ role ∈ roles, registry.get? role = some handler := by
  have same := resolved_handlers resolved
  rw [← List.mem_map_of_injective (Option.some_injective _), ← same, List.mem_map]
  rfl

theorem resolved_roles (keyed : registry.Keyed) : handlers.map Handler.role = roles.toList := by
  have same := resolved_handlers resolved
  have named (role : String) (member : role ∈ roles.toList) :
      (registry.get? role).map Handler.role = some role := by
    have found : registry.get? role ∈ handlers.map some := same ▸ List.mem_map_of_mem member
    obtain ⟨handler, _, present⟩ := List.mem_map.mp found
    rw [← present, Option.map_some, keyed role handler present.symm]
  apply List.map_injective_iff.mpr (Option.some_injective String)
  calc (handlers.map Handler.role).map some
      = (handlers.map some).map (Option.map Handler.role) := by simp only [List.map_map]; rfl
    _ = roles.toList.map fun role => (registry.get? role).map Handler.role := by rw [← same, List.map_map]; rfl
    _ = roles.toList.map some := List.map_congr_left named

end Registry

namespace Dispatcher

/-! ### Roles that are to be apart -/

/-- The first role must not share a machine with the other: its handler says so, or its settings do. -/
def Excludes (registry : Registry σ) (topology : Topology) (role other : String) : Prop :=
  ∃ handler, registry.get? role = some handler ∧
    (other ∈ handler.disallowed ∨
      ∃ config, topology.roleConfig? role = some config ∧ other ∈ config.disallowColocation)

/-- Something carries both roles: a group before there are machines, a machine from then on. -/
def Share (phase : Phase) (topology : Topology) (cluster : Cluster) (role other : String) : Prop :=
  match phase with
  | .bootstrap => ∃ group ∈ topology.groups, role ∈ group.roles ∧ other ∈ group.roles
  | _ => ∃ machine ∈ cluster.instances, role ∈ machine.roles ∧ other ∈ machine.roles

theorem mem_exclusions {registry : Registry σ} (keyed : registry.Keyed) {roles : RoleSet}
    {handlers : List (Handler σ)} (resolved : registry.resolve roles = .ok handlers) (topology : Topology)
    {role other : String} :
    (role, other) ∈ exclusions topology handlers ↔ role ∈ roles ∧ Excludes registry topology role other := by
  have listed (handler : Handler σ) : other ∈ (excluded topology handler).toList ↔
      other ∈ handler.disallowed ∨
        ∃ config, topology.roleConfig? handler.role = some config ∧ other ∈ config.disallowColocation := by
    rw [excluded, SortedSet.mem_toList, SortedSet.mem_ofList, List.mem_append]
    cases topology.roleConfig? handler.role <;> simp
  simp only [exclusions, List.mem_flatMap, List.mem_map, Prod.mk.injEq, Registry.mem_resolved resolved]
  constructor
  · rintro ⟨handler, ⟨name, member, present⟩, _, excludes, rfl, rfl⟩
    have own := keyed name handler present
    rw [own]
    exact ⟨member, handler, present, own ▸ (listed handler).mp excludes⟩
  · rintro ⟨member, handler, present, excludes⟩
    have own := keyed role handler present
    exact ⟨handler, ⟨role, member, present⟩, other, (listed handler).mpr (own ▸ excludes), own, rfl⟩

section

variable {phase : Phase} {topology : Topology} {cluster : Cluster}

-- What is found to share a machine does, and what is not does not.
theorem checkApart_cases (phase : Phase) (topology : Topology) (cluster : Cluster) (role other : String) :
    (checkApart phase topology cluster role other = .ok () ∧ ¬ Share phase topology cluster role other) ∨
    ∃ location, checkApart phase topology cluster role other = .error (.conflict role other location) ∧
      Share phase topology cluster role other := by
  have groups : (topology.checkDisjoint role other = .ok () ∧ ¬ Share .bootstrap topology cluster role other) ∨
      ∃ location, topology.checkDisjoint role other = .error (.conflict role other location) ∧
        Share .bootstrap topology cluster role other := by
    simp only [Topology.checkDisjoint, Share]
    split
    · rename_i none
      left
      simpa [InstanceGroup.hasRole] using none
    · rename_i group some
      have both := List.find?_some some
      simp only [InstanceGroup.hasRole, Bool.and_eq_true, SortedSet.contains_eq_true] at both
      exact .inr ⟨_, rfl, group, List.mem_of_find?_eq_some some, both⟩
  have machines : (cluster.checkDisjoint role other = .ok () ∧ ¬ Share .start topology cluster role other) ∨
      ∃ location, cluster.checkDisjoint role other = .error (.conflict role other location) ∧
        Share .start topology cluster role other := by
    simp only [Cluster.checkDisjoint, Share]
    split
    · rename_i none
      left
      simpa [Instance.hasRole] using none
    · rename_i machine some
      have both := List.find?_some some
      simp only [Instance.hasRole, Bool.and_eq_true, SortedSet.contains_eq_true] at both
      exact .inr ⟨_, rfl, machine, List.mem_of_find?_eq_some some, both⟩
  cases phase with
  | bootstrap => exact groups
  | configure | start | stop | cleanup => exact machines

theorem checkExclusions_eq_ok {pairs : List (String × String)} :
    checkExclusions phase topology cluster pairs = .ok () ↔
      ∀ pair ∈ pairs, ¬ Share phase topology cluster pair.1 pair.2 := by
  induction pairs with
  | nil => simp [checkExclusions]
  | cons pair rest ih =>
      rw [List.forall_mem_cons, ← ih, checkExclusions]
      rcases checkApart_cases phase topology cluster pair.1 pair.2 with ⟨passes, apart⟩ | ⟨_, fails, share⟩
      · simp [passes, apart]
      · simp [fails, share]

theorem checkExclusions_error {pairs : List (String × String)} {error : PlacementError}
    (fails : checkExclusions phase topology cluster pairs = .error error) :
    ∃ pair ∈ pairs, ∃ location, error = ⟨.conflict pair.1 pair.2 location, some phase⟩ ∧
      Share phase topology cluster pair.1 pair.2 := by
  induction pairs with
  | nil => cases fails
  | cons pair rest ih =>
      rw [checkExclusions] at fails
      rcases checkApart_cases phase topology cluster pair.1 pair.2 with ⟨passes, _⟩ | ⟨location, here, share⟩
      · rw [passes] at fails
        obtain ⟨later, member, found⟩ := ih fails
        exact ⟨later, List.mem_cons_of_mem _ member, found⟩
      · rw [here] at fails
        cases fails
        exact ⟨pair, List.mem_cons_self, location, rfl, share⟩

end

inductive Checked (registry : Registry σ) (phase : Phase) (topology : Topology) (cluster : Cluster) :
    Except Error (List (Handler σ)) → Prop where
  | noHandler {role : String} (member : role ∈ rolesFor phase topology cluster)
      (absent : registry.get? role = none) : Checked registry phase topology cluster (.error (.config (.noHandler role)))
  | conflict {role other location : String}
      (known : ∀ role ∈ rolesFor phase topology cluster, registry.get? role ≠ none)
      (member : role ∈ rolesFor phase topology cluster) (excludes : Excludes registry topology role other)
      (share : Share phase topology cluster role other) :
      Checked registry phase topology cluster (.error (.placement ⟨.conflict role other location, some phase⟩))
  | passes {handlers : List (Handler σ)}
      (known : ∀ role ∈ rolesFor phase topology cluster, registry.get? role ≠ none)
      (apart : ∀ role ∈ rolesFor phase topology cluster, ∀ other, Excludes registry topology role other →
        ¬ Share phase topology cluster role other) : Checked registry phase topology cluster (.ok handlers)

theorem handlersFor_checked (dispatcher : Dispatcher σ) (keyed : dispatcher.registry.Keyed) (phase : Phase)
    (topology : Topology) (cluster : Cluster) :
    Checked dispatcher.registry phase topology cluster (dispatcher.handlersFor phase topology cluster) := by
  rw [handlersFor]
  cases resolved : dispatcher.registry.resolve (rolesFor phase topology cluster) with
  | error error =>
      obtain ⟨role, member, absent, rfl⟩ := Registry.resolve_error resolved
      exact .noHandler member absent
  | ok handlers =>
      have excludes {role other : String} : (role, other) ∈ exclusions topology handlers ↔
          role ∈ rolesFor phase topology cluster ∧ Excludes dispatcher.registry topology role other :=
        mem_exclusions keyed resolved topology
      have known (role : String) (member : role ∈ rolesFor phase topology cluster) :
          dispatcher.registry.get? role ≠ none := by
        intro absent
        have found : dispatcher.registry.get? role ∈ handlers.map some :=
          Registry.resolved_handlers resolved ▸ List.mem_map_of_mem member
        simp [absent] at found
      cases checked : checkExclusions phase topology cluster (exclusions topology handlers) with
      | error error =>
          obtain ⟨⟨role, other⟩, among, location, rfl, share⟩ := checkExclusions_error checked
          obtain ⟨member, excluded⟩ := excludes.mp among
          simp only [checked]
          exact .conflict known member excluded share
      | ok _ =>
          simp only [checked]
          refine .passes known fun role member other excluded => ?_
          exact checkExclusions_eq_ok.mp checked (role, other) (excludes.mpr ⟨member, excluded⟩)

end Dispatcher

/-! ### How a phase that has begun can fail -/

def Error.IsCheck : Error → Prop
  | .config _ | .placement _ => True
  | _ => False

namespace PhaseRun

variable {plan : PhasePlan σ} {run : PhaseRun σ}

theorem call_result (plan : PhasePlan σ) (hook : Hook) (handler : Handler σ) (run : PhaseRun σ) :
    (perform plan (.call hook handler) run).1 =
      (handler.hook hook plan.phase plan.topology run.event).1.mapError
        (.handler handler.role plan.phase hook) := by
  simp only [perform, call]
  split <;> rename_i answer <;> rw [answer] <;> rfl

theorem effect_error {effect : Effect} {error : Error}
    (fails : (perform plan (.effect effect) run).1 = .error error) : ∃ cause, error = .launch cause := by
  cases effect with
  | launch =>
      simp only [perform, launch] at fails
      split at fails
      · cases fails
        exact ⟨_, rfl⟩
      · cases fails
  | authorize =>
      simp only [perform, authorize] at fails
      split at fails
      · cases fails
      · split at fails
        · cases fails
          exact ⟨_, rfl⟩
        · cases fails
  | rollOut =>
      simp only [perform, rollOut] at fails
      split at fails
      · cases fails
      · split at fails
        · cases fails
        · cases fails
          exact ⟨_, rfl⟩
  | destroy =>
      obtain ⟨next, ⟨_, _, done⟩ | ⟨_, _, _, done⟩ | ⟨_, _, done⟩⟩ := destroy_cases plan run
      · cases (congrArg Prod.fst done).symm.trans fails
      · cases (congrArg Prod.fst done).symm.trans fails
        exact ⟨_, rfl⟩
      · cases (congrArg Prod.fst done).symm.trans fails

end PhaseRun

namespace Dispatcher

variable {dispatcher : Dispatcher σ} {phase : Phase} {topology : Topology} {cluster : Cluster} {now : Nat} {state : σ}

theorem Checked.isCheck {registry : Registry σ} {error : Error}
    (checked : Checked registry phase topology cluster (.error error)) : error.IsCheck := by
  cases checked <;> trivial

-- Whatever goes wrong after the checks is told as the failure of a hook or of the provider.
theorem performed_error {entry : Performed (PhaseStep σ) (PhaseRun σ) Error} {plan : PhasePlan σ}
    (performed : PhaseRun.perform plan entry.step entry.found = (entry.result, entry.left)) {error : Error}
    (failed : entry.result = .error error) : ¬ error.IsCheck := by
  have result := (congrArg Prod.fst performed).trans failed
  cases step : entry.step with
  | call hook handler =>
      rw [step, PhaseRun.call_result] at result
      cases answer : (handler.hook hook plan.phase plan.topology entry.found.event).1 with
      | ok _ =>
          rw [answer] at result
          cases result
      | error cause =>
          rw [answer] at result
          cases result
          exact id
  | effect effect =>
      rw [step] at result
      obtain ⟨cause, rfl⟩ := PhaseRun.effect_error result
      exact id

theorem refused_of_isCheck {error : Error}
    (fails : (dispatcher.run phase topology cluster now state).result = .error error) (check : error.IsCheck) :
    dispatcher.handlersFor phase topology cluster = .error error := by
  cases found : dispatcher.handlersFor phase topology cluster with
  | error refused =>
      rw [run_of_refused now state found] at fails
      cases fails
      rfl
  | ok handlers =>
      rw [run_of_found now state found] at fails
      obtain ⟨entry, last, failed⟩ := failed_of_error fails
      obtain ⟨_, performed⟩ := performed_of_mem (List.mem_of_getLast? last)
      exact (performed_error performed failed check).elim

/-- A phase is refused when one of its roles has no handler, and when two roles of which one
excludes the other share a machine, or a group that is to be launched; it is not refused for
anything else, and no later failure is told as one of these. Of a refused phase no step has been
performed, and all is as it was. -/
theorem roles_checked_first (dispatcher : Dispatcher σ) (keyed : dispatcher.registry.Keyed) (phase : Phase)
    (topology : Topology) (cluster : Cluster) (now : Nat) (state : σ) :
    let outcome := dispatcher.run phase topology cluster now state
    let roles := rolesFor phase topology cluster
    ((∃ role, outcome.result = .error (.config (.noHandler role))) ↔
      ∃ role ∈ roles, dispatcher.registry.get? role = none) ∧
    ((∀ role ∈ roles, dispatcher.registry.get? role ≠ none) →
      ((∃ role other location,
        outcome.result = .error (.placement ⟨.conflict role other location, some phase⟩)) ↔
        ∃ role ∈ roles, ∃ other, Excludes dispatcher.registry topology role other ∧
          Share phase topology cluster role other)) ∧
    (∀ error, outcome.result = .error (.config error) →
      ∃ role ∈ roles, error = .noHandler role ∧ dispatcher.registry.get? role = none) ∧
    (∀ error, outcome.result = .error (.placement error) →
      ∃ role ∈ roles, ∃ other location, error = ⟨.conflict role other location, some phase⟩ ∧
        Excludes dispatcher.registry topology role other ∧ Share phase topology cluster role other) ∧
    ((∃ error, outcome.result = .error (.config error)) ∨ (∃ error, outcome.result = .error (.placement error)) →
      outcome = ⟨outcome.result, dispatcher, cluster, state, now, []⟩ ∧
        dispatcher.history phase topology cluster now state = []) := by
  intro outcome roles
  have checks := handlersFor_checked dispatcher keyed phase topology cluster
  have config {error : ConfigError} (fails : outcome.result = .error (.config error)) :=
    refused_of_isCheck fails trivial
  have placement {error : PlacementError} (fails : outcome.result = .error (.placement error)) :=
    refused_of_isCheck fails trivial
  have refuses {error : Error} (refused : dispatcher.handlersFor phase topology cluster = .error error) :
      outcome.result = .error error := congrArg PhaseOutcome.result (run_of_refused now state refused)
  have unchanged {error : Error} (refused : dispatcher.handlersFor phase topology cluster = .error error) :
      outcome = ⟨outcome.result, dispatcher, cluster, state, now, []⟩ ∧
        dispatcher.history phase topology cluster now state = [] := by
    constructor
    · rw [refuses refused]
      exact run_of_refused now state refused
    · rw [history, refused]
  refine ⟨⟨?_, ?_⟩, fun known => ⟨?_, ?_⟩, ?_, ?_, ?_⟩
  · rintro ⟨role, fails⟩
    rw [config fails] at checks
    cases checks with
    | noHandler member absent => exact ⟨role, member, absent⟩
  · rintro ⟨role, member, absent⟩
    generalize answer : dispatcher.handlersFor phase topology cluster = checked at checks
    cases checks with
    | @noHandler other => exact ⟨other, refuses answer⟩
    | conflict known | passes known => exact (known role member absent).elim
  · rintro ⟨role, other, location, fails⟩
    rw [placement fails] at checks
    cases checks with
    | conflict _ member excludes share => exact ⟨role, member, other, excludes, share⟩
  · rintro ⟨role, member, other, excludes, share⟩
    generalize answer : dispatcher.handlersFor phase topology cluster = checked at checks
    cases checks with
    | @noHandler name among absent => exact (known name among absent).elim
    | conflict => exact ⟨_, _, _, refuses answer⟩
    | passes _ apart => exact (apart role member other excludes share).elim
  · intro error fails
    rw [config fails] at checks
    cases checks with
    | @noHandler role member absent => exact ⟨role, member, rfl, absent⟩
  · intro error fails
    rw [placement fails] at checks
    cases checks with
    | @conflict role other location _ member excludes share =>
        exact ⟨role, member, other, location, rfl, excludes, share⟩
  · rintro (⟨error, fails⟩ | ⟨error, fails⟩)
    · exact unchanged (config fails)
    · exact unchanged (placement fails)

-- A master that excludes workers is not launched on a machine with one, nor is a worker that
-- nobody handles; and a machine that carries both is not started.
theorem roles_checked_first_of_two :
    let topology := Launch.plainTopology [⟨.ofList ["master", "worker"], 1, 100, 1⟩] 0
    let machine : Instance := .ofNode ⟨"i-1", none, none, .empty⟩ (.ofList ["master", "worker"])
    let cluster : Cluster := .ofInstances "small" [machine]
    let alone : Dispatcher Simulation :=
      .new Simulation.provider (.ofHandlers [.idle "master"]) topology .none
    let apart : Dispatcher Simulation := .new Simulation.provider
      (.ofHandlers [.idle "worker", { Handler.idle "master" with disallowed := ["worker"] }]) topology .none
    (∃ role, (alone.run .bootstrap topology (.new "small") 0 .new).result = .error (.config (.noHandler role))) ∧
    (∃ role other location, (apart.run .bootstrap topology (.new "small") 0 .new).result =
      .error (.placement ⟨.conflict role other location, some .bootstrap⟩)) ∧
    ∃ role other location, (apart.run .start topology cluster 0 .new).result =
      .error (.placement ⟨.conflict role other location, some .start⟩) := by
  intro topology machine cluster alone apart
  have aloneKeyed : alone.registry.Keyed := Registry.ofHandlers_keyed _
  have apartKeyed : apart.registry.Keyed := Registry.ofHandlers_keyed _
  have known (role : String) (member : role ∈ (.ofList ["master", "worker"] : RoleSet)) :
      apart.registry.get? role ≠ none := by
    rw [SortedSet.mem_ofList, List.mem_pair] at member
    rcases member with rfl | rfl <;> simp [apart, Dispatcher.new, Registry.ofHandlers, Registry.register, Handler.idle]
  have excludes : Excludes apart.registry topology "master" "worker" :=
    ⟨_, rfl, .inl List.mem_cons_self⟩
  refine ⟨?_, ?_, ?_⟩
  · apply (roles_checked_first alone aloneKeyed .bootstrap topology (.new "small") 0 .new).1.mpr
    exact ⟨"worker", by decide +kernel, rfl⟩
  · apply ((roles_checked_first apart apartKeyed .bootstrap topology (.new "small") 0 .new).2.1 ?_).mpr
    · exact ⟨"master", by decide +kernel, "worker", excludes, _, List.mem_cons_self, by decide +kernel⟩
    · exact known
  · apply ((roles_checked_first apart apartKeyed .start topology cluster 0 .new).2.1 ?_).mpr
    · exact ⟨"master", by decide +kernel, "worker", excludes, machine, by decide +kernel, by decide +kernel⟩
    · exact known

end Dispatcher

end Muster
