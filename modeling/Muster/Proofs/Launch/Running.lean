import Muster.Proofs.Launch.Accounts
import Muster.Proofs.Provider.Shown

/-!
Which machines run when a launch is over. A machine that a report calls destroyed is
destroyed at the provider, and no machine that was destroyed before runs again, so
that whatever runs has run before or stands in the report as healthy or orphaned.
-/

namespace Muster

namespace Simulation

def runningIds (simulation : Simulation) : List String := simulation.running.map Node.id

theorem mem_runningIds {simulation : Simulation} {id : String} :
    id ∈ simulation.runningIds ↔ id ∈ simulation.createdIds ∧ id ∉ simulation.destroyed := by
  simp only [runningIds, running, createdIds, List.mem_map, List.mem_filter, decide_eq_true_eq]
  constructor
  · rintro ⟨node, ⟨created, runs⟩, rfl⟩
    exact ⟨⟨node, created, rfl⟩, runs⟩
  · rintro ⟨⟨node, created, rfl⟩, runs⟩
    exact ⟨node, ⟨created, runs⟩, rfl⟩

theorem mem_markDestroyed {destroyed ids : List String} {id : String} :
    id ∈ markDestroyed destroyed ids ↔ id ∈ destroyed ∨ id ∈ ids := by
  unfold markDestroyed
  induction ids generalizing destroyed with
  | nil => simp
  | cons head rest ih =>
      rw [List.foldl_cons, ih]
      by_cases known : head ∈ destroyed
      · rw [if_pos known, List.mem_cons]
        constructor
        · rintro (gone | later)
          · exact .inl gone
          · exact .inr (.inr later)
        · rintro (gone | rfl | later)
          · exact .inl gone
          · exact .inl known
          · exact .inr later
      · rw [if_neg known, List.mem_append, List.mem_singleton, List.mem_cons, or_assoc]

-- Nothing that is destroyed comes back.
theorem destroy_ok {simulation after : Simulation} {ids : List String}
    (answer : simulation.destroy ids = (.ok (), after)) :
    after.destroyed = markDestroyed simulation.destroyed ids := by
  unfold destroy at answer
  split at answer
  · cases answer
  · cases answer
    rfl

theorem destroy_error {simulation after : Simulation} {ids : List String} {error : ProviderError}
    (answer : simulation.destroy ids = (.error error, after)) : after = simulation := by
  unfold destroy at answer
  split at answer
  · cases answer
    rfl
  · cases answer

theorem finishCreate_destroyed (simulation : Simulation) (spec : InstanceSpec) :
    (simulation.finishCreate spec).2.destroyed = simulation.destroyed := by
  obtain ⟨_, answer⟩ | ⟨_, _, answer⟩ | ⟨_, _, answer⟩ := simulation.finishCreate_cases spec <;> rw [answer] <;> rfl

theorem checkReady_destroyed (simulation : Simulation) (id : String) :
    (simulation.checkReady id).2.destroyed = simulation.destroyed := by
  obtain ⟨_, answer⟩ | ⟨_, _, ⟨_, answer⟩ | ⟨_, answer⟩⟩ := simulation.checkReady_cases id
  all_goals exact congrArg (fun answered => answered.2.destroyed) answer

end Simulation

namespace Launch

open Simulation

def Next.destroyed : Next → List String
  | .goes _ => []
  | .ends result => result.destroyed

namespace State

variable {plan : Plan} {start : Simulation} {state : State Simulation}

-- A move destroys what its slot then says is destroyed.
theorem destroyed_of_move {slot : Slot} {event : Event} {answered : Simulation} {next : Next}
    (move : Move Simulation.provider plan state slot event answered next) (id : String) :
    id ∈ answered.destroyed ↔ id ∈ state.provider.destroyed ∨ id ∈ next.destroyed := by
  have unchanged (same : answered.destroyed = state.provider.destroyed) (none : next.destroyed = []) :
      id ∈ answered.destroyed ↔ id ∈ state.provider.destroyed ∨ id ∈ next.destroyed := by
    simp [same, none]
  cases move with
  | begins stage goingOn room answer | crashesEarly stage goingOn room answer =>
      obtain rfl : state.provider.beginCreate.2 = answered := congrArg Prod.snd answer
      refine unchanged ?_ rfl
      unfold beginCreate
      split <;> rfl
  | creates stage goingOn answer | isRefused stage goingOn answer | crashesLate stage goingOn answer =>
      obtain rfl : (state.provider.finishCreate slot.spec).2 = answered := congrArg Prod.snd answer
      exact unchanged (finishCreate_destroyed _ _) rfl
  | isReady stage goingOn answer | isUnready stage goingOn answer =>
      obtain rfl : (state.provider.checkReady _).2 = answered := congrArg Prod.snd answer
      exact unchanged (checkReady_destroyed _ _) rfl
  | expires | leavesLine | stopsCreating | stopsChecking => exact unchanged rfl rfl
  | destroys stage answer =>
      rw [destroy_ok answer, mem_markDestroyed]
      rfl
  | abandons stage answer =>
      obtain rfl := destroy_error answer
      exact unchanged rfl rfl

-- What was destroyed before stays so, and what is said to be destroyed is, wherever in
-- the launch it is said.
structure Gone (start : Simulation) (state : State Simulation) : Prop where
  before : ∀ id ∈ start.destroyed, id ∈ state.provider.destroyed
  arriving : ∀ arrival ∈ state.inbox, ∀ id ∈ arrival.result.destroyed, id ∈ state.provider.destroyed
  known : ∀ id ∈ state.destroyed, id ∈ state.provider.destroyed

theorem Gone.moves {slot : Slot} {event : Event} {answered : Simulation} {next : Next}
    (gone : state.Gone start) (move : Move Simulation.provider plan state slot event answered next) :
    (state.moved slot answered next).Gone start := by
  have destroyed := destroyed_of_move move
  constructor
  · intro id before
    rw [moved_provider]
    exact (destroyed id).mpr (.inl (gone.before id before))
  · intro arrival member id among
    rw [moved_provider]
    cases next with
    | goes stage => exact (destroyed id).mpr (.inl (gone.arriving arrival member id among))
    | ends result =>
        rcases List.mem_append.mp member with early | last
        · exact (destroyed id).mpr (.inl (gone.arriving arrival early id among))
        · obtain rfl := List.mem_singleton.mp last
          exact (destroyed id).mpr (.inr among)
  · intro id reported
    have before : id ∈ state.destroyed := by cases next <;> exact reported
    rw [moved_provider]
    exact (destroyed id).mpr (.inl (gone.known id before))

theorem Gone.receives {arrival : Arrival} {rest : List Arrival} (gone : state.Gone start)
    (inbox : state.inbox = arrival :: rest) :
    ({ state with inbox := rest }.receive arrival).Gone start := by
  constructor
  · rw [receive_provider]
    exact gone.before
  · rw [receive_inbox, receive_provider]
    intro other member
    exact gone.arriving other (inbox ▸ List.mem_cons_of_mem _ member)
  · rw [receive_provider, receive_destroyed]
    intro id reported
    rcases List.mem_append.mp reported with before | now
    · exact gone.known id before
    · exact gone.arriving arrival (inbox ▸ List.mem_cons_self) id now

theorem Gone.step {before after : State Simulation} {event : Event} (gone : before.Gone start)
    (step : Step Simulation.provider plan before event after) : after.Gone start := by
  cases step with
  | moves found move => exact gone.moves move
  | receives inbox => exact gone.receives inbox
  | isCancelled | notices | runsOut | finishes | begins =>
      exact ⟨gone.before, gone.arriving, gone.known⟩

end State

theorem Run.gone {plan : Plan} {cancelled : Bool} {start : Simulation} {trace : List (Moment Simulation)}
    {state : State Simulation}
    (run : Run Simulation.provider plan (.initial plan cancelled start) trace state) :
    state.Gone start :=
  run.keeps (State.Gone start) (fun _ _ _ gone step => gone.step step) ⟨fun _ => id, nofun, nofun⟩

theorem State.Gone.ends {plan : Plan} {start after : Simulation} {state : State Simulation} {answer : Answer}
    {report : LaunchReport} (gone : state.Gone start)
    (ending : State.Ending Simulation.provider plan state answer after)
    (reported : answer.report? = some report) :
    (∀ id ∈ start.destroyed, id ∈ after.destroyed) ∧ ∀ id ∈ report.destroyed, id ∈ after.destroyed := by
  cases ending with
  | succeeds succeeded =>
      cases reported
      exact ⟨gone.before, gone.known⟩
  | clearsUp failed told some answer =>
      rw [Answer.report?, State.failure_report?] at reported
      cases reported
      have all := destroy_ok answer
      refine ⟨fun id before => all ▸ mem_markDestroyed.mpr (.inl (gone.before id before)), ?_⟩
      intro id member
      rw [all, mem_markDestroyed]
      rcases List.mem_append.mp member with known | last
      · exact .inl (gone.known id known)
      · exact .inr last
  | cannotClearUp failed told some answer =>
      rw [Answer.report?, State.failure_report?] at reported
      cases reported
      obtain rfl := destroy_error answer
      exact ⟨gone.before, gone.known⟩
  | leaves failed spared =>
      rw [Answer.report?, State.failure_report?] at reported
      cases reported
      exact ⟨gone.before, gone.known⟩

/-- What runs after a launch has run before it, or is reported healthy or orphaned. -/
theorem Completes.running {plan : Plan} {cancelled : Bool} {start : Simulation}
    {trace : List (Moment Simulation)} {final : State Simulation}
    (completes : Completes Simulation.provider plan cancelled start trace final) :
    ∃ report, Answer.report? (final.verdict Simulation.provider plan).1 = some report ∧
      ∀ id ∈ (final.verdict Simulation.provider plan).2.runningIds, id ∈ start.runningIds ∨
        id ∈ report.instances.map Instance.id ∨ id ∈ report.orphaned := by
  obtain ⟨report, fresh, reported, books, _, same⟩ := completes.accounted_simulated
  obtain ⟨before, destroyed⟩ := completes.run.gone.ends
    (State.verdict_ending Simulation.provider plan final) reported
  refine ⟨report, reported, fun id runs => ?_⟩
  obtain ⟨created, undestroyed⟩ := mem_runningIds.mp runs
  rw [books] at created
  rcases List.mem_append.mp created with old | new
  · exact .inl (mem_runningIds.mpr ⟨old, fun gone => undestroyed (before id gone)⟩)
  · have accounted := same.mem_iff.mpr new
    simp only [LaunchReport.accounted, List.mem_append] at accounted
    rcases accounted with (healthy | gone) | orphaned
    · exact .inr (.inl healthy)
    · exact (undestroyed (destroyed id gone)).elim
    · exact .inr (.inr orphaned)

-- The same of the launch that runs, on any provider that shows the simulated one.
theorem run_running {σ : Type} {provider : Provider σ} {part : σ → Simulation}
    (shows : provider.Shows Simulation.provider part) (topology : Topology) (bootstrap : RoleSet → Script)
    (options : LaunchOptions) (now : Nat) (start : σ) :
    let launched := run provider topology bootstrap options now start
    ∃ report, Answer.report? launched.1 = some report ∧
      ∀ id ∈ (part launched.2.2).runningIds, id ∈ (part start).runningIds ∨
        id ∈ report.instances.map Instance.id ∨ id ∈ report.orphaned := by
  obtain ⟨trace, final, ended, completes, answers, _⟩ :=
    run_completes provider topology bootstrap options now start
  have seen := (completes.map shows).running
  rw [State.map_verdict shows] at seen
  rw [answers]
  exact seen

theorem run_ok {σ : Type} {provider : Provider σ} {topology : Topology} {bootstrap : RoleSet → Script}
    {options : LaunchOptions} {now : Nat} {start : σ} {cluster : Cluster} {report : LaunchReport}
    (succeeds : (run provider topology bootstrap options now start).1 = .ok (cluster, report)) :
    cluster.name = topology.clusterName ∧ report.instances = cluster.instances := by
  unfold run at succeeds
  dsimp only at succeeds
  have ending := State.verdict_ending provider (plan topology bootstrap options) (Schedule.run provider
    (plan topology bootstrap options) ((plan topology bootstrap options).maxAttempts + 1)
    (schedule (plan topology bootstrap options) options now start)).state
  rw [succeeds] at ending
  exact State.ending_ok ending

end Launch

end Muster
