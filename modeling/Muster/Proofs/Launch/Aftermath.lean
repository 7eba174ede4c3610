import Muster.Proofs.Launch.Fates
import Muster.Proofs.Launch.Retry

/-!
What a launch leaves running when it fails. The machines that have passed their checks, in
whichever attempt, are destroyed in one request if the topology asks for it, and are reported
as destroyed or orphaned by what the provider answers. Otherwise they are reported as they
are, and nothing has been asked of the provider that would destroy them.
-/

namespace Muster.Launch

variable {σ : Type} {provider : Provider σ} {plan : Plan}

def passedMachines (provider : Provider σ) (plan : Plan) (trace : List (Moment σ)) : List Instance :=
  (List.range plan.topology.groups.length).flatMap fun index => passed provider index trace

/-! ### Requests to destroy -/

def discardedAt (moment : Moment σ) : List String :=
  match moment.event with
  | .discarded number =>
      match moment.before.slot? number with
      | none => []
      | some slot =>
          match slot.stage with
          | .destroying node _ => [node.id]
          | _ => []
  | _ => []

def discards (trace : List (Moment σ)) : List String := trace.flatMap discardedAt

theorem spoilt_of_discardedAt {moment : Moment σ} {id : String} (member : id ∈ discardedAt moment) :
    moment.before.Spoilt id := by
  unfold discardedAt at member
  split at member
  · split at member
    · cases member
    · rename_i slot found
      split at member
      · rename_i node cause stage
        exact .leaving (State.mem_of_slot? found) stage (List.mem_singleton.mp member).symm
      · cases member
  · cases member

-- What a slot has asked to be destroyed is destroyed, orphaned or lost in the end.
theorem Course.discarded {cancelled : Bool} {start : σ} {changes : List (Change σ)} {final : State σ}
    (course : Course provider plan (.initial plan cancelled start) changes final)
    (finished : final.finished = true) {id : String} (member : id ∈ discards (moments changes)) :
    id ∈ final.destroyed ++ final.orphaned ∨ id ∈ lost changes := by
  obtain ⟨moment, among, asks⟩ := List.mem_flatMap.mp member
  obtain ⟨change, here, event, before⟩ := mem_moments.mp among
  obtain ⟨past, later, rfl, early, happens, late⟩ := course.around here
  have sound := early.sound
  have after := sound.happens happens
  rw [event] at happens
  cases happens with
  | steps happens =>
      have step := State.step_sound provider plan _ _ _ happens
      rcases late.spoilt after (State.spoilt_step sound step (before ▸ spoilt_of_discardedAt asks)) with
        spoilt | ⟨crash, last, slot, abandons⟩
      · exact .inl (spoilt.of_settled (course.sound.settled finished))
      · exact .inr (abandons.mem_lost (List.mem_append_right _ (List.mem_cons_of_mem _ last)))

/-! ### The two ways to fail -/

inductive Terminates (provider : Provider σ) (before : σ) (machines : List Instance)
    (report : LaunchReport) : σ → Prop where
  | nothing (none : machines = []) : Terminates provider before machines report before
  | destroys {after : σ} (answer : provider.destroy (machines.map Instance.id) before = (.ok (), after))
      (reported : machines.map Instance.id <:+ report.destroyed) :
      Terminates provider before machines report after
  | cannot {error : ProviderError} {after : σ}
      (answer : provider.destroy (machines.map Instance.id) before = (.error error, after))
      (reported : machines.map Instance.id <:+ report.orphaned) :
      Terminates provider before machines report after

structure Aftermath (provider : Provider σ) (plan : Plan) (trace : List (Moment σ)) (before after : σ)
    (report : LaunchReport) : Prop where
  terminated : plan.topology.terminateAllOnFailure = true → report.instances = [] ∧
    Terminates provider before (passedMachines provider plan trace) report after
  spared : plan.topology.terminateAllOnFailure = false →
    report.instances = passedMachines provider plan trace ∧ after = before ∧
      ∀ machine ∈ report.instances,
        machine.id ∉ discards trace ∧ machine.id ∉ report.destroyed ∧ machine.id ∉ report.orphaned

theorem Course.aftermath {cancelled : Bool} {start : σ} {changes : List (Change σ)} {final : State σ}
    (course : Course provider plan (.initial plan cancelled start) changes final)
    (finished : final.finished = true) (distinct : (handedOver provider changes).Nodup) {error : LaunchError}
    (fails : (final.verdict provider plan).1 = .error error) :
    ∃ report, error.report? = some report ∧
      Aftermath provider plan (moments changes) final.provider (final.verdict provider plan).2 report ∧
      ∀ machine ∈ report.instances, machine.id ∉ lost changes := by
  have healthy : final.healthy = passedMachines provider plan (moments changes) := course.healthy finished
  have ending := final.verdict_ending provider plan
  rw [fails] at ending
  generalize (final.verdict provider plan).2 = after at ending ⊢
  cases ending with
  | clearsUp failed told some answer =>
      refine ⟨_, State.failure_report? _ _, ⟨fun _ => ⟨rfl, ?_⟩, fun spared => ?_⟩, nofun⟩
      · rw [← healthy]
        exact .destroys answer (List.suffix_append _ _)
      · exact nomatch told.symm.trans spared
  | cannotClearUp failed told some answer =>
      refine ⟨_, State.failure_report? _ _, ⟨fun _ => ⟨rfl, ?_⟩, fun spared => ?_⟩, nofun⟩
      · rw [← healthy]
        exact .cannot answer (List.suffix_append _ _)
      · exact nomatch told.symm.trans spared
  | leaves failed spared =>
      have apart (machine : Instance) (member : machine ∈ final.healthy) :=
        course.apart finished distinct (List.mem_map_of_mem member)
      refine ⟨_, State.failure_report? _ _, ⟨fun told => ?_, fun _ => ⟨healthy, rfl, ?_⟩⟩,
        fun machine member => (apart machine member).2⟩
      · have none := spared.resolve_left fun untold => nomatch told.symm.trans untold
        exact ⟨none, .nothing (healthy ▸ none)⟩
      · intro machine member
        obtain ⟨alive, kept⟩ := apart machine member
        have unlisted := List.mem_append.not.mp alive
        exact ⟨fun asked => (course.discarded finished asked).elim alive kept, fun gone => unlisted (.inl gone),
          fun orphan => unlisted (.inr orphan)⟩

theorem Completes.aftermath {cancelled : Bool} {start : σ} {trace : List (Moment σ)} {final : State σ}
    (completes : Completes provider plan cancelled start trace final)
    (distinct : (handed provider trace).Nodup) {error : LaunchError}
    (fails : (final.verdict provider plan).1 = .error error) :
    ∃ report, error.report? = some report ∧
      Aftermath provider plan trace final.provider (final.verdict provider plan).2 report := by
  obtain ⟨report, reported, aftermath, _⟩ :=
    completes.run.course.aftermath completes.finished ((handedOver_of_run provider plan trace).symm ▸ distinct) fails
  rw [moments_of_run] at aftermath
  exact ⟨report, reported, aftermath⟩

/-! ### Launches on the simulated provider -/

section Simulated

open Simulation

variable {start : Simulation} {state : State Simulation}

theorem failDestroy_of_move {slot : Slot} {event : Event} {answered : Simulation} {next : Next}
    (move : Move Simulation.provider plan state slot event answered next) :
    answered.faults.failDestroy = state.provider.faults.failDestroy := by
  cases move with
  | begins stage goingOn room answer | crashesEarly stage goingOn room answer =>
      obtain rfl : state.provider.beginCreate.2 = answered := congrArg Prod.snd answer
      unfold beginCreate
      split <;> rfl
  | creates stage goingOn answer | isRefused stage goingOn answer | crashesLate stage goingOn answer =>
      obtain rfl : (state.provider.finishCreate slot.spec).2 = answered := congrArg Prod.snd answer
      obtain ⟨_, answer⟩ | ⟨_, _, answer⟩ | ⟨_, _, answer⟩ := state.provider.finishCreate_cases slot.spec <;>
        rw [answer] <;> rfl
  | isReady stage goingOn answer | isUnready stage goingOn answer =>
      obtain rfl : (state.provider.checkReady _).2 = answered := congrArg Prod.snd answer
      obtain ⟨_, answer⟩ | ⟨_, _, ⟨_, answer⟩ | ⟨_, answer⟩⟩ := state.provider.checkReady_cases _
      all_goals exact congrArg (fun answered => answered.2.faults.failDestroy) answer
  | expires | leavesLine | stopsCreating | stopsChecking => rfl
  | destroys stage answer | abandons stage answer =>
      obtain rfl : (state.provider.destroy _).2 = answered := congrArg Prod.snd answer
      unfold destroy
      split <;> rfl

namespace State

structure Orphanless (state : State Simulation) : Prop where
  destroys : state.provider.faults.failDestroy = false
  arriving : ∀ arrival ∈ state.inbox, arrival.result.orphaned = []
  known : state.orphaned = []

theorem Orphanless.step {before after : State Simulation} {event : Event} (orphanless : before.Orphanless)
    (step : Step Simulation.provider plan before event after) : after.Orphanless := by
  cases step with
  | moves found move =>
      rename_i slot answered next
      constructor
      · rw [moved_provider, failDestroy_of_move move]
        exact orphanless.destroys
      · rw [moved_inbox]
        intro arrival member
        rcases List.mem_append.mp member with early | last
        · exact orphanless.arriving arrival early
        · cases move with
          | abandons stage answer =>
              have able := orphanless.destroys
              have fails : (before.provider.destroy _).1 = .error _ := congrArg Prod.fst answer
              simp [destroy, able] at fails
          | begins | creates | isUnready | stopsChecking => cases last
          | crashesEarly | isRefused | crashesLate | expires | isReady | leavesLine | stopsCreating
          | destroys =>
              rw [List.mem_singleton.mp last]
              rfl
      · cases next <;> exact orphanless.known
  | receives inbox =>
      have none := orphanless.arriving _ (inbox ▸ List.mem_cons_self)
      constructor
      · rw [receive_provider]
        exact orphanless.destroys
      · rw [receive_inbox]
        exact fun other member => orphanless.arriving other (inbox ▸ List.mem_cons_of_mem _ member)
      · simp [receive_eq, none, orphanless.known]
  | isCancelled | notices | runsOut | finishes | begins =>
      exact ⟨orphanless.destroys, orphanless.arriving, orphanless.known⟩

-- A machine that is destroyed at the provider was so before, or is spoilt.
theorem destroyed_step {before after : State Simulation} {event : Event} (sound : before.Sound plan)
    (known : ∀ id ∈ before.provider.destroyed, id ∈ start.destroyed ∨ before.Spoilt id)
    (step : Step Simulation.provider plan before event after) :
    ∀ id ∈ after.provider.destroyed, id ∈ start.destroyed ∨ after.Spoilt id := by
  intro id gone
  have keeps (early : id ∈ before.provider.destroyed) : id ∈ start.destroyed ∨ after.Spoilt id :=
    (known id early).imp_right (spoilt_step sound step)
  cases step with
  | moves found move =>
      rename_i slot answered next
      rw [moved_provider] at gone
      rcases (destroyed_of_move move id).mp gone with early | now
      · exact keeps early
      · cases next with
        | goes stage => cases now
        | ends result =>
            exact .inr (.arriving (List.mem_append_right _ List.mem_cons_self) (List.mem_append_left _ now))
  | receives inbox =>
      rw [receive_provider] at gone
      exact keeps gone
  | isCancelled | notices | runsOut | finishes | begins => exact keeps gone

end State

theorem Run.orphanless {cancelled : Bool} {trace : List (Moment Simulation)}
    (run : Run Simulation.provider plan (.initial plan cancelled start) trace state)
    (able : start.faults.failDestroy = false) : state.Orphanless :=
  run.keeps State.Orphanless (fun _ _ _ orphanless step => orphanless.step step) ⟨able, nofun, rfl⟩

theorem Run.destroyed {cancelled : Bool} {trace : List (Moment Simulation)}
    (run : Run Simulation.provider plan (.initial plan cancelled start) trace state) :
    ∀ id ∈ state.provider.destroyed, id ∈ start.destroyed ∨ state.Spoilt id :=
  run.keeps_sound (fun _ state => ∀ id ∈ state.provider.destroyed, id ∈ start.destroyed ∨ state.Spoilt id)
    (fun _ _ _ _ sound known step => State.destroyed_step sound known step)
    (State.sound_initial plan cancelled start) fun _ => .inl

theorem Run.handed_nodup {cancelled : Bool} {trace : List (Moment Simulation)}
    (run : Run Simulation.provider plan (.initial plan cancelled start) trace state) :
    (handed Simulation.provider trace).Nodup :=
  run.booked.numbered ▸ machineIds_nodup _ _

structure LeavesRunning (plan : Plan) (start after : Simulation) (created : List String)
    (report : LaunchReport) : Prop where
  books : after.createdIds = start.createdIds ++ created
  terminated : plan.topology.terminateAllOnFailure = true → start.faults.failDestroy = false →
    ∀ id ∈ created, id ∉ after.runningIds
  spared : plan.topology.terminateAllOnFailure = false → ∀ machine ∈ report.instances,
    machine.id ∈ created ∧ (machine.id ∉ start.destroyed → machine.id ∈ after.runningIds)

theorem Completes.leavesRunning {cancelled : Bool} {trace : List (Moment Simulation)}
    {final : State Simulation} (completes : Completes Simulation.provider plan cancelled start trace final)
    {error : LaunchError} (fails : (final.verdict Simulation.provider plan).1 = .error error)
    {report : LaunchReport} (reported : error.report? = some report) :
    ∃ created, LeavesRunning plan start (final.verdict Simulation.provider plan).2 created report := by
  obtain ⟨same, created, tells, books, _, accounted⟩ := completes.accounted_simulated
  rw [fails] at tells
  cases reported.symm.trans tells
  have ending := final.verdict_ending Simulation.provider plan
  have gone := completes.run.gone.ends ending (by rw [fails]; exact reported)
  refine ⟨created, books, fun terminates able => ?_, fun spares => ?_⟩
  · -- nothing is healthy or orphaned, so that everything is destroyed
    have orphanless := completes.run.orphanless able
    have none : report.instances = [] ∧ report.orphaned = [] := by
      rw [fails] at ending
      generalize (final.verdict Simulation.provider plan).2 = after at ending
      cases ending with
      | clearsUp =>
          cases reported.symm.trans (State.failure_report? _ _)
          exact ⟨rfl, orphanless.known⟩
      | cannotClearUp failed told some answer =>
          have refuses : (final.provider.destroy _).1 = .error _ := congrArg Prod.fst answer
          simp [destroy, orphanless.destroys] at refuses
      | leaves failed spared =>
          cases reported.symm.trans (State.failure_report? _ _)
          exact ⟨spared.resolve_left fun untold => (nomatch terminates.symm.trans untold), orphanless.known⟩
    intro id member runs
    have among := accounted.mem_iff.mpr member
    simp only [LaunchReport.accounted, none, List.map_nil, List.nil_append, List.append_nil] at among
    exact (mem_runningIds.mp runs).2 (gone.2 id among)
  · intro machine member
    have named := List.mem_map_of_mem (f := Instance.id) member
    have fresh : machine.id ∈ created :=
      accounted.mem_iff.mp (List.mem_append_left _ (List.mem_append_left _ named))
    refine ⟨fresh, fun unmarked => mem_runningIds.mpr ⟨?_, ?_⟩⟩
    · rw [books]
      exact List.mem_append_right _ fresh
    · rw [fails] at ending
      generalize (final.verdict Simulation.provider plan).2 = after at ending
      cases ending with
      | clearsUp failed told | cannotClearUp failed told => exact nomatch told.symm.trans spares
      | leaves =>
          cases reported.symm.trans (State.failure_report? _ _)
          intro destroyed
          have spoilt := (completes.run.destroyed _ destroyed).resolve_left unmarked
          have distinct := (handedOver_of_run _ plan trace).symm ▸ completes.run.handed_nodup
          exact (completes.run.course.apart completes.finished distinct named).1
            (spoilt.of_settled (completes.sound.settled completes.finished))

end Simulated

/-- What a failed launch leaves running, whatever it failed for, whatever its provider answered and
whichever of its requests crashed, as long as no two machines share an id. If the topology asks
for it, every machine that has passed its check, in any group and attempt, is destroyed in one
request and reported in group order as destroyed, or as orphaned if the request fails; then no
machine of the launch runs on a simulated provider that can destroy. Otherwise these machines
are the ones that are reported as left running, and no request was made to destroy any of them;
they run. None of them is one whose check or destruction has crashed. -/
theorem failed_launch_leaves (topology : Topology) (bootstrap : RoleSet → Script) (options : LaunchOptions) :
    let plan := Launch.plan topology bootstrap options
    (∀ (σ : Type) (provider : Provider σ) (cancelled : Bool) (start : σ) (changes : List (Change σ))
      (final : State σ) (error : LaunchError),
      Course provider plan (.initial plan cancelled start) changes final → final.finished = true →
      (handedOver provider changes).Nodup → (final.verdict provider plan).1 = .error error →
      ∃ report, error.report? = some report ∧
        Aftermath provider plan (moments changes) final.provider (final.verdict provider plan).2 report ∧
        ∀ machine ∈ report.instances, machine.id ∉ lost changes) ∧
    (∀ (cancelled : Bool) (start : Simulation) (trace : List (Moment Simulation))
      (final : State Simulation) (error : LaunchError),
      Completes Simulation.provider plan cancelled start trace final →
      (final.verdict Simulation.provider plan).1 = .error error →
      ∃ report created, error.report? = some report ∧
        Aftermath Simulation.provider plan trace final.provider (final.verdict Simulation.provider plan).2
          report ∧
        LeavesRunning plan start (final.verdict Simulation.provider plan).2 created report) ∧
    (∀ (σ : Type) (provider : Provider σ) (now : Nat) (start : σ) (error : LaunchError),
      (run provider topology bootstrap options now start).1 = .error error →
      ∃ trace final, Completes provider plan (options.cancelAt.any (· ≤ now)) start trace final ∧
        ((handed provider trace).Nodup → ∃ report, error.report? = some report ∧
          Aftermath provider plan trace final.provider
            (run provider topology bootstrap options now start).2.2 report)) ∧
    (∀ (now : Nat) (start : Simulation) (error : LaunchError),
      (run Simulation.provider topology bootstrap options now start).1 = .error error →
      ∃ report created, error.report? = some report ∧
        LeavesRunning plan start (run Simulation.provider topology bootstrap options now start).2.2 created
          report) := by
  intro plan
  refine ⟨?_, ?_, ?_, ?_⟩
  · intro σ provider cancelled start changes final error course finished distinct fails
    exact course.aftermath finished distinct fails
  · intro cancelled start trace final error completes fails
    obtain ⟨report, reported, aftermath⟩ := completes.aftermath completes.run.handed_nodup fails
    obtain ⟨created, leaves⟩ := completes.leavesRunning fails reported
    exact ⟨report, created, reported, aftermath, leaves⟩
  · intro σ provider now start error fails
    obtain ⟨trace, final, ended, completes, answers, _⟩ :=
      run_completes provider topology bootstrap options now start
    rw [answers] at fails ⊢
    exact ⟨trace, final, completes, fun distinct => completes.aftermath distinct fails⟩
  · intro now start error fails
    obtain ⟨trace, final, ended, completes, answers, _⟩ :=
      run_completes Simulation.provider topology bootstrap options now start
    rw [answers] at fails ⊢
    obtain ⟨report, reported, _⟩ := completes.aftermath completes.run.handed_nodup fails
    obtain ⟨created, leaves⟩ := completes.leavesRunning fails reported
    exact ⟨report, created, reported, leaves⟩

/-- There is a master, and no worker can be created: the launch fails with the master healthy, which is
destroyed or left running as the topology has it. -/
theorem failed_launch_leaves_of_one :
    let sparing := plainTopology [⟨.ofList ["master"], 1, 100, 1⟩, ⟨.ofList ["worker"], 1, 100, 1⟩] 0
    let topology := { sparing with terminateAllOnFailure := true }
    let plan := Launch.plan topology (fun _ => ⟨[], []⟩) .none
    let start := Simulation.new.setDue (.ofList ["worker"]) ⟨0, true, 0⟩
    let before := State.initial plan false start
    let events := [.proceed, .start 0, .start 1, .created 1, .created 0, .received, .checked 0, .received,
      .proceed]
    let launched := run Simulation.provider sparing (fun _ => ⟨[], []⟩) .none 0 start
    (∃ final report, before.replay Simulation.provider plan events = some final ∧
      (final.verdict Simulation.provider plan).1 = .error (.partialFailure .bootstrap report) ∧
      report.instances = [] ∧ (final.verdict Simulation.provider plan).2.createdIds = ["stub-00001"] ∧
      "stub-00001" ∉ (final.verdict Simulation.provider plan).2.runningIds) ∧
    ∃ report, launched.1 = .error (.partialFailure .bootstrap report) ∧
      report.instances.map Instance.id = ["stub-00001"] ∧ "stub-00001" ∈ launched.2.2.runningIds := by
  intro sparing topology plan start before events launched
  constructor
  · have happens : (before.replay Simulation.provider plan events).map (fun final =>
        (final.finished, Answer.isShortage (final.verdict Simulation.provider plan).1,
          (final.verdict Simulation.provider plan).2.createdIds)) = some (true, true, ["stub-00001"]) := by
      decide +kernel
    obtain ⟨final, ends, same⟩ := Option.map_eq_some_iff.mp happens
    simp only [Prod.mk.injEq] at same
    obtain ⟨finished, shortage, created⟩ := same
    obtain ⟨report, fails⟩ := Answer.shortage_of_isShortage shortage
    have completes : Completes Simulation.provider plan false start _ final := ⟨.of_replay ends, finished⟩
    obtain ⟨same, fresh, reported, aftermath, leaves⟩ :=
      (failed_launch_leaves topology (fun _ => ⟨[], []⟩) .none).2.1 false start _ final _ completes fails
    cases reported
    have books := leaves.books.symm.trans created
    have terminated := leaves.terminated rfl rfl "stub-00001"
    refine ⟨final, _, ends, fails, (aftermath.terminated rfl).1, created, terminated ?_⟩
    rw [show fresh = ["stub-00001"] from books]
    exact List.mem_cons_self
  · have happens : (Answer.isShortage launched.1, (Answer.report? launched.1).map fun report =>
        report.instances.map Instance.id) = (true, some ["stub-00001"]) := by decide +kernel
    have law := (failed_launch_leaves sparing (fun _ => ⟨[], []⟩) .none).2.2.2 0 start
    -- from here on nothing is computed
    have same : run Simulation.provider sparing (fun _ => ⟨[], []⟩) .none 0 start = launched := rfl
    rw [same] at law
    clear_value launched
    obtain ⟨shortage, instances⟩ := Prod.mk.inj happens
    obtain ⟨report, fails⟩ := Answer.shortage_of_isShortage shortage
    obtain ⟨same, _, reported, leaves⟩ := law _ fails
    cases reported
    have master : report.instances.map Instance.id = ["stub-00001"] := by
      simpa [fails, Answer.report?, LaunchError.report?] using instances
    obtain ⟨machine, alone, id⟩ := List.map_eq_singleton_iff.mp master
    have member : machine ∈ report.instances := alone ▸ List.mem_cons_self
    exact ⟨report, fails, master, id ▸ (leaves.spared rfl machine member).2 List.not_mem_nil⟩

end Muster.Launch
