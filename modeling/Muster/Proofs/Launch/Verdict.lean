import Muster.Launch

/-!
What a finished launch answers. There are four ways: it has succeeded; it has failed and
destroyed what it had launched; it has failed and could not destroy it; it has failed and
had nothing to destroy, or was told to leave what it had launched.
-/

namespace Muster

namespace Cluster

theorem add_of_fresh (cluster : Cluster) (machine : Instance)
    (fresh : machine.id ∉ cluster.instances.map Instance.id) :
    (cluster.add machine).2.instances = cluster.instances ++ [machine] := by
  have absent := (find?_eq_none cluster machine.id).mpr fresh
  simp [add, absent]

-- Machines with ids of their own are all added, in order.
theorem addAll_instances (cluster : Cluster) (machines : List Instance)
    (distinct : ((cluster.instances ++ machines).map Instance.id).Nodup) :
    (cluster.addAll machines).instances = cluster.instances ++ machines := by
  induction machines generalizing cluster with
  | nil => simp [addAll]
  | cons machine rest ih =>
      have fresh : machine.id ∉ cluster.instances.map Instance.id := by
        intro known
        rw [List.map_append, List.nodup_append] at distinct
        exact distinct.2.2 _ known machine.id (by simp) rfl
      have added := add_of_fresh cluster machine fresh
      change ((cluster.add machine).2.addAll rest).instances = _
      rw [ih, added, List.append_assoc]
      · rfl
      · rw [added, List.append_assoc]
        exact distinct

theorem add_name (cluster : Cluster) (machine : Instance) : (cluster.add machine).2.name = cluster.name := by
  unfold add
  split <;> rfl

theorem addAll_name (cluster : Cluster) (machines : List Instance) :
    (cluster.addAll machines).name = cluster.name := by
  induction machines generalizing cluster with
  | nil => rfl
  | cons machine rest ih => exact (ih _).trans (add_name cluster machine)

theorem add_properties (cluster : Cluster) (machine : Instance) :
    (cluster.add machine).2.properties = cluster.properties := by
  unfold add
  split <;> rfl

theorem addAll_properties (cluster : Cluster) (machines : List Instance) :
    (cluster.addAll machines).properties = cluster.properties := by
  induction machines generalizing cluster with
  | nil => rfl
  | cons machine rest ih => exact (ih _).trans (add_properties cluster machine)

theorem ofInstances_instances (name : String) (machines : List Instance)
    (distinct : (machines.map Instance.id).Nodup) : (ofInstances name machines).instances = machines := by
  exact addAll_instances (new name) machines (by simpa [new] using distinct)

theorem mem_addAll {cluster : Cluster} {machines : List Instance} {machine : Instance}
    (member : machine ∈ (cluster.addAll machines).instances) :
    machine ∈ cluster.instances ∨ machine ∈ machines := by
  induction machines generalizing cluster with
  | nil => exact .inl member
  | cons first rest ih =>
      change machine ∈ ((cluster.add first).2.addAll rest).instances at member
      rcases ih member with early | late
      · unfold add at early
        split at early
        · rcases List.mem_append.mp early with before | added
          · exact .inl before
          · exact .inr (List.mem_singleton.mp added ▸ List.mem_cons_self)
        · exact .inl early
      · exact .inr (List.mem_cons_of_mem _ late)

end Cluster

namespace Launch

variable {σ : Type}

abbrev Answer := Except LaunchError (Cluster × LaunchReport)

def Answer.report? : Answer → Option LaunchReport
  | .ok (_, report) => some report
  | .error error => error.report?

namespace State

def Succeeded (state : State σ) : Prop :=
  state.stop = none ∧ ∀ outcome ∈ state.outcomes, outcome.required ≤ outcome.succeeded

inductive Ending (provider : Provider σ) (plan : Plan) (state : State σ) : Answer → σ → Prop where
  | succeeds (succeeded : state.Succeeded) :
      Ending provider plan state
        (.ok (.ofInstances plan.topology.clusterName state.healthy,
          state.report (Cluster.ofInstances plan.topology.clusterName state.healthy).instances))
        state.provider
  | clearsUp {answered : σ} (failed : ¬ state.Succeeded)
      (told : plan.topology.terminateAllOnFailure = true) (some : state.healthy ≠ [])
      (answer : provider.destroy (state.healthy.map Instance.id) state.provider = (.ok (), answered)) :
      Ending provider plan state
        (.error (failure state.stop
          ⟨state.outcomes, [], state.destroyed ++ state.healthy.map Instance.id, state.orphaned⟩))
        answered
  | cannotClearUp {error : ProviderError} {answered : σ} (failed : ¬ state.Succeeded)
      (told : plan.topology.terminateAllOnFailure = true) (some : state.healthy ≠ [])
      (answer : provider.destroy (state.healthy.map Instance.id) state.provider =
        (.error error, answered)) :
      Ending provider plan state
        (.error (failure state.stop
          ⟨state.outcomes, [], state.destroyed, state.orphaned ++ state.healthy.map Instance.id⟩))
        answered
  | leaves (failed : ¬ state.Succeeded)
      (spared : plan.topology.terminateAllOnFailure = false ∨ state.healthy = []) :
      Ending provider plan state (.error (failure state.stop (state.report state.healthy)))
        state.provider

theorem succeeded_iff (state : State σ) :
    (state.stop.isNone && state.outcomes.all GroupOutcome.isSuccess) = true ↔ state.Succeeded := by
  simp [Succeeded, GroupOutcome.isSuccess]

theorem verdict_ending (provider : Provider σ) (plan : Plan) (state : State σ) :
    Ending provider plan state (state.verdict provider plan).1 (state.verdict provider plan).2 := by
  unfold verdict
  split
  · rename_i succeeded
    exact .succeeds ((succeeded_iff state).mp succeeded)
  · rename_i failed
    have failed : ¬ state.Succeeded := fun succeeded => failed ((succeeded_iff state).mpr succeeded)
    split
    · rename_i told
      simp only [Bool.and_eq_true, Bool.not_eq_true', List.isEmpty_eq_false_iff] at told
      dsimp only
      split
      · rename_i answer
        exact .clearsUp failed told.1 told.2 answer
      · rename_i answer
        exact .cannotClearUp failed told.1 told.2 answer
    · rename_i spared
      refine .leaves failed ?_
      simp only [Bool.and_eq_true, Bool.not_eq_true', List.isEmpty_eq_false_iff, not_and,
        Decidable.not_not] at spared
      cases told : plan.topology.terminateAllOnFailure with
      | false => exact .inl rfl
      | true => exact .inr (spared told)

-- A launch reports its groups, and that it succeeded just when it did.
theorem verdict_reports (provider : Provider σ) (plan : Plan) (state : State σ) :
    ∃ report, report.groups = state.outcomes ∧
      (state.Succeeded ∧ (∃ cluster, (state.verdict provider plan).1 = .ok (cluster, report)) ∨
        ¬ state.Succeeded ∧ (state.verdict provider plan).1 = .error (failure state.stop report)) := by
  have ending := verdict_ending provider plan state
  generalize (state.verdict provider plan).1 = answer at ending ⊢
  generalize (state.verdict provider plan).2 = after at ending
  cases ending with
  | succeeds succeeded => exact ⟨_, rfl, .inl ⟨succeeded, _, rfl⟩⟩
  | clearsUp failed | cannotClearUp failed | leaves failed => exact ⟨_, rfl, .inr ⟨failed, rfl⟩⟩

theorem failure_report? (stop : Option Stop) (report : LaunchReport) :
    (failure stop report).report? = some report := by
  unfold failure
  split <;> rfl

structure Reports (state : State σ) (report : LaunchReport) : Prop where
  groups : report.groups = state.outcomes
  instances : ∀ machine ∈ report.instances, machine ∈ state.healthy
  destroyed : ∀ id ∈ state.destroyed, id ∈ report.destroyed
  orphaned : ∀ id ∈ state.orphaned, id ∈ report.orphaned

theorem Ending.reports {provider : Provider σ} {plan : Plan} {state : State σ} {answer : Answer} {after : σ}
    (ending : Ending provider plan state answer after) :
    ∃ report, answer.report? = some report ∧ state.Reports report := by
  cases ending with
  | succeeds =>
      refine ⟨_, rfl, rfl, fun machine member => ?_, fun _ => id, fun _ => id⟩
      exact (Cluster.mem_addAll member).resolve_left (List.not_mem_nil)
  | clearsUp => exact ⟨_, failure_report? _ _, rfl, nofun, fun _ => List.mem_append_left _, fun _ => id⟩
  | cannotClearUp => exact ⟨_, failure_report? _ _, rfl, nofun, fun _ => id, fun _ => List.mem_append_left _⟩
  | leaves => exact ⟨_, failure_report? _ _, rfl, fun _ => id, fun _ => id, fun _ => id⟩

theorem ending_ok {provider : Provider σ} {plan : Plan} {state : State σ} {cluster : Cluster}
    {report : LaunchReport} {after : σ} (ending : Ending provider plan state (.ok (cluster, report)) after) :
    cluster.name = plan.topology.clusterName ∧ report.instances = cluster.instances := by
  cases ending with
  | succeeds succeeded => exact ⟨Cluster.addAll_name _ _, rfl⟩

theorem failure_partial {stop : Option Stop} {report : LaunchReport} :
    (∃ same, (.error (failure stop report) : Answer) = .error (.partialFailure .bootstrap same)) ↔
      stop = none := by
  rcases stop with _ | _ | _ <;> simp [failure]

theorem failure_cancelled {stop : Option Stop} {report : LaunchReport} :
    (∃ same, (.error (failure stop report) : Answer) = .error (.cancelled .bootstrap same)) ↔
      stop = some .cancelled := by
  rcases stop with _ | _ | _ <;> simp [failure]

theorem failure_timeout {stop : Option Stop} {report : LaunchReport} :
    (∃ same, (.error (failure stop report) : Answer) = .error (.timeout .bootstrap same)) ↔
      stop = some .timeout := by
  rcases stop with _ | _ | _ <;> simp [failure]

end State

end Launch

end Muster
