import Muster.Environment

/-!
Running the statements of a phase on the machines of a cluster. Every machine that
has something to run is worked on once: its host names are asked for, which settles
its script, and the script is run on it. Several machines can be worked on at a
time, up to a limit, and what happens on one does not keep others from their turn.

A rollout is a machine of small steps, so that the order of the steps of different
machines is open; `run` works on one machine after the other.
-/

namespace Muster

structure RolloutTask where
  machine : Instance
  body : List Statement
  script : Option Script
  deriving DecidableEq

structure RolloutCall where
  machine : Instance
  script : Script
  failure : Option ProviderError
  deriving DecidableEq

structure RolloutPlan where
  topology : Topology
  queue : StatementQueue
  limit : Nat

structure Rollout (σ : Type) where
  provider : σ
  cluster : Cluster
  waiting : List Instance
  atWork : List RolloutTask
  calls : List RolloutCall

inductive RolloutEvent where
  | start
  | settle (id : String)
  | finish (id : String)
  deriving DecidableEq, Repr

namespace Rollout

variable {σ : Type}

def initial (cluster : Cluster) (provider : σ) : Rollout σ :=
  ⟨provider, cluster, cluster.instances, [], []⟩

def task? (rollout : Rollout σ) (id : String) : Option RolloutTask :=
  rollout.atWork.find? fun task => task.machine.id = id

def settle (provider : Provider σ) (plan : RolloutPlan) (rollout : Rollout σ) (task : RolloutTask) :
    Rollout σ :=
  let (exports, hosts, answered) :=
    provider.environment plan.topology task.machine plan.queue rollout.provider
  { rollout with
    provider := answered
    cluster := rollout.cluster.noteHosts task.machine.id hosts
    atWork := rollout.atWork.map fun other =>
      if other.machine.id = task.machine.id then { other with script := some ⟨exports, task.body⟩ }
      else other }

def finish (provider : Provider σ) (rollout : Rollout σ) (task : RolloutTask) (script : Script) :
    Rollout σ :=
  let (result, answered) := provider.runScript task.machine.node script rollout.provider
  let failure := match result with
    | .ok () => none
    | .error error => some error
  { rollout with
    provider := answered
    atWork := rollout.atWork.filter fun other => other.machine.id ≠ task.machine.id
    calls := rollout.calls ++ [⟨task.machine, script, failure⟩] }

/-- What an event makes of a rollout in which it can happen. A machine that has
nothing to run is done when its turn comes. -/
def step (provider : Provider σ) (plan : RolloutPlan) (event : RolloutEvent) (rollout : Rollout σ) :
    Option (Rollout σ) :=
  match event with
  | .start =>
      match rollout.waiting with
      | [] => none
      | machine :: rest =>
          if rollout.atWork.length < plan.limit then
            let body := plan.queue.forRoles machine.roles
            let begun := { rollout with waiting := rest }
            some (if body.isEmpty then begun
              else { begun with atWork := begun.atWork ++ [⟨machine, body, none⟩] })
          else none
  | .settle id => do
      let task ← rollout.task? id
      match task.script with
      | none => some (rollout.settle provider plan task)
      | some _ => none
  | .finish id => do
      let task ← rollout.task? id
      match task.script with
      | none => none
      | some script => some (rollout.finish provider task script)

def stepOrStay (provider : Provider σ) (plan : RolloutPlan) (rollout : Rollout σ)
    (event : RolloutEvent) : Rollout σ :=
  (rollout.step provider plan event).getD rollout

def oneByOne (machines : List Instance) : List RolloutEvent :=
  machines.flatMap fun machine => [.start, .settle machine.id, .finish machine.id]

def run (provider : Provider σ) (plan : RolloutPlan) (cluster : Cluster) (state : σ) : Rollout σ :=
  (oneByOne cluster.instances).foldl (stepOrStay provider plan) (initial cluster state)

def failure? (rollout : Rollout σ) : Option (Instance × ProviderError) :=
  rollout.calls.findSome? fun call => call.failure.map fun error => (call.machine, error)

end Rollout

end Muster
