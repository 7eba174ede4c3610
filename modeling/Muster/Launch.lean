import Muster.Launch.Schedule

/-!
Launching the machines of a topology, with the choices that a caller has.
-/

namespace Muster

structure LaunchOptions where
  maxConcurrent : Option Nat
  /-- In milliseconds after the beginning. -/
  deadline : Option Nat
  /-- In milliseconds for each creation. -/
  instanceTimeout : Option Nat
  /-- When the launch is cancelled; 0 before it begins. -/
  cancelAt : Option Nat

def LaunchOptions.none : LaunchOptions := ⟨.none, .none, .none, .none⟩

def concurrency (topology : Topology) (options : LaunchOptions) : Nat :=
  max (options.maxConcurrent.getD topology.maxConcurrentLaunches.toNat) 1

/-- The most permits that can be handed out: a 64-bit number without its last three bits. -/
def maxPermits : Nat := (UInt64.size - 1) >>> 3

def clockSeconds : Nat := UInt64.size / 2

namespace Launch

/-- Whether a call gets as far as to launch something. It panics if there cannot be so many permits, or if
the clock does not go as far as the deadline. -/
def canBegin (topology : Topology) (options : LaunchOptions) (now : Nat) : Bool :=
  concurrency topology options ≤ maxPermits &&
    options.deadline.all fun millis => (now + millis) / 1000 < clockSeconds

/-- The plan of a call that can begin: it has no more than `maxPermits` permits then. -/
def plan (topology : Topology) (bootstrap : RoleSet → Script) (options : LaunchOptions) : Plan where
  topology
  bootstrap
  permits := concurrency topology options
  timeLimit := options.instanceTimeout
  deadline := options.deadline

variable {σ : Type}

def schedule (plan : Plan) (options : LaunchOptions) (now : Nat) (provider : σ) : Schedule σ where
  state := .initial plan (options.cancelAt.any (· ≤ now)) provider
  now
  ready := []
  line := []
  reserved := []
  timers := []
  waits := []
  cancelAt := options.cancelAt
  deadlineAt := plan.deadline.map (now + ·)

/-- Launches every group of a topology: what came of it, the time at which it was
over, and the provider after it. It is what a call does that can begin. -/
def run (provider : Provider σ) (topology : Topology) (bootstrap : RoleSet → Script)
    (options : LaunchOptions) (now : Nat) (state : σ) :
    Except LaunchError (Cluster × LaunchReport) × Nat × σ :=
  let plan := plan topology bootstrap options
  let ended := Schedule.run provider plan (plan.maxAttempts + 1) (schedule plan options now state)
  let (answer, provider) := ended.state.verdict provider plan
  (answer, ended.now, provider)

/-- A call as its caller sees it, who gets nothing of one that panics. -/
def call? (provider : Provider σ) (topology : Topology) (bootstrap : RoleSet → Script)
    (options : LaunchOptions) (now : Nat) (state : σ) :
    Option (Except LaunchError (Cluster × LaunchReport) × Nat × σ) :=
  if canBegin topology options now then some (run provider topology bootstrap options now state) else none

end Launch

end Muster
