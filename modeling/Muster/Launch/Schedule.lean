import Muster.Launch.State

/-!
The order in which a launch takes its steps when everything runs on one thread and
time stands still until nothing can run. Slots run first come first served. A slot
goes on without a break until it has to wait: for a permit, or for a timer. A
permit that is given back is kept for the slot that has waited longest, which runs
after all that can run already. Timers that end together wake their slots in the
order in which they were set. A cancellation wakes every waiting slot, in the order
in which they began to wait.
-/

namespace Muster.Launch

structure Timer where
  due : Nat
  event : Event

structure Schedule (σ : Type) where
  state : State σ
  now : Nat
  ready : List Event
  line : List Nat
  reserved : List Nat
  timers : List Timer
  waits : List Nat
  cancelAt : Option Nat
  deadlineAt : Option Nat

namespace Schedule

variable {σ : Type}

def slotOf? : Event → Option Nat
  | .start number | .created number | .expired number | .checked number | .aborted number
  | .discarded number => some number
  | _ => none

def apply (provider : Provider σ) (plan : Plan) (event : Event) (schedule : Schedule σ) :
    Schedule σ :=
  let state := (schedule.state.step provider plan event).getD schedule.state
  let heard := if state.inbox.isEmpty then state
    else (state.step provider plan .received).getD state
  { schedule with state := heard }

def wait (schedule : Schedule σ) (number : Nat) : Schedule σ :=
  { schedule with waits := schedule.waits ++ [number] }

def setTimer (schedule : Schedule σ) (number millis : Nat) (event : Event) : Schedule σ :=
  let timer : Timer := ⟨schedule.now + millis, event⟩
  { schedule with timers := schedule.timers ++ [timer] }.wait number

def passPermit (schedule : Schedule σ) : Schedule σ :=
  match schedule.line with
  | [] => schedule
  | first :: rest =>
      { schedule with
        line := rest
        reserved := first :: schedule.reserved
        waits := schedule.waits.erase first
        ready := schedule.ready ++ [.start first] }

def goOn (provider : Provider σ) (plan : Plan) (number : Nat) : Nat → Schedule σ → Schedule σ
  | 0, schedule => schedule
  | fuel + 1, schedule =>
      match schedule.state.slot? number with
      | none => schedule.passPermit
      | some slot =>
          match slot.stage with
          | .queued => schedule
          | .creating millis =>
              let limit := plan.timeLimit.getD millis
              if millis = 0 then goOn provider plan number fuel (schedule.apply provider plan (.created number))
              else if limit = 0 then
                goOn provider plan number fuel (schedule.apply provider plan (.expired number))
              else if limit < millis then schedule.setTimer number limit (.expired number)
              else schedule.setTimer number millis (.created number)
          | .checking _ millis =>
              if millis = 0 then goOn provider plan number fuel (schedule.apply provider plan (.checked number))
              else schedule.setTimer number millis (.checked number)
          | .destroying .. =>
              goOn provider plan number fuel (schedule.apply provider plan (.discarded number))

def hasPermit (plan : Plan) (schedule : Schedule σ) : Bool :=
  schedule.state.atWork + schedule.reserved.length < plan.permits

/-- Takes a step that is ready; a slot that is told to end does so instead, after it
has destroyed the machine that it was checking. -/
def perform (provider : Provider σ) (plan : Plan) (event : Event) (schedule : Schedule σ) :
    Schedule σ :=
  match slotOf? event with
  | none => schedule.apply provider plan event
  | some number =>
      if schedule.state.cancelled then
        (schedule.apply provider plan (.aborted number)).apply provider plan (.discarded number)
      else
        match event with
        | .start number =>
            if number ∈ schedule.reserved then
              goOn provider plan number 4
                ({ schedule with reserved := schedule.reserved.erase number }.apply provider plan event)
            else if schedule.hasPermit plan then
              goOn provider plan number 4 (schedule.apply provider plan event)
            else { schedule with line := schedule.line ++ [number] }.wait number
        | _ => goOn provider plan number 4 (schedule.apply provider plan event)

def wakeAll (schedule : Schedule σ) : Schedule σ :=
  { schedule with
    ready := schedule.ready ++ schedule.waits.map Event.aborted
    line := []
    timers := []
    waits := [] }

def cancel (provider : Provider σ) (plan : Plan) (schedule : Schedule σ) : Schedule σ :=
  ((schedule.apply provider plan .cancel).apply provider plan .noticed).wakeAll

def expire (provider : Provider σ) (plan : Plan) (schedule : Schedule σ) : Schedule σ :=
  (schedule.apply provider plan .deadline).wakeAll

def earlier (left right : Option Nat) : Option Nat :=
  match left, right with
  | none, moment | moment, none => moment
  | some a, some b => some (min a b)

def ring (schedule : Schedule σ) (moment : Nat) : Schedule σ :=
  let ended := (schedule.timers.filter fun timer => timer.due ≤ moment).map Timer.event
  { schedule with
    now := max schedule.now moment
    timers := schedule.timers.filter fun timer => !(timer.due ≤ moment)
    waits := schedule.waits.filter fun number => some number ∉ ended.map slotOf?
    ready := schedule.ready ++ ended }

def advance (provider : Provider σ) (plan : Plan) (schedule : Schedule σ) : Option (Schedule σ) :=
  let goesOn := !schedule.state.cancelled
  let cancelAt := if goesOn then schedule.cancelAt else none
  let deadlineAt := if goesOn && schedule.state.stop.isNone then schedule.deadlineAt else none
  let timerAt := schedule.timers.foldl (fun first timer => earlier first (some timer.due)) none
  match earlier timerAt (earlier cancelAt deadlineAt) with
  | none => none
  | some moment =>
      if cancelAt = some moment then
        some (cancel provider plan { schedule with now := max schedule.now moment })
      else if deadlineAt = some moment then
        some (expire provider plan { schedule with now := max schedule.now moment })
      else some (schedule.ring moment)

def runAttempt (provider : Provider σ) (plan : Plan) : Nat → Schedule σ → Schedule σ
  | 0, schedule => schedule
  | fuel + 1, schedule =>
      match schedule.ready with
      | event :: rest =>
          runAttempt provider plan fuel
            (perform provider plan event { schedule with ready := rest })
      | [] =>
          if schedule.state.slots.isEmpty then schedule
          else
            match schedule.advance provider plan with
            | none => schedule
            | some later => runAttempt provider plan fuel later

/-- Gets the slots of a new attempt ready. A deadline that has passed, or a
cancellation, comes before the first of them runs. -/
def openAttempt (provider : Provider σ) (plan : Plan) (schedule : Schedule σ) : Schedule σ :=
  let ready := { schedule with
    ready := schedule.state.slots.map fun (slot : Slot) => Event.start slot.number
    line := [], reserved := [], timers := [], waits := [] }
  if ready.state.cancelled then ready.apply provider plan .noticed
  else if ready.deadlineAt.any (· ≤ ready.now) then expire provider plan ready
  else ready

def run (provider : Provider σ) (plan : Plan) : Nat → Schedule σ → Schedule σ
  | 0, schedule => schedule
  | attempts + 1, schedule =>
      let next := schedule.apply provider plan .proceed
      if next.state.finished then next
      else
        let opened := openAttempt provider plan next
        run provider plan attempts
          (runAttempt provider plan (8 * opened.state.slots.length + 8) opened)

end Schedule

end Muster.Launch
