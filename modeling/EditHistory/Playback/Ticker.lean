import EditHistory.Action
import EditHistory.Playback.Schedule

/-!
# A timer by itself

A timer on a schedule, whose work may stop the timer or fail, differently at every tick.  Other timers may be on the
schedule as well; what their work does is left out.

## Main definitions

* `Work` — what the work of a tick does
* `Ticker` — the schedule, the timer and the times at which its work was done
* `Ticker.fire`, `Ticker.fireAt`, `Ticker.advance` — time
* `Ticker.Event`, `Ticker.perform` — whatever can happen around the timer
-/

namespace EditHistory.Playback

/-- What the work of a tick does. -/
inductive Work where
  /-- Nothing that concerns the timer. -/
  | goOn
  /-- It stops the timer. -/
  | stop
  /-- It fails. -/
  | fail
  deriving DecidableEq, Repr

/-- The work of a tick failed. -/
inductive WorkFailed where
  | mk

/-- A timer on a schedule, and the times at which its work was done, in order. -/
structure Ticker where
  schedule : Schedule
  timer : Nat
  times : List Float

namespace Ticker

/-- A timer just started on a schedule. -/
def startOn (s : Schedule) (period : Float) : Ticker :=
  let (timer, schedule) := s.start period
  ⟨schedule, timer, []⟩

/-- A timer just started on a schedule of its own. -/
def start (keepsCancelled : Bool) (period : Float) : Ticker :=
  startOn (Schedule.initial keepsCancelled) period

/-- Whether the timer is going. -/
def isActive (t : Ticker) : Bool :=
  t.schedule.isActive t.timer

/-- Stops the timer. -/
def stop (t : Ticker) : Ticker :=
  { t with schedule := t.schedule.stop t.timer }

/-- Does the work of a tick; the first tick has the number one. -/
def tick (work : Nat → Work) : Action Ticker WorkFailed Unit := fun t =>
  let t := { t with times := t.times ++ [t.schedule.now] }
  match work t.times.length with
  | .goOn => .done () t
  | .stop => .done () t.stop
  | .fail => .failed .mk t

/-- Does the work that a call, having been made, gives to the timer; false if there was no call. -/
def serve (work : Nat → Work) (made : Option (Option Nat × Schedule)) : Action Ticker WorkFailed Bool := fun t =>
  match made with
  | none => .done false t
  | some (timer, schedule) =>
    if timer = some t.timer then (tick work { t with schedule }).map fun _ => true
    else .done true { t with schedule }

/-- Makes the earliest waiting call; false if there is none. -/
def fire (work : Nat → Work) : Action Ticker WorkFailed Bool := fun t =>
  serve work t.schedule.fire? t

/-- Makes the call at a place, whatever its time; false if there is none. -/
def fireAt (work : Nat → Work) (place : Nat) : Action Ticker WorkFailed Bool := fun t =>
  serve work (t.schedule.fireAt? place) t

/-- Makes the calls that are due up to a time, at most `limit` of them, and counts them from `count`. -/
def fireUntil (work : Nat → Work) (time : Float) (count : Nat) : Nat → Action Ticker WorkFailed Nat
  | 0 => fun t => .done count t
  | limit + 1 => fun t =>
    if t.schedule.isDue time then (fire work t).andThen fun _ t => fireUntil work time (count + 1) limit t
    else .done count t

/-- Lets some seconds pass: makes the calls that are due on the way, at most `limit` of them, and counts them. -/
def advance (work : Nat → Work) (limit : Nat) (seconds : Float) : Action Ticker WorkFailed Nat := fun t =>
  (fireUntil work (t.schedule.now + seconds) 0 limit t).andThen fun count u =>
    .done count { u with schedule := { u.schedule with now := t.schedule.now + seconds } }

/-- A bound on the calls within some seconds.  As long as the period is no less than the spacing of the doubles
around, a rounded sum of times grows by at least half the period. -/
def callLimit (t : Ticker) (seconds : Float) : Nat :=
  let periods := t.schedule.timers.map fun timer => seconds / timer.period * 2.0
  periods.foldl (fun n x => n + ((Number.truncated? x).getD 0).toNat) (t.schedule.calls.length + 2)

/-- Work that stops the timer at one tick and otherwise does nothing. -/
def stoppingAt (tick : Option Nat) (n : Nat) : Work :=
  if tick = some n then .stop else .goOn

/-- Makes calls until the timer has stopped, at most `limit` of them. -/
def run (work : Nat → Work) : Nat → Action Ticker WorkFailed Unit
  | 0 => fun t => .done () t
  | limit + 1 => fun t =>
    if t.isActive then (fire work t).andThen fun _ t => run work limit t else .done () t

/-- Whatever can happen around a timer. -/
inductive Event where
  /-- The earliest call is made. -/
  | fire
  /-- The call at a place is made. -/
  | fireAt (place : Nat)
  /-- Some seconds pass, and at most `limit` calls are made on the way. -/
  | advance (limit : Nat) (seconds : Float)
  /-- A timer is stopped, not by the work of this one. -/
  | stop (timer : Nat)
  /-- Another timer is started. -/
  | start (period : Float)

/-- The state after an event.  If the work fails, it is the state of that moment. -/
def perform (work : Nat → Work) : Event → Ticker → Ticker
  | .fire, t => (fire work t).state
  | .fireAt place, t => (fireAt work place t).state
  | .advance limit seconds, t => (advance work limit seconds t).state
  | .stop timer, t => { t with schedule := t.schedule.stop timer }
  | .start period, t => { t with schedule := (t.schedule.start period).2 }

/-- The state after some events, one after the other. -/
def performAll (work : Nat → Work) : List Event → Ticker → Ticker
  | [], t => t
  | event :: events, t => performAll work events (perform work event t)

end Ticker

end EditHistory.Playback
