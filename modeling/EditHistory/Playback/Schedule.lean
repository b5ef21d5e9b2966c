import EditHistory.Value

/-!
# Repeating timers on a virtual clock

A schedule holds a clock and the calls that are to be made.  A repeating timer remembers the call it waits for.  When
that call is made the timer first puts the next call on the schedule, one period later, and only then does its work,
so work that stops the timer also cancels the next call.

Stopping a timer cancels the call it waits for.  A schedule may keep cancelled calls and still make them when their
time comes; the timer, being stopped, then does nothing.

## Main definitions

* `Schedule` — the clock, the waiting calls and the timers
* `readPeriod` — the period a value stands for
* `Schedule.start`, `Schedule.stop` — a timer set going, and stopped
* `Schedule.make` — a call made
* `Schedule.fire?`, `Schedule.fireAt?` — the earliest call made, and the call at a place
-/

namespace EditHistory.Playback

/-- Why a value is no period. -/
inductive PeriodError where
  /-- The value is zero or negative. -/
  | notPositive (value : Value)
  /-- The value is not a number. -/
  | notANumber
  /-- The value is an integer beyond the largest double. -/
  | tooLarge

/-- The wording of a period error. -/
def PeriodError.message : PeriodError → String
  | .notPositive v => "Interval must be positive, got " ++ v.text
  | .notANumber => "Interval must be a number"
  | .tooLarge => "Interval is too large"

/-- The period, in seconds, that a value stands for.  Only a number that is at most zero is no period. -/
def readPeriod (v : Value) : Except PeriodError Float :=
  match v.number? with
  | none => .error .notANumber
  | some x =>
    if x.le (.int 0) then .error (.notPositive v)
    else match x.toFloat? with
      | none => .error .tooLarge
      | some period => .ok period

/-- A repeating timer. -/
structure Timer where
  period : Float
  active : Bool
  /-- The number of the call that the timer waits for. -/
  waiting : Option Nat

/-- A call that waits for its time; it belongs to the timer with the given number. -/
structure Call where
  number : Nat
  time : Float
  timer : Nat
  cancelled : Bool

/-- A clock, the calls that wait, in the order in which they were put there, and all timers ever started. -/
structure Schedule where
  now : Float
  calls : List Call
  timers : List Timer
  /-- How many calls have been put there so far; the next one gets this number. -/
  count : Nat
  /-- Whether cancelled calls stay and are made nevertheless. -/
  keepsCancelled : Bool

namespace Schedule

/-- A schedule at time zero without calls. -/
def initial (keepsCancelled : Bool) : Schedule := ⟨0.0, [], [], 0, keepsCancelled⟩

/-- Puts the next call of a timer on the schedule, one period from now. -/
def arm (s : Schedule) (timer : Nat) (period : Float) : Schedule :=
  { s with
    calls := s.calls ++ [⟨s.count, s.now + period, timer, false⟩]
    timers := s.timers.modify timer fun t => { t with waiting := some s.count }
    count := s.count + 1 }

/-- Starts a timer; its number is the result. -/
def start (s : Schedule) (period : Float) : Nat × Schedule :=
  let started : Schedule := { s with timers := s.timers ++ [⟨period, true, none⟩] }
  (s.timers.length, started.arm s.timers.length period)

/-- Whether a timer is going. -/
def isActive (s : Schedule) (timer : Nat) : Bool :=
  (s.timers[timer]?.map Timer.active).getD false

/-- The call that a timer waits for, by its number. -/
def awaited? (s : Schedule) (timer : Nat) : Option Nat :=
  s.timers[timer]?.bind Timer.waiting

/-- The calls with one of them cancelled, which either stays or goes. -/
def cancelCall (keepsCancelled : Bool) (number : Nat) (calls : List Call) : List Call :=
  if keepsCancelled then calls.map fun c => if c.number = number then { c with cancelled := true } else c
  else calls.filter fun c => c.number != number

/-- Stops a timer and cancels the call it waits for. -/
def stop (s : Schedule) (timer : Nat) : Schedule :=
  { s with
    calls := match s.awaited? timer with
      | some number => cancelCall s.keepsCancelled number s.calls
      | none => s.calls
    timers := s.timers.modify timer fun t => { t with active := false, waiting := none } }

/-- The waiting calls of a timer that are not cancelled. -/
def live (s : Schedule) (timer : Nat) : List Call :=
  s.calls.filter fun c => c.timer == timer && !c.cancelled

/-- The earliest of some calls and the calls around it; of calls at one time the first counts as the earliest.
`before` and `after` are the calls around the earliest call so far. -/
def earliestFrom (before : List Call) (best : Call) (after : List Call) : List Call → List Call × Call × List Call
  | [] => (before, best, after)
  | c :: cs =>
    if c.time < best.time then earliestFrom (before ++ best :: after) c [] cs
    else earliestFrom before best (after ++ [c]) cs

/-- The earliest call, and the others in their order. -/
def takeEarliest? : List Call → Option (Call × List Call)
  | [] => none
  | c :: cs =>
    let (before, best, after) := earliestFrom [] c [] cs
    some (best, before ++ after)

/-- The time of the earliest call. -/
def nextTime? (s : Schedule) : Option Float :=
  (takeEarliest? s.calls).map fun p => p.1.time

/-- Whether a call is to be made at or before a time. -/
def isDue (s : Schedule) (time : Float) : Bool :=
  match s.nextTime? with
  | some t => t ≤ time
  | none => false

/-- Makes a waiting call, after which the `others` still wait.  The first part of the result is the timer that now has
to do its work; there is none if the call belongs to a stopped timer. -/
def make (s : Schedule) (c : Call) (others : List Call) : Option Nat × Schedule :=
  let made := { s with now := c.time, calls := others }
  match s.timers[c.timer]? with
  | some t => if t.active then (some c.timer, made.arm c.timer t.period) else (none, made)
  | none => (none, made)

/-- Makes the earliest call, if there is one. -/
def fire? (s : Schedule) : Option (Option Nat × Schedule) :=
  (takeEarliest? s.calls).map fun p => s.make p.1 p.2

/-- Makes the call at a place, if there is one, whatever its time. -/
def fireAt? (s : Schedule) (place : Nat) : Option (Option Nat × Schedule) :=
  s.calls[place]?.map fun c => s.make c (s.calls.eraseIdx place)

end Schedule

end EditHistory.Playback
