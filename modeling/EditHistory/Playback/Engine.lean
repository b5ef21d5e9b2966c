import EditHistory.Action
import EditHistory.Document
import EditHistory.Playback.Cursor
import EditHistory.Playback.Options
import EditHistory.Playback.Schedule

/-!
# The playback engine

The engine shows a history at a cursor: the document after the revisions up to and including that index.  The text
is replayed from the start or, if the engine keeps snapshots, from the nearest text before the cursor that it has
seen.  While it plays, a repeating timer moves the cursor forward; the tick that reaches the last revision, or finds
none left, ends playback.

Moving takes effect in two steps: first the cursor moves, then the text is replayed.  A replay that fails leaves the
cursor where it moved to and the text as it was.

## Main definitions

* `Engine` — the history, the cursor, the text shown and the timer
* `Engine.stepForward`, `Engine.stepBackward`, `Engine.jump` — moving the cursor
* `Engine.play`, `Engine.pause`, `Engine.toggle`, `Engine.reset`, `Engine.close` — the timer
* `Engine.fire`, `Engine.fireAt`, `Engine.advance`, `Engine.playOut` — time
* `Engine.verify` — the text shown against the recorded one
-/

namespace EditHistory.Playback

/-- Whether the engine plays.  Playback itself never enters the last two modes, which are shown like the others. -/
inductive Mode where
  | idle
  | playing
  | paused
  | loading
  | error
  deriving DecidableEq, Repr

/-- The name of a mode. -/
def Mode.name : Mode → String
  | .idle => "idle"
  | .playing => "playing"
  | .paused => "paused"
  | .loading => "loading"
  | .error => "error"

/-- Why an operation of the engine fails. -/
inductive Fault where
  | notACommand (error : NotACommand)
  | options (error : Options.Error)
  | period (error : PeriodError)
  /-- The cursor is not an index. -/
  | notAnIndex
  /-- The target of a jump is not a number. -/
  | notANumber

/-- The wording of a fault. -/
def Fault.message : Fault → String
  | .notACommand e => e.message
  | .options e => e.message
  | .period e => e.message
  | .notAnIndex => "the cursor is not an index"
  | .notANumber => "the target of a jump must be a number"

/-- A text that was shown at an index. -/
structure Snapshot where
  index : Nat
  text : Document

/-- A history that is played. -/
structure Engine where
  revisions : List Revision
  options : Options
  /-- Whether texts are kept as snapshots. -/
  keepsSnapshots : Bool
  snapshots : List Snapshot
  mode : Mode
  cursor : Cursor
  content : Document
  /-- The timer that the engine holds. -/
  timer : Option Nat
  schedule : Schedule
  /-- The records that asking for a timer writes. -/
  timerLog : Log

/-- The later of two snapshots, if the second is to count at all. -/
def laterSnapshot (upto : Nat) (best : Option Snapshot) (s : Snapshot) : Option Snapshot :=
  if upto < s.index then best
  else match best with
    | none => some s
    | some b => if b.index < s.index then some s else some b

/-- The latest snapshot at or before an index. -/
def nearestSnapshot? (snapshots : List Snapshot) (upto : Nat) : Option Snapshot :=
  snapshots.foldl (laterSnapshot upto) none

/-- Applies the commands of revisions in order, the first of which stands at `place`; the state is the list of
snapshots, to which the text after each revision is added if they are kept. -/
def replayKeeping (keep : Bool) (place : Nat) (doc : Document) :
    List Revision → Action (List Snapshot) NotACommand Document
  | [] => pure doc
  | r :: rs => do
    let doc ← Action.ofNoted (doc.applyAll r.commands)
    Action.modify fun snapshots => if keep then ⟨place, doc⟩ :: snapshots else snapshots
    replayKeeping keep (place + 1) doc rs

namespace Engine

/-- An engine before the first revision, on a schedule. -/
def initial (revisions : List Revision) (options : Options) (keepsSnapshots : Bool) (schedule : Schedule)
    (timerLog : Log) : Engine :=
  { revisions, options, keepsSnapshots, snapshots := [], mode := .idle, cursor := .whole (-1), content := [],
    timer := none, schedule, timerLog }

/-- The index of the last revision, -1 if there is none. -/
def last (e : Engine) : Int :=
  e.revisions.length - 1

/-- The revision at the cursor. -/
def current? (e : Engine) : Except Fault (Option Revision) :=
  match e.cursor.target with
  | .start => .ok none
  | .revision index => .ok e.revisions[index]?
  | .nowhere => .error .notAnIndex

/-- The time between ticks, in seconds: a tenth of a second at normal speed. -/
def interval (e : Engine) : Float :=
  100.0 / e.options.speed / 1000.0

/-! ### The text at the cursor -/

/-- Where a replay up to an index starts: the index of its first revision and the text before it. -/
def replayStart (e : Engine) (index : Nat) : Nat × Document :=
  if e.keepsSnapshots then
    match nearestSnapshot? e.snapshots index with
    | some s => (s.index + 1, s.text)
    | none => (0, [])
  else (0, [])

/-- The replay of the text up to an index, from where it starts. -/
def replayTo (e : Engine) (index : Nat) : Step (List Snapshot) NotACommand Document :=
  replayKeeping e.keepsSnapshots (e.replayStart index).1 (e.replayStart index).2
    ((e.revisions.take (index + 1)).drop (e.replayStart index).1) e.snapshots

/-- The engine after a replay: it shows the new text unless the replay failed, and has its snapshots in any case. -/
def settle (e : Engine) (replayed : Step (List Snapshot) NotACommand Document) : Step Engine Fault Unit :=
  match replayed.outcome with
  | .ok doc => ⟨⟨replayed.log, .ok ()⟩, { e with content := doc, snapshots := replayed.state }⟩
  | .error fault => ⟨⟨replayed.log, .error (.notACommand fault)⟩, { e with snapshots := replayed.state }⟩

/-- Replays the text up to an index. -/
def rebuildAt (index : Nat) : Action Engine Fault Unit := fun e =>
  e.settle (e.replayTo index)

/-- Replays the text at the cursor. -/
def rebuild : Action Engine Fault Unit := fun e =>
  match e.cursor.target with
  | .start => .done () { e with content := [] }
  | .revision index => rebuildAt index e
  | .nowhere => .failed .notAnIndex e

/-- Moves the cursor and replays the text there. -/
def moveTo (cursor : Cursor) : Action Engine Fault Bool := fun e =>
  (rebuild { e with cursor := cursor }).map fun _ => true

/-- Moves to the next revision; false at the last. -/
def stepForward : Action Engine Fault Bool := fun e =>
  if e.cursor.atLeast e.last then .done false e else moveTo (e.cursor.moved 1) e

/-- Moves to the revision before; false at the start. -/
def stepBackward : Action Engine Fault Bool := fun e =>
  if e.cursor.atMost (-1) then .done false e else moveTo (e.cursor.moved (-1)) e

/-- Moves to an index, which is first clamped between -1 and the last. -/
def jump (v : Value) : Action Engine Fault Bool := fun e =>
  match Cursor.clamp? v e.last with
  | none => .failed .notANumber e
  | some cursor => moveTo cursor e

/-- Moves to the last revision. -/
def jumpToEnd : Action Engine Fault Bool := fun e =>
  jump (.int e.last) e

/-! ### The timer -/

/-- Stops the timer that the engine holds. -/
def stopTimer (e : Engine) : Engine :=
  match e.timer with
  | none => e
  | some timer => { e with timer := none, schedule := e.schedule.stop timer }

/-- The record of starting playback. -/
def startLog (e : Engine) : Log :=
  [⟨.debug, "Playback started at " ++ String.ofList (Number.hundredths e.options.speed) ++ "x"⟩]

/-- Starts a timer at the present speed, which must give a period that a timer can have. -/
def startTimer : Action Engine Fault Bool := fun e =>
  match readPeriod (.float e.interval) with
  | .error error => ⟨⟨e.timerLog, .error (.period error)⟩, e⟩
  | .ok period =>
    let started := e.schedule.start period
    ⟨⟨e.timerLog ++ e.startLog, .ok true⟩,
      { e with timer := some started.1, schedule := started.2, mode := .playing }⟩

/-- Starts playback; false if it goes on already. -/
def play : Action Engine Fault Bool := fun e =>
  if e.mode = .playing then .done false e else startTimer e.stopTimer

/-- Pauses playback; false unless it goes on. -/
def pause : Action Engine Fault Bool := fun e =>
  if e.mode = .playing then
    (Step.done true { e.stopTimer with mode := .paused }).noting .debug
      ("Playback paused at revision " ++ e.cursor.shown)
  else .done false e

/-- Pauses playback if it goes on and starts it otherwise; whether it goes on now. -/
def toggle : Action Engine Fault Bool := fun e =>
  if e.mode = .playing then (pause e).map fun _ => false else (play e).map fun _ => true

/-- Back to the state before the first revision. -/
def reset (e : Engine) : Engine :=
  { e.stopTimer with cursor := .whole (-1), content := [], mode := .idle }

/-- Gives up the timer. -/
def close (e : Engine) : Engine :=
  { e.stopTimer with mode := if e.mode = .playing then .paused else e.mode }

/-- Ends playback at the last revision. -/
def finish (e : Engine) : Step Engine Fault Unit :=
  (Step.done () { e.stopTimer with mode := .idle }).noting .info
    ("Playback complete at revision " ++ e.cursor.shown)

/-- The work of the timer: a step forward, which ends playback if it reaches the last revision or finds none left. -/
def tick : Action Engine Fault Unit := fun e =>
  (stepForward e).andThen fun moved e =>
    if !moved || e.cursor.atLeast e.last then e.finish else .done () e

/-- Changes the options; the timer in hand keeps its period. -/
def setOptions (v : Value) : Action Engine Fault Unit := fun e =>
  match e.options.update v with
  | .ok options => .done () { e with options }
  | .error error => .failed (.options error) e

/-! ### Time -/

/-- Goes on from a call that the schedule has made: its timer does its work, unless it is stopped.  False if no call was
made. -/
def serve (made : Option (Option Nat × Schedule)) : Action Engine Fault Bool := fun e =>
  match made with
  | none => .done false e
  | some (none, schedule) => .done true { e with schedule }
  | some (some _, schedule) => (tick { e with schedule }).map fun _ => true

/-- Makes the earliest waiting call; false if there is none. -/
def fire : Action Engine Fault Bool := fun e =>
  serve e.schedule.fire? e

/-- Makes the waiting call at a place; false if there is none. -/
def fireAt (place : Nat) : Action Engine Fault Bool := fun e =>
  serve (e.schedule.fireAt? place) e

/-- Makes the calls that are due up to a time, at most `limit` of them, and counts them from `count`. -/
def fireUntil (time : Float) (count : Nat) : Nat → Action Engine Fault Nat
  | 0 => fun e => .done count e
  | limit + 1 => fun e =>
    if e.schedule.isDue time then (fire e).andThen fun _ e => fireUntil time (count + 1) limit e
    else .done count e

/-- More calls than can be made before none is waiting: every call that is kept though cancelled is made once, and
every tick moves the cursor forward. -/
def callLimit (e : Engine) : Nat :=
  e.schedule.calls.length + e.revisions.length + 4

/-- Lets time pass: makes the calls that are due on the way and counts them. -/
def advanceTo (time : Float) : Action Engine Fault Nat := fun e =>
  (fireUntil time 0 e.callLimit e).andThen fun count e =>
    .done count { e with schedule := { e.schedule with now := time } }

/-- Lets some seconds pass. -/
def advance (seconds : Float) : Action Engine Fault Nat := fun e =>
  advanceTo (e.schedule.now + seconds) e

/-- Makes calls until playback has ended, at most `limit` of them. -/
def playOut : Nat → Action Engine Fault Unit
  | 0 => fun e => .done () e
  | limit + 1 => fun e =>
    if e.mode = .playing then (fire e).andThen fun _ e => playOut limit e else .done () e

/-! ### Questions -/

/-- Whether the text is the recorded one; nothing if there is none. -/
def verify (e : Engine) : Except Fault (Option Bool) :=
  e.current?.map fun current => (current.bind Revision.snapshot).map fun snapshot => snapshot == e.content

end Engine

/-- A new engine.  It plays at once if its options say so and there is something to play. -/
def Engine.create (revisions : List Revision) (options : Options) (keepsSnapshots : Bool) (schedule : Schedule)
    (timerLog : Log) : Step Engine Fault Unit :=
  let e := Engine.initial revisions options keepsSnapshots schedule timerLog
  let created : Step Engine Fault Unit :=
    (Step.done () e).noting .debug ("Playback engine created with " ++ showNat revisions.length ++ " revisions")
  if options.autoPlay && !revisions.isEmpty then created.andThen fun _ e => (Engine.play e).map fun _ => ()
  else created

end EditHistory.Playback
