import EditHistory.Playback.Status

/-!
# Operations on an engine

What can be asked of an engine from outside, as data, so that what is done with an engine is a list of operations.
An operation that fails leaves an engine behind like any other, and the next one starts from it.

## Main definitions

* `Operation` — what can be asked of an engine
* `Answer` — what an operation gives back
* `Engine.perform` — an operation carried out
* `Engine.run`, `Engine.trace` — several operations carried out in turn
-/

namespace EditHistory.Playback

/-- What can be asked of an engine. -/
inductive Operation where
  | play
  | pause
  | toggle
  | reset
  | close
  | stepForward
  | stepBackward
  | jump (target : Value)
  | jumpToEnd
  | setOptions (options : Value)
  | verify
  | status
  /-- The schedule makes its earliest call. -/
  | fire
  /-- The schedule makes the call at a place, whatever its time. -/
  | fireAt (place : Nat)
  /-- Some seconds pass. -/
  | advance (seconds : Float)

/-- What an operation gives back. -/
inductive Answer where
  | nothing
  | flag (b : Bool)
  | verdict (v : Option Bool)
  | text (s : String)
  | count (n : Nat)
  deriving DecidableEq, Repr

namespace Engine

/-- Carries an operation out. -/
def perform : Operation → Action Engine Fault Answer
  | .play => fun e => (play e).map .flag
  | .pause => fun e => (pause e).map .flag
  | .toggle => fun e => (toggle e).map .flag
  | .reset => fun e => .done .nothing e.reset
  | .close => fun e => .done .nothing e.close
  | .stepForward => fun e => (stepForward e).map .flag
  | .stepBackward => fun e => (stepBackward e).map .flag
  | .jump target => fun e => (jump target e).map .flag
  | .jumpToEnd => fun e => (jumpToEnd e).map .flag
  | .setOptions options => fun e => (setOptions options e).map fun _ => .nothing
  | .verify => fun e => ⟨⟨[], e.verify.map .verdict⟩, e⟩
  | .status => fun e => ⟨⟨[], e.status.map .text⟩, e⟩
  | .fire => fun e => (fire e).map .flag
  | .fireAt place => fun e => (fireAt place e).map .flag
  | .advance seconds => fun e => (advance seconds e).map .count

/-- The engine after several operations. -/
def run : List Operation → Engine → Engine
  | [], e => e
  | op :: ops, e => run ops (perform op e).state

/-- The outcome of each operation and the engine it leaves behind. -/
def trace : List Operation → Engine → List (Except Fault Answer × Engine)
  | [], _ => []
  | op :: ops, e => ((perform op e).outcome, (perform op e).state) :: trace ops (perform op e).state

end Engine

end EditHistory.Playback
