import EditHistory.Log

/-!
# Where timers run

A repeating timer runs on the event loop around it or on a worker thread of its own.  Whoever does not care gets the
event loop if one is running.
-/

namespace EditHistory.Playback

/-- Where a timer runs. -/
inductive Host where
  | eventLoop
  | worker
  deriving DecidableEq, Repr

/-- A timer on an event loop was asked for where none is running. -/
inductive NoEventLoop where
  | mk

/-- The wording of the error. -/
def NoEventLoop.message (_ : NoEventLoop) : String :=
  "no running event loop"

namespace Host

/-- The event loop, which must be running. -/
def running (loopRuns : Bool) : Except NoEventLoop Host :=
  if loopRuns then .ok .eventLoop else .error .mk

/-- The event loop if it is running, else a worker. -/
def default (loopRuns : Bool) : Host :=
  if loopRuns then .eventLoop else .worker

/-- The records of falling back on a host. -/
def log : Host → Log
  | .eventLoop => []
  | .worker => [⟨.debug, "No running event loop, autoplay ticks on a worker thread"⟩]

end Host

end EditHistory.Playback
