import EditHistory.Action
import EditHistory.Files
import EditHistory.Web.Exchange

/-!
# Sessions

What a program does with the world around it: the service it talks to and what it has sent there, the files, the
clock, and the pauses it makes.

## Main definitions

* `Session` — the world as far as a program sees it
* `Session.now` — the time
* `send`, `pause` — what a program does
-/

namespace EditHistory

open Web

/-- The world as far as a program sees it. -/
structure Session where
  server : Server
  /-- The requests sent so far, the latest first. -/
  requests : List Request
  /-- How often a token has been asked for. -/
  asked : Nat
  /-- Whether the connection for documents has been closed. -/
  closed : Bool
  files : Files
  /-- The time to which the clock was set, in seconds. -/
  clock : Number
  /-- How the clock goes on: the time that it shows after some requests, given the time to which it was set. -/
  passage : List Request → Number → Number
  /-- The pauses made so far, the latest first. -/
  pauses : List Value

namespace Session

variable {ε : Type}

/-- A session with a service and files, at a time at which the clock stands still. -/
def begin (server : Server) (files : Files) (clock : Number) : Session :=
  ⟨server, [], 0, false, files, clock, fun _ time => time, []⟩

/-- The time that the clock shows. -/
def now (s : Session) : Number := s.passage s.requests s.clock

/-- Sends a request. -/
def send (request : Request) : Action Session ε Answer := fun s =>
  .done (s.server s.requests request) { s with requests := request :: s.requests }

/-- Makes a pause. -/
def pause (length : Value) : Action Session ε Unit :=
  Action.modify fun s => { s with pauses := length :: s.pauses }

/-- Closes the connection for documents. -/
def close : Action Session ε Unit :=
  Action.modify fun s => { s with closed := true }

/-- An action on the files. -/
def onFiles {α : Type} (x : Action Files ε α) : Action Session ε α :=
  x.within Session.files fun s files => { s with files }

end Session

end EditHistory
