import EditHistory.Command.Reading
import EditHistory.Revision

/-!
# Revisions read from payloads

A payload is an object with a `revisionId`, a `timestamp` and a list of changes, either `changelog.changes` or
`changes`.  A batch is a list of payloads, an object with a list `revisions`, a single payload, or an object whose
`changelog` is a list of entries `[change, timestamp, user, number, …]`.

A payload that lacks an id, a time or a list of changes is an error.  A change that is no command is not: it is
dropped with a warning.

## Main definitions

* `PayloadError` — why a payload is unusable
* `Payload.read?` — the parts of a payload
* `Revision.read` — the revision of a payload
* `Revision.readBatch` — the revisions of a batch
-/

namespace EditHistory

/-- Why a payload is unusable. -/
inductive PayloadError where
  | noChanges
  | changesNotAList (kind : String)
  | notAnObject (kind : String)
  | noId
  | noTimestamp (id : String) (found : Value)
  | malformedEntry (entry : Value)
  | entryWithoutTimestamp (entry : Value)
  | notABatch (kind : String)

/-- The wording of a payload error. -/
def PayloadError.message : PayloadError → String
  | .noChanges => "Revision payload has no changelog.changes list"
  | .changesNotAList kind => "Revision changes must be a list, got " ++ kind
  | .notAnObject kind => "Revision payload must be an object, got " ++ kind
  | .noId => "Revision payload is missing revisionId"
  | .noTimestamp id found => "Revision " ++ id ++ " has no integer timestamp: " ++ found.shown
  | .malformedEntry entry => "Malformed changelog entry: " ++ entry.shown
  | .entryWithoutTimestamp entry => "Changelog entry has no timestamp: " ++ entry.shown
  | .notABatch kind => "Revision batch must be a list or object, got " ++ kind

/-- The parts of a payload. -/
structure Payload where
  id : String
  timestamp : Int
  changes : List Value
  snapshot : Option (List Char)

namespace Payload

/-- The id of a payload: a text that is not empty, or an integer written out. -/
def readId? (raw : Value) : Option String :=
  match raw.get? "revisionId" with
  | some (.int n) => some (showInt n)
  | some (.str s) => if s = "" then none else some s
  | _ => none

/-- The list of changes of a payload: `changelog.changes` if the changelog is an object that has it, else
`changes`. -/
def readChanges (raw : Value) : Except PayloadError (List Value) :=
  match ((raw.get? "changelog").bind fun changelog => changelog.get? "changes").or (raw.get? "changes") with
  | some (.list changes) => .ok changes
  | some v => .error (.changesNotAList v.kindName)
  | none => .error .noChanges

/-- The text a payload records for the document. -/
def readSnapshot? (raw : Value) : Option (List Char) :=
  match raw.get? "snapshot" with
  | some (.str s) => some s.toList
  | _ => none

/-- The parts of a payload.  The first part that is missing is the error. -/
def read (raw : Value) : Except PayloadError Payload :=
  match raw with
  | .object _ =>
    match readId? raw with
    | none => .error .noId
    | some id =>
      match (raw.get? "timestamp").bind Value.timestamp? with
      | none => .error (.noTimestamp id ((raw.get? "timestamp").getD .null))
      | some timestamp =>
        (readChanges raw).map fun changes => ⟨id, timestamp, changes, readSnapshot? raw⟩
  | v => .error (.notAnObject v.kindName)

/-- What the changes of a payload give. -/
def readings (p : Payload) : List Reading :=
  Command.readItems p.timestamp p.changes

/-- The revision of a payload: the commands among its changes, in order. -/
def revision (p : Payload) : Revision :=
  ⟨p.id, p.timestamp, p.readings.filterMap Reading.command, p.snapshot⟩

/-- The records of reading a payload: a warning for each rejection, then the count of commands. -/
def log (p : Payload) : Log :=
  p.readings.flatMap Reading.log ++
    [⟨.info, "Parsed revision " ++ p.id ++ " with " ++ showNat p.revision.commands.length ++ " commands"⟩]

end Payload

namespace Revision

/-- Reads the revision of a payload. -/
def read (raw : Value) : Noted PayloadError Revision :=
  match Payload.read raw with
  | .error e => .fail e
  | .ok p => ⟨p.log, .ok p.revision⟩

/-- Reads several payloads, in order; the first error ends the reading. -/
def readAll : List Value → Noted PayloadError (List Revision)
  | [] => pure []
  | raw :: rest => do
    let revision ← read raw
    let revisions ← readAll rest
    return revision :: revisions

/-- The id of the revision of a changelog entry: its fourth item, or else its place, counted from one. -/
def entryId (entry : List Value) (place : Nat) : String :=
  match entry[3]? with
  | some v => v.text
  | none => showNat place

/-- Reads a changelog entry that stands at a place counted from one. -/
def readEntry (place : Nat) (entry : Value) : Noted PayloadError Revision :=
  match entry with
  | .list (change :: time :: more) =>
    match time.timestamp? with
    | none => .fail (.entryWithoutTimestamp entry)
    | some timestamp =>
      let reading := Command.read timestamp change
      ⟨reading.log,
        .ok ⟨entryId (change :: time :: more) place, timestamp, reading.command.toList, none⟩⟩
  | v => .fail (.malformedEntry v)

/-- Reads changelog entries, the first of which stands at the given place. -/
def readEntriesFrom (place : Nat) : List Value → Noted PayloadError (List Revision)
  | [] => pure []
  | entry :: rest => do
    let revision ← readEntry place entry
    let revisions ← readEntriesFrom (place + 1) rest
    return revision :: revisions

/-- Reads a batch. -/
def readBatch (raw : Value) : Noted PayloadError (List Revision) :=
  match raw with
  | .list payloads => readAll payloads
  | .object _ =>
    match raw.get? "revisions", raw.get? "changelog" with
    | some (.list payloads), _ => readAll payloads
    | _, some (.list entries) => readEntriesFrom 1 entries
    | _, _ => readAll [raw]
  | v => .fail (.notABatch v.kindName)

end Revision

end EditHistory
