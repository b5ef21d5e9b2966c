import EditHistory.Files
import EditHistory.Json.Guard
import EditHistory.Json.Reader
import EditHistory.Revision.Payload

/-!
# Revisions read from a file

A file of recorded revisions holds a batch as JSON, perhaps behind the guard.
-/

namespace EditHistory

/-- Why a file gives no revisions. -/
inductive ArchiveError where
  | unreadable (path : Path) (fault : FileFault)
  | notJson (path : Path) (error : Json.Error)
  | unusable (error : PayloadError)
  /-- The path holds the character NUL. -/
  | nul
  /-- The bytes of the file are no text. -/
  | undecodable
  /-- The file holds an integer with more digits than are converted. -/
  | integerTooLong (error : Json.Error)

/-- Whether the error is one about revisions, rather than about names, text or numbers. -/
def ArchiveError.isExpected : ArchiveError → Bool
  | .nul | .undecodable | .integerTooLong _ => false
  | _ => true

/-- The wording of an error. -/
def ArchiveError.message : ArchiveError → String
  | .unreadable path fault => "Cannot read " ++ path.text ++ ": " ++ fault.message path
  | .notJson path error => path.text ++ " is not valid JSON: " ++ error.message
  | .unusable error => error.message
  | .nul => "embedded null byte"
  | .undecodable => "the file is not valid UTF-8"
  | .integerTooLong error => error.message

namespace Revision

/-- The value that a file of recorded revisions holds. -/
def readFile (fs : Files) (path : Path) : Except ArchiveError Value :=
  match fs.readText path with
  | .error (.fault .nul) => .error .nul
  | .error (.fault fault) => .error (.unreadable path fault)
  | .error .undecodable => .error .undecodable
  | .ok text =>
    match Json.parse (Json.dropGuard text) with
    | .ok v => .ok v
    | .error e => .error (if e.fault.isSyntactic then .notJson path e else .integerTooLong e)

/-- A batch with its errors as those of a file. -/
def readBatchOf (v : Value) : Noted ArchiveError (List Revision) :=
  let batch := readBatch v
  ⟨batch.log, batch.outcome.mapError .unusable⟩

/-- Reads the revisions that a file holds. -/
def load (fs : Files) (path : Path) : Noted ArchiveError (List Revision) := do
  let v ← Noted.ofExcept (readFile fs path)
  readBatchOf v

end Revision

end EditHistory
