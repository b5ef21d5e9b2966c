import EditHistory.Command
import EditHistory.Log

/-!
# Commands read from change records

A change record is an object whose `ty` says what kind of change it is: `is` inserts `s` at `ibi`, `ds` deletes
from `si` to `ei`, `st` styles that range with the properties `s`, and `mlti` groups the records `cmds`.  A record
that does not have what its kind needs is rejected with a reason; inside a group, rejecting one entry does not
disturb the others.  A group of groups is flattened, so a command read from a record never nests groups.

A record without its own integral `ts` takes the time of the group around it, or the default.

## Main definitions

* `Rejection` — why a record is no command
* `Reading` — what a record gave: perhaps a command, and the rejections met on the way
* `Command.read` — reads one record
-/

namespace EditHistory

/-- The time a value stands for: an integer, or a double without a fractional part. -/
def Value.timestamp? : Value → Option Int
  | .int n => some n
  | .float x => Number.integral? x
  | _ => none

/-- The position a value stands for: an integer that is not negative. -/
def Value.position? : Value → Option Int
  | .int n => if 0 ≤ n then some n else none
  | _ => none

/-- Why a record is no command. -/
inductive Rejection where
  | notAnObject (record : Value)
  | unknownKind (kind : Value)
  | malformedInsert (record : Value)
  | groupWithoutList
  | badDeleteRange (record : Value)
  | badStyleRange (record : Value)
  | badProperties (record : Value)

/-- The wording of a rejection. -/
def Rejection.message : Rejection → String
  | .notAnObject v => "Skipping change that is not an object: " ++ v.shown
  | .unknownKind v => "Unknown command type: " ++ v.shown
  | .malformedInsert v => "Skipping malformed insert: " ++ v.shown
  | .groupWithoutList => "Skipping multi command without a cmds list"
  | .badDeleteRange v => "Skipping delete command with bad range: " ++ v.shown
  | .badStyleRange v => "Skipping style command with bad range: " ++ v.shown
  | .badProperties v => "Skipping style command with non-object properties: " ++ v.shown

/-- Every rejection is a warning. -/
def Rejection.record (r : Rejection) : Record :=
  ⟨.warning, r.message⟩

/-- What reading a record gave. -/
structure Reading where
  command : Option Command
  rejections : List Rejection

namespace Reading

/-- A record that is a command. -/
def accept (c : Command) : Reading := ⟨some c, []⟩

/-- A record that is none. -/
def reject (r : Rejection) : Reading := ⟨none, [r]⟩

/-- The commands a reading adds to the group around it: a group adds its parts. -/
def parts (r : Reading) : List Command :=
  match r.command with
  | none => []
  | some (.group parts _) => parts
  | some c => [c]

/-- The warnings of a reading. -/
def log (r : Reading) : Log :=
  r.rejections.map Rejection.record

end Reading

namespace Command

/-- Reads a record that inserts. -/
def readInsert (fields : List (String × Value)) (timestamp : Int) : Reading :=
  match (Value.lookup? fields "ibi").bind Value.position?, Value.lookup? fields "s" with
  | some position, some (.str text) => .accept (.insert position text.toList timestamp)
  | _, _ => .reject (.malformedInsert (.object fields))

/-- The range of a record that deletes or styles. -/
def readRange? (fields : List (String × Value)) : Option (Int × Int) := do
  let start ← (Value.lookup? fields "si").bind Value.position?
  let stop ← (Value.lookup? fields "ei").bind Value.position?
  return (start, stop)

/-- Reads a record that deletes. -/
def readDelete (fields : List (String × Value)) (timestamp : Int) : Reading :=
  match readRange? fields with
  | some (start, stop) => .accept (.delete start stop timestamp)
  | none => .reject (.badDeleteRange (.object fields))

/-- Reads a record that styles; without `s` it has no properties. -/
def readStyle (fields : List (String × Value)) (timestamp : Int) : Reading :=
  match readRange? fields with
  | none => .reject (.badStyleRange (.object fields))
  | some (start, stop) =>
    match Value.lookup? fields "s" with
    | none => .accept (.style start stop [] timestamp)
    | some (.object properties) => .accept (.style start stop properties timestamp)
    | some _ => .reject (.badProperties (.object fields))

/-- The group that readings of its entries give. -/
def ofReadings (entries : Option (List Reading)) (timestamp : Int) : Reading :=
  match entries with
  | none => .reject .groupWithoutList
  | some readings =>
    ⟨some (.group (readings.flatMap Reading.parts) timestamp), readings.flatMap Reading.rejections⟩

mutual

/-- Reads a record; `timestamp` is the time of a record without its own. -/
def read (timestamp : Int) : Value → Reading
  | .object fields =>
    let own := ((Value.lookup? fields "ts").bind Value.timestamp?).getD timestamp
    match Value.lookup? fields "ty" with
    | some (.str "is") => readInsert fields own
    | some (.str "ds") => readDelete fields own
    | some (.str "st") => readStyle fields own
    | some (.str "mlti") => ofReadings (readEntries own fields) own
    | kind => .reject (.unknownKind (kind.getD .null))
  | v => .reject (.notAnObject v)

/-- Reads the entries of a group from the field `cmds`; nothing unless that is a list. -/
def readEntries (timestamp : Int) : List (String × Value) → Option (List Reading)
  | [] => none
  | (key, v) :: rest => if key = "cmds" then readList timestamp v else readEntries timestamp rest

/-- Reads the items of a list; nothing unless the value is a list. -/
def readList (timestamp : Int) : Value → Option (List Reading)
  | .list items => some (readItems timestamp items)
  | _ => none

/-- Reads several records. -/
def readItems (timestamp : Int) : List Value → List Reading
  | [] => []
  | v :: vs => read timestamp v :: readItems timestamp vs

end

end Command

end EditHistory
