import EditHistory.Number.Reading
import EditHistory.Value

/-!
# Fields of answers

Taking a value apart where its shape is not known.  Asking something that has no named parts for a part, asking an
object for a field that it lacks, and asking for the fields of something that has none are different faults.

## Main definitions

* `FieldError` — why a part cannot be had
* `Value.require` — a field that must be there
* `Value.toDouble` — a value as a double
-/

namespace EditHistory

/-- Why a part of a value cannot be had. -/
inductive FieldError where
  /-- The object lacks the field. -/
  | missing (name : String)
  /-- The value has no parts that are named. -/
  | notIndexed
  /-- The value has no fields to choose from. -/
  | noFields
  deriving DecidableEq, Repr

/-- The wording of the error. -/
def FieldError.message : FieldError → String
  | .missing name => showQuoted name
  | .notIndexed => "the value has no named parts"
  | .noFields => "the value has no fields"

/-- A field that must be there. -/
def Value.require (v : Value) (name : String) : Except FieldError Value :=
  match v with
  | .object fields =>
    match Value.lookup? fields name with
    | some w => .ok w
    | none => .error (.missing name)
  | _ => .error .notIndexed

/-- The field of an object, or a value to take its place. -/
def Value.getOr (v : Value) (name : String) (fallback : Value) : Value :=
  (v.get? name).getD fallback

/-- The value unless it is off, and another value if it is. -/
def Value.orElse (v fallback : Value) : Value :=
  if v.truthy then v else fallback

/-- Why a value is no double. -/
inductive DoubleError where
  /-- The value is neither a number nor a text. -/
  | notANumber
  /-- The text does not write a number. -/
  | malformed (text : String)
  /-- The value is an integer beyond the largest double. -/
  | tooLarge
  deriving DecidableEq, Repr

/-- The wording of the error. -/
def DoubleError.message : DoubleError → String
  | .notANumber => "the value is not a number"
  | .malformed text => "could not convert string to float: " ++ showQuoted text
  | .tooLarge => "int too large to convert to float"

/-- A value as a double: a number, a switch, or a text that writes a number. -/
def Value.toDouble (v : Value) : Except DoubleError Float :=
  match v with
  | .str s =>
    match Number.readFloat? s.toList with
    | some x => .ok x
    | none => .error (.malformed s)
  | _ =>
    match v.number? with
    | none => .error .notANumber
    | some x =>
      match x.toFloat? with
      | some x => .ok x
      | none => .error .tooLarge

end EditHistory
