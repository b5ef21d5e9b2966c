import EditHistory.Number.Reading
import EditHistory.Text.Base64
import EditHistory.Text.Lines
import EditHistory.Yaml.Moment

/-!
# Plain scalars

What a scalar without quotes stands for depends on its form.  It may be a switch, a number, nothing, a date or a time;
what has none of these forms is a text.  Integers may be written to the bases 2, 8, 10 and 16, and numbers also in
groups to the base 60, as minutes and hours are.  Underscores between digits do not count.

A text may also be read in a form that it does not have, because its type is given; then the reading may fail.

## Main definitions

* `Kind`, `Kind.of` — the forms, and the form of a text
* `Kind.read` — what a text of a form stands for
-/

namespace EditHistory.Yaml

open EditHistory.Text EditHistory.Number

/-- The forms of plain scalars. -/
inductive Kind where
  | switch
  | float
  | int
  /-- The key whose value is merged into the mapping around it. -/
  | merge
  | null
  | moment
  /-- The key of a value that stands for the whole mapping. -/
  | value
  | text
  /-- Bytes in base 64; no text has this form by itself. -/
  | bytes
  deriving DecidableEq, Repr

/-- Why what a scalar is meant to stand for does not exist. -/
inductive PlainFault where
  | moment (fault : Moment.Fault)
  /-- An integer of more decimal digits than are read. -/
  | tooLong (digits : Nat)
  /-- A text that is no integer to a base. -/
  | notInteger (base : Nat) (text : List Char)
  /-- A text that is no number. -/
  | notNumber (text : List Char)
  /-- A text that is no switch. -/
  | notSwitch (text : List Char)
  /-- A text that is no date or time. -/
  | notMoment
  /-- A mapping in the place of a date or time. -/
  | momentInMapping
  /-- A number without digits. -/
  | blank
  /-- A text that writes no bytes. -/
  | notBytes
  /-- A group of a number to the base 60 that stands for more than the largest double. -/
  | outOfRange

/-- The wording of a fault. -/
def PlainFault.message : PlainFault → String
  | .moment fault => fault.message
  | .tooLong digits => limitMessage (some digits)
  | .notInteger base text =>
    "invalid literal for int() with base " ++ String.ofList (natText base ++ ':' :: ' ' :: quoted text)
  | .notNumber text => "could not convert string to float: " ++ String.ofList (quoted text)
  | .notSwitch text => String.ofList (quoted text)
  | .notMoment => "the text is no date or time"
  | .momentInMapping => "a mapping is no date or time"
  | .blank => "the number has no digits"
  | .notBytes => "the text writes no bytes"
  | .outOfRange => "int too large to convert to float"

namespace Kind

/-! ### Forms -/

/-- The switches by name. -/
def switches : List (String × Bool) :=
  [("yes", true), ("no", false), ("true", true), ("false", false), ("on", true), ("off", false)]

/-- A word in the three ways it may be written: in small letters, with a capital first, and in capitals. -/
def spellings (word : String) : List (List Char) :=
  let cs := word.toList
  [cs, cs.take 1 |>.map Char.toUpper |> (· ++ cs.drop 1), cs.map Char.toUpper]

/-- The switch that a word names. -/
def switch? (cs : List Char) : Option Bool :=
  (switches.find? fun s => (spellings s.1).contains cs).map Prod.snd

/-- Whether a word stands for nothing. -/
def isNull (cs : List Char) : Bool :=
  cs == [] || cs == ['~'] || (spellings "null").contains cs

/-- Whether a character is a decimal digit or an underscore. -/
def isGrouped (c : Char) : Bool := c.isDigit || c == '_'

/-- The text after its sign, if it has one. -/
def unsigned (cs : List Char) : List Char := (takeSign cs).2

/-- Whether the whole text is an exponent, which must have a sign; there may be none. -/
def isExponent : List Char → Bool
  | [] => true
  | mark :: sign :: ds =>
    (mark == 'e' || mark == 'E') && (sign == '+' || sign == '-') && ds != [] && ds.all Char.isDigit
  | _ => false

/-- Whether a text starts with a digit, and all of it is digits and underscores. -/
def isGroupedNumber : List Char → Bool
  | c :: cs => c.isDigit && cs.all isGrouped
  | [] => false

/-- Whether a text is a group after the first to the base 60. -/
def isSixtieth : List Char → Bool
  | [c] => c.isDigit
  | [c, d] => '0' ≤ c && c ≤ '5' && d.isDigit
  | _ => false

/-- Whether a text is at least two groups to the base 60; the first is as large as it likes. -/
def isSixties (cs : List Char) : Bool :=
  match splitOn ':' cs with
  | whole :: g :: gs => isGroupedNumber whole && (g :: gs).all isSixtieth
  | _ => false

/-- Whether a text has the form of a number with a point. -/
def isFloat (cs : List Char) : Bool :=
  let body := unsigned cs
  match cutAt '.' body with
  | (_, none) => false
  | ([], some frac) =>
    ["inf".toList, "Inf".toList, "INF".toList].contains frac ||
      body == cs && (["nan".toList, "NaN".toList, "NAN".toList].contains frac ||
        isGroupedNumber (frac.takeWhile isGrouped) && isExponent (frac.dropWhile isGrouped))
  | (whole, some frac) =>
    isGroupedNumber whole && isExponent (frac.dropWhile isGrouped) || isSixties whole && frac.all isGrouped

/-- Whether a text has the form of an integer. -/
def isInt (cs : List Char) : Bool :=
  match unsigned cs with
  | ['0'] => true
  | '0' :: 'b' :: ds => ds != [] && ds.all fun c => c == '0' || c == '1' || c == '_'
  | '0' :: 'x' :: ds => ds != [] && ds.all fun c => (hexDigit? c).isSome || c == '_'
  | '0' :: ds => ds.all fun c => '0' ≤ c && c ≤ '7' || c == '_'
  | body => isGroupedNumber body || isSixties body

/-- The form of a text. -/
def of (cs : List Char) : Kind :=
  if (switch? cs).isSome then .switch
  else if isFloat cs then .float
  else if isInt cs then .int
  else if cs = ['<', '<'] then .merge
  else if isNull cs then .null
  else if (Moment.read? false cs).isSome then .moment
  else if cs = ['='] then .value
  else .text

/-! ### Meanings -/

/-- The letter that may stand between a zero and the digits to a base. -/
def baseLetter (base : Nat) : Char :=
  if base = 2 then 'b' else if base = 8 then 'o' else 'x'

/-- The digits after a zero and the letter of their base, which may be left out. -/
def afterBase (base : Nat) (cs : List Char) : List Char :=
  match cs with
  | '0' :: c :: rest => if c.toLower = baseLetter base then rest else cs
  | _ => cs

/-- The number that digits write to a base of at most sixteen; nothing if one of them is no digit to that base. -/
def ofBase? (base : Nat) (cs : List Char) : Option Nat :=
  if cs.isEmpty then none
  else cs.foldlM (fun n c => (hexDigit? c).bind fun d => if d < base then some (base * n + d) else none) 0

/-- The integer that a text writes to the base 2, 8 or 16, with blanks and a sign before its digits. -/
def inBase (base : Nat) (cs : List Char) : Except PlainFault Int :=
  let found := (toAscii? cs).bind fun cs =>
    let (negative, body) := takeSign (trimAsciiSpace cs)
    (ofBase? base (afterBase base body)).map (signed negative)
  match found with
  | some n => .ok n
  | none => .error (.notInteger base cs)

/-- The integer that a text writes to the base 10. -/
def decimal (cs : List Char) : Except PlainFault Int :=
  match Number.readInt cs with
  | .ok n => .ok n
  | .error (.tooLong digits) => .error (.tooLong digits)
  | .error .malformed => .error (.notInteger 10 cs)

/-- The integer that a text writes after its sign. -/
def magnitude (cs : List Char) : Except PlainFault Int :=
  match cs with
  | [] => .error .blank
  | ['0'] => .ok 0
  | '0' :: 'b' :: ds => inBase 2 ds
  | '0' :: 'x' :: ds => inBase 16 ds
  | '0' :: _ => inBase 8 cs
  | _ => do
    let groups ← (splitOn ':' cs).mapM decimal
    return groups.foldl (fun n g => 60 * n + g) 0

/-- The sum of groups to the base 60, the last group first, the first of them counted in units of `unit`. -/
def sixties (unit : Int) (sum : Float) : List Float → Except PlainFault Float
  | [] => .ok sum
  | g :: gs =>
    match ofInt? unit with
    | some x => sixties (60 * unit) (sum + g * x) gs
    | none => .error .outOfRange

/-- The double that a text writes. -/
def double (cs : List Char) : Except PlainFault Float :=
  match Number.readFloat? cs with
  | some x => .ok x
  | none => .error (.notNumber cs)

/-- The double that a text writes after its sign. -/
def doubleMagnitude (cs : List Char) : Except PlainFault Float :=
  match cs with
  | ['.', 'i', 'n', 'f'] => .ok (1.0 / 0.0)
  | ['.', 'n', 'a', 'n'] => .ok (0.0 / 0.0)
  | cs =>
    if cs.contains ':' then do
      let groups ← (splitOn ':' cs).mapM double
      sixties 1 0.0 groups.reverse
    else double cs

/-- The text without its underscores. -/
def ungrouped (cs : List Char) : List Char := cs.filter (· != '_')

/-- The integer that a text is read as. -/
def readInt (cs : List Char) : Except PlainFault Int :=
  let (negative, body) := takeSign (ungrouped cs)
  (magnitude body).map fun n => if negative then -n else n

/-- The double that a text is read as. -/
def readFloat (cs : List Char) : Except PlainFault Float :=
  match (ungrouped cs).map Char.toLower with
  | [] => .error .blank
  | cs =>
    let (negative, body) := takeSign cs
    (doubleMagnitude body).map fun x => if negative then -x else x

/-- The switch that a text is read as. -/
def readSwitch (cs : List Char) : Except PlainFault Bool :=
  let cs := cs.map Char.toLower
  match switches.find? fun s => s.1.toList == cs with
  | some (_, b) => .ok b
  | none => .error (.notSwitch cs)

/-- The date or time that a text is read as. -/
def readMoment (cs : List Char) : Except PlainFault Data :=
  match Moment.read? true cs with
  | some (.ok d) => .ok d
  | some (.error fault) => .error (.moment fault)
  | none => .error .notMoment

/-- The bytes that a text is read as. -/
def readBytes (cs : List Char) : Except PlainFault Data :=
  match Base64.decode? cs with
  | some bs => .ok (.bytes bs)
  | none => .error .notBytes

/-- What a text stands for when it is read in a form; nothing for the two forms that are only keys. -/
def read (kind : Kind) (cs : List Char) : Except PlainFault (Option Data) :=
  match kind with
  | .switch => (readSwitch cs).map fun b => some (.bool b)
  | .float => (readFloat cs).map fun x => some (.float x)
  | .int => (readInt cs).map fun n => some (.int n)
  | .null => .ok (some .null)
  | .moment => (readMoment cs).map some
  | .text => .ok (some (.str cs))
  | .bytes => (readBytes cs).map some
  | .merge | .value => .ok none

end Kind

end EditHistory.Yaml
