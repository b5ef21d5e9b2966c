import EditHistory.Text.Digit
import EditHistory.Text.Lines
import EditHistory.Text.Utf8

/-!
# Form encoding

Names and values written as `name=value` pieces between ampersands.  ASCII letters, digits and `_.-~` stand for
themselves, a plus sign for a space, and every other character is written by its bytes, each as a percent sign and
two digits.

Reading is lenient: a percent sign that is not followed by two digits stands for itself, and bytes that are not
text become replacement characters.

## Main definitions

* `Form.encode`, `Form.render` — a text and a list of pairs written
* `Form.decode`, `Form.read` — the same read
-/

namespace EditHistory.Web.Form

open EditHistory.Text

/-- Whether a character stands for itself. -/
def isPlain (c : Char) : Bool :=
  c.isAlphanum || c == '_' || c == '.' || c == '-' || c == '~'

/-- A byte as a percent sign and two digits. -/
def escapeByte (b : UInt8) : List Char :=
  ['%', upperHexChar (b.toNat / 16), upperHexChar (b.toNat % 16)]

/-- One character written. -/
def encodeChar (c : Char) : List Char :=
  if isPlain c then [c]
  else if c = ' ' then ['+']
  else (utf8Char c).flatMap escapeByte

/-- A text written. -/
def encode (cs : List Char) : List Char :=
  cs.flatMap encodeChar

/-- A pair written. -/
def encodePair (p : List Char × List Char) : List Char :=
  encode p.1 ++ '=' :: encode p.2

/-- Pairs written between ampersands. -/
def render : List (List Char × List Char) → List Char
  | [] => []
  | [p] => encodePair p
  | p :: q :: rest => encodePair p ++ '&' :: render (q :: rest)

/-- The bytes that a run of ASCII characters writes. -/
def unescape : List Char → List UInt8
  | [] => []
  | '%' :: a :: b :: rest =>
    match hexDigit? a, hexDigit? b with
    | some x, some y => UInt8.ofNat (16 * x + y) :: unescape rest
    | _, _ => UInt8.ofNat '%'.toNat :: unescape (a :: b :: rest)
  | c :: rest => UInt8.ofNat c.toNat :: unescape rest

/-- The text that characters write, their percent signs read; `run` holds the ASCII characters just before them, the
last one first.  A character beyond ASCII stands for itself and ends the run of bytes. -/
def decodeRuns (run : List Char) : List Char → List Char
  | [] => decodeUtf8Lossy (unescape run.reverse)
  | c :: cs =>
    if c.toNat < 0x80 then decodeRuns (c :: run) cs
    else decodeUtf8Lossy (unescape run.reverse) ++ c :: decodeRuns [] cs

/-- The text that characters write. -/
def decode (cs : List Char) : List Char :=
  decodeRuns [] (cs.map fun c => if c = '+' then ' ' else c)

/-- The pair that a piece writes, unless it has no value. -/
def readPair? (piece : List Char) : Option (List Char × List Char) :=
  match cutAt '=' piece with
  | (name, some (c :: cs)) => some (decode name, decode (c :: cs))
  | _ => none

/-- The pairs that a text writes; pieces without a value are passed over. -/
def read (cs : List Char) : List (List Char × List Char) :=
  (splitOn '&' cs).filterMap readPair?

end EditHistory.Web.Form
