import EditHistory.Number.Binary
import EditHistory.Number.Limit
import EditHistory.Text.Blank
import EditHistory.Text.Digit

/-!
# Numbers read from text

* `ofDecimal` — the double nearest to `n · 10 ^ e`
* `readFloat?` — a number as a person writes it: blanks around it are dropped, digits may be of any script and
  may be grouped by single underscores, and infinities and not-a-number have names
* `readInt?` — an integer under the same conventions
-/

namespace EditHistory.Number

open EditHistory.Text

/-- The number of decimal digits of a natural number, up to a bound. -/
def decimalLength : Nat → Nat → Nat
  | 0, _ => 0
  | fuel + 1, n => if n = 0 then 0 else decimalLength fuel (n / 10) + 1

/-- The double nearest to `n · 10 ^ e`, ties to even.  Beyond the range of doubles the powers of ten are not
computed: the magnitude lies between `10 ^ (l + e - 1)` and `10 ^ (l + e)` for an `n` of `l` digits. -/
def ofDecimal (n : Nat) (e : Int) : Float :=
  if n = 0 then 0.0
  else
    let top := (decimalLength (n.log2 / 3 + 1) n : Int) + e
    if 400 < top then 1.0 / 0.0
    else if top < -400 then 0.0
    else if 0 ≤ e then Float.ofScientific n false e.toNat
    else Float.ofScientific n true (-e).toNat

/-- The longest run of ASCII digits at the front, as values, and the rest. -/
def takeDigits : List Char → List Nat × List Char
  | [] => ([], [])
  | c :: cs =>
    match asciiDigit? c with
    | some d =>
      let (ds, rest) := takeDigits cs
      (d :: ds, rest)
    | none => ([], c :: cs)

/-- A sign at the front: whether it is a minus, and the rest. -/
def takeSign : List Char → Bool × List Char
  | '-' :: cs => (true, cs)
  | '+' :: cs => (false, cs)
  | cs => (false, cs)

/-- The exponent part at the front: zero if there is none, nothing if the mark has no digits after it. -/
def takeExponent? : List Char → Option (Int × List Char)
  | [] => some (0, [])
  | c :: cs =>
    if c = 'e' ∨ c = 'E' then
      let (negative, cs) := takeSign cs
      match takeDigits cs with
      | ([], _) => none
      | (ds, rest) => some (signed negative (ofDigits ds), rest)
    else some (0, c :: cs)

/-- The unsigned decimal number that makes up the whole text. -/
def readMagnitude? (cs : List Char) : Option Float :=
  let (whole, rest) := takeDigits cs
  let (frac, rest) := match rest with
    | '.' :: after => takeDigits after
    | _ => ([], rest)
  if whole = [] ∧ frac = [] then none
  else match takeExponent? rest with
    | some (e, []) => some (ofDecimal (ofDigits (whole ++ frac)) (e - frac.length))
    | _ => none

/-- The text with every digit and blank in ASCII; nothing if another character is not ASCII.  A blank of ASCII stays
as it is, so that of these only the spaces are dropped around a number. -/
def toAscii? (cs : List Char) : Option (List Char) :=
  cs.mapM fun c =>
    if c.toNat < 0x80 then some c
    else if isBlank c then some ' '
    else (digitValue? c).map fun d => Char.ofNat (0x30 + d)

/-- The text without its underscores, each of which must stand between two digits; `afterDigit` says whether the
character before the text is a digit. -/
def dropUnderscores? (afterDigit : Bool) : List Char → Option (List Char)
  | [] => some []
  | '_' :: cs =>
    match cs with
    | c :: _ =>
      if afterDigit && (asciiDigit? c).isSome then dropUnderscores? false cs else none
    | [] => none
  | c :: cs => (dropUnderscores? (asciiDigit? c).isSome cs).map (c :: ·)

/-- The double a text writes, if it writes one. -/
def readFloat? (cs : List Char) : Option Float := do
  let cs ← toAscii? cs
  let cs ← dropUnderscores? false (trimAsciiSpace cs)
  let (negative, body) := takeSign cs
  let name := String.ofList (body.map Char.toLower)
  let x ←
    if name = "inf" ∨ name = "infinity" then some (1.0 / 0.0)
    else if name = "nan" then some (0.0 / 0.0)
    else readMagnitude? body
  return if negative then -x else x

/-- Why a text writes no integer. -/
inductive IntFault where
  /-- The text is not an integer. -/
  | malformed
  /-- The text has more digits than are converted. -/
  | tooLong (digits : Nat)

/-- The integer a text writes. -/
def readInt (cs : List Char) : Except IntFault Int :=
  match (toAscii? cs).bind fun cs =>
      let (negative, body) := takeSign (trimAsciiSpace cs)
      (dropUnderscores? false body).map fun ds => (negative, takeDigits ds) with
  | some (negative, d :: ds, []) =>
    if digitLimit < (d :: ds).length then .error (.tooLong (d :: ds).length)
    else .ok (signed negative (ofDigits (d :: ds)))
  | _ => .error .malformed

end EditHistory.Number
