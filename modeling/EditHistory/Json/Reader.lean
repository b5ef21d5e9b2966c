import EditHistory.Number.Reading
import EditHistory.Value

/-!
# Reading JSON

The reader takes a whole text.  Beyond the standard it accepts the names `NaN`, `Infinity` and `-Infinity`; a
repeated key keeps its first place and its last value; an integer may have at most `Number.digitLimit` digits.

Each function of the reader consumes a list of characters from the front and either returns what is left or says
what is wrong and how many characters were left there, so no function has to count positions; `parse` turns the
count into an offset, a line and a column.  The nesting of values is bounded by the length of the text, which is the
fuel.

## Main definitions

* `Fault`, `Error` — what is wrong, and where
* `string` — the characters up to the closing quote
* `number?` — the number at the front
* `value` — the value at the front
* `parseUnmarked`, `parse` — the value that makes up a text
-/

namespace EditHistory.Json

open EditHistory.Text

/-- What is wrong with a text. -/
inductive Fault where
  | expectingValue
  | extraData
  | expectingKey
  | expectingColon
  | expectingComma
  | unterminatedString
  | controlCharacter
  | badEscape
  | badUnicodeEscape
  | byteOrderMark
  | integerTooLong (digits : Nat)
  deriving DecidableEq, Repr

/-- A fault, and the number of characters left from where it lies to the end of the text. -/
structure Stop where
  fault : Fault
  left : Nat
  deriving DecidableEq, Repr

/-- A fault at the front of the given rest. -/
def stopAt {α : Type} (fault : Fault) (rest : List Char) : Except Stop α :=
  .error ⟨fault, rest.length⟩

/-- The blanks that may stand between tokens. -/
def isSpace (c : Char) : Bool :=
  c = ' ' || c = '\t' || c = '\n' || c = '\r'

/-- The text without its leading blanks. -/
def skipSpace (cs : List Char) : List Char :=
  cs.dropWhile isSpace

/-- Four hexadecimal digits. -/
def hex4? : List Char → Option (Nat × List Char)
  | a :: b :: c :: d :: rest => do
    let a ← hexDigit? a
    let b ← hexDigit? b
    let c ← hexDigit? c
    let d ← hexDigit? d
    return (((a * 16 + b) * 16 + c) * 16 + d, rest)
  | _ => none

/-- The character that a backslash and a letter stand for. -/
def simpleEscape? (c : Char) : Option Char :=
  match c with
  | '"' => some '"'
  | '\\' => some '\\'
  | '/' => some '/'
  | 'b' => some '\x08'
  | 'f' => some '\x0c'
  | 'n' => some '\n'
  | 'r' => some '\r'
  | 't' => some '\t'
  | _ => none

/-- The character of a code point; a lone surrogate is no character and becomes U+FFFD. -/
def scalar (n : Nat) : Char :=
  if 0xd800 ≤ n ∧ n < 0xe000 then '\uFFFD' else Char.ofNat n

/-- The character of a pair of surrogates. -/
def pair (high low : Nat) : Char :=
  Char.ofNat (0x10000 + (high - 0xd800) * 0x400 + (low - 0xdc00))

/-- What follows `\u`: one escaped character and the rest.  The four digits must not be the end of the text.  A
high surrogate takes a directly following escape with it if that is a low surrogate. -/
def unicodeEscape? (cs : List Char) : Except Stop (Char × List Char) :=
  match hex4? cs with
  | none => .error ⟨.badUnicodeEscape, cs.length + 1⟩
  | some (n, rest) =>
    if rest = [] then .error ⟨.badUnicodeEscape, cs.length + 1⟩
    else if 0xd800 ≤ n ∧ n < 0xdc00 then
      match rest with
      | '\\' :: 'u' :: more =>
        if more.length < 5 then .ok (scalar n, rest)
        else match hex4? more with
        | none => .error ⟨.badUnicodeEscape, more.length + 1⟩
        | some (m, rest') =>
          if 0xdc00 ≤ m ∧ m < 0xe000 then .ok (pair n m, rest') else .ok (scalar n, rest)
      | _ => .ok (scalar n, rest)
    else .ok (scalar n, rest)

/-- The characters up to the closing quote, and what follows it.  `start` is the number of characters left at the
opening quote. -/
def string (start : Nat) : Nat → List Char → Except Stop (List Char × List Char)
  | 0, _ => .error ⟨.unterminatedString, start⟩
  | _ + 1, [] => .error ⟨.unterminatedString, start⟩
  | fuel + 1, c :: cs =>
    if c = '"' then .ok ([], cs)
    else if c = '\\' then
      match cs with
      | [] => .error ⟨.unterminatedString, start⟩
      | 'u' :: rest => do
        let (d, rest) ← unicodeEscape? rest
        let (ds, rest) ← string start fuel rest
        return (d :: ds, rest)
      | e :: rest =>
        match simpleEscape? e with
        | none => stopAt .badEscape (c :: cs)
        | some d => do
          let (ds, rest) ← string start fuel rest
          return (d :: ds, rest)
    else if c.toNat < 0x20 then stopAt .controlCharacter (c :: cs)
    else do
      let (ds, rest) ← string start fuel cs
      return (c :: ds, rest)

/-- The integer part of a number: a zero, or digits that do not start with one. -/
def wholeDigits? : List Char → Option (List Nat × List Char)
  | '0' :: cs => some ([0], cs)
  | cs =>
    match Number.takeDigits cs with
    | ([], _) => none
    | (ds, rest) => some (ds, rest)

/-- The fraction of a number, if a point and a digit are there. -/
def fraction : List Char → List Nat × List Char
  | '.' :: cs =>
    match Number.takeDigits cs with
    | ([], _) => ([], '.' :: cs)
    | (ds, rest) => (ds, rest)
  | cs => ([], cs)

/-- The exponent of a number, if an exponent mark and a digit are there. -/
def exponent? (cs : List Char) : Option (Int × List Char) :=
  match cs with
  | c :: after =>
    if c = 'e' ∨ c = 'E' then
      let (negative, body) := Number.takeSign after
      match Number.takeDigits body with
      | ([], _) => none
      | (ds, rest) => some (Number.signed negative (ofDigits ds), rest)
    else none
  | [] => none

/-- The number at the front: an integer unless it has a fraction or an exponent. -/
def number? (cs : List Char) : Option (Except Fault Value × List Char) :=
  let (negative, body) := match cs with
    | '-' :: body => (true, body)
    | _ => (false, cs)
  (wholeDigits? body).map fun (whole, rest) =>
    let (frac, rest) := fraction rest
    match exponent? rest with
    | some (e, rest) => (.ok (.float (floatOf negative whole frac e)), rest)
    | none =>
      if frac = [] then
        if Number.digitLimit < whole.length then (.error (.integerTooLong whole.length), rest)
        else (.ok (.int (Number.signed negative (ofDigits whole))), rest)
      else (.ok (.float (floatOf negative whole frac 0)), rest)
where
  /-- The double that a sign, digits and an exponent write. -/
  floatOf (negative : Bool) (whole frac : List Nat) (e : Int) : Float :=
    let x := Number.ofDecimal (ofDigits (whole ++ frac)) (e - frac.length)
    if negative then -x else x

/-- The literals, and the values they stand for. -/
def literals : List (List Char × Value) := [
  ("null".toList, .null), ("true".toList, .bool true), ("false".toList, .bool false),
  ("NaN".toList, .float (0.0 / 0.0)), ("Infinity".toList, .float (1.0 / 0.0)),
  ("-Infinity".toList, .float (-1.0 / 0.0))]

/-- The value at the front that is neither a text, a list nor an object. -/
def atom (cs : List Char) : Except Stop (Value × List Char) :=
  match literals.findSome? fun (name, v) => (dropMark? name cs).map fun rest => (v, rest) with
  | some r => .ok r
  | none =>
    match number? cs with
    | some (.ok v, rest) => .ok (v, rest)
    | some (.error fault, _) => stopAt fault cs
    | none => stopAt .expectingValue cs

mutual

/-- The value at the front. -/
def value : Nat → List Char → Except Stop (Value × List Char)
  | 0, cs => stopAt .expectingValue cs
  | fuel + 1, cs =>
    match cs with
    | '"' :: rest => do
      let (s, rest) ← string cs.length (rest.length + 1) rest
      return (.str (String.ofList s), rest)
    | '[' :: rest =>
      match skipSpace rest with
      | ']' :: rest => .ok (.list [], rest)
      | rest => do
        let (items, rest) ← items fuel rest
        return (.list items, rest)
    | '{' :: rest =>
      match skipSpace rest with
      | '}' :: rest => .ok (.object [], rest)
      | rest => do
        let (fields, rest) ← fields fuel [] rest
        return (.object fields, rest)
    | cs => atom cs

/-- The items of a list, at least one, and what follows the closing bracket. -/
def items : Nat → List Char → Except Stop (List Value × List Char)
  | 0, cs => stopAt .expectingValue cs
  | fuel + 1, cs => do
    let (v, rest) ← value fuel cs
    match skipSpace rest with
    | ']' :: rest => return ([v], rest)
    | ',' :: rest =>
      let (vs, rest) ← items fuel (skipSpace rest)
      return (v :: vs, rest)
    | rest => stopAt .expectingComma rest

/-- The fields of an object, at least one more than those already read, and what follows the closing brace. -/
def fields : Nat → List (String × Value) → List Char → Except Stop (List (String × Value) × List Char)
  | 0, _, cs => stopAt .expectingKey cs
  | fuel + 1, done, cs =>
    match cs with
    | '"' :: rest => do
      let (key, rest) ← string cs.length (rest.length + 1) rest
      match skipSpace rest with
      | ':' :: rest =>
        let (v, rest) ← value fuel (skipSpace rest)
        let done := Value.put done (String.ofList key) v
        match skipSpace rest with
        | '}' :: rest => return (done, rest)
        | ',' :: rest => fields fuel done (skipSpace rest)
        | rest => stopAt .expectingComma rest
      | rest => stopAt .expectingColon rest
    | cs => stopAt .expectingKey cs

end

/-- A fault, and the offset, line and column where it lies.  Lines and columns count from one. -/
structure Error where
  fault : Fault
  offset : Nat
  line : Nat
  column : Nat
  deriving DecidableEq, Repr

/-- The place `offset` characters into a text. -/
def Error.locate (fault : Fault) (cs : List Char) (offset : Nat) : Error :=
  let before := cs.take offset
  { fault, offset
    line := before.count '\n' + 1
    column := (before.reverse.takeWhile (· != '\n')).length + 1 }

/-- The value that makes up a text, with blanks around it. -/
def parseUnmarked (cs : List Char) : Except Error Value :=
  let found : Except Stop Value := do
    let (v, rest) ← value (2 * cs.length + 2) (skipSpace cs)
    match skipSpace rest with
    | [] => return v
    | rest => stopAt .extraData rest
  match found with
  | .ok v => .ok v
  | .error stop => .error (.locate stop.fault cs (cs.length - stop.left))

/-- The value that makes up a text, with blanks around it; a mark of the byte order has no place in a text. -/
def parse (cs : List Char) : Except Error Value :=
  if cs.head? = some '\uFEFF' then .error (.locate .byteOrderMark cs 0) else parseUnmarked cs

/-- The wording of a fault. -/
def Fault.message : Fault → String
  | .expectingValue => "Expecting value"
  | .extraData => "Extra data"
  | .expectingKey => "Expecting property name enclosed in double quotes"
  | .expectingColon => "Expecting ':' delimiter"
  | .expectingComma => "Expecting ',' delimiter"
  | .unterminatedString => "Unterminated string starting at"
  | .controlCharacter => "Invalid control character at"
  | .badEscape => "Invalid \\escape"
  | .badUnicodeEscape => "Invalid \\uXXXX escape"
  | .byteOrderMark => "Unexpected UTF-8 BOM (decode using utf-8-sig)"
  | .integerTooLong digits => Number.limitMessage (some digits)

/-- Whether a fault lies in the form of the text rather than in a number that is too long to convert. -/
def Fault.isSyntactic : Fault → Bool
  | .integerTooLong _ => false
  | _ => true

/-- The wording of an error.  A number that is too long is reported without a place. -/
def Error.message (e : Error) : String :=
  if e.fault.isSyntactic then
    e.fault.message ++ ": line " ++ showNat e.line ++ " column " ++ showNat e.column ++
      " (char " ++ showNat e.offset ++ ")"
  else e.fault.message

end EditHistory.Json
