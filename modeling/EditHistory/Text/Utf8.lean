/-!
# UTF-8

Text as bytes.  `decodeStep` reads one character from the front of a byte list, or says how long the invalid
part there is: the longest prefix that some character starts with, and at least one byte.  The strict decoder
refuses any invalid part, the lenient one writes U+FFFD for each.

## Main definitions

* `utf8Char`, `utf8` — encoding
* `decodeStep` — one character, or the length of the invalid part
* `decodeUtf8?` — strict decoding
* `decodeUtf8Lossy` — decoding with replacement
-/

namespace EditHistory.Text

/-- The bytes of one character. -/
def utf8Char (c : Char) : List UInt8 :=
  let n := c.toNat
  if n < 0x80 then [n.toUInt8]
  else if n < 0x800 then [(0xc0 + n / 0x40).toUInt8, (0x80 + n % 0x40).toUInt8]
  else if n < 0x10000 then
    [(0xe0 + n / 0x1000).toUInt8, (0x80 + n / 0x40 % 0x40).toUInt8, (0x80 + n % 0x40).toUInt8]
  else
    [(0xf0 + n / 0x40000).toUInt8, (0x80 + n / 0x1000 % 0x40).toUInt8, (0x80 + n / 0x40 % 0x40).toUInt8,
      (0x80 + n % 0x40).toUInt8]

/-- The bytes of a text. -/
def utf8 (cs : List Char) : List UInt8 :=
  cs.flatMap utf8Char

/-- Whether a byte continues a character. -/
def isContinuation (b : UInt8) : Bool :=
  0x80 ≤ b && b ≤ 0xbf

/-- Whether `b` may be the second byte after the lead byte `lead`: neither an overlong form, nor a surrogate,
nor beyond U+10FFFF. -/
def isSecond (lead b : UInt8) : Bool :=
  if lead = 0xe0 then 0xa0 ≤ b && b ≤ 0xbf
  else if lead = 0xed then 0x80 ≤ b && b ≤ 0x9f
  else if lead = 0xf0 then 0x90 ≤ b && b ≤ 0xbf
  else if lead = 0xf4 then 0x80 ≤ b && b ≤ 0x8f
  else isContinuation b

/-- What stands at the front of a byte list. -/
inductive Utf8Step where
  /-- A character and the bytes after it. -/
  | char (c : Char) (rest : List UInt8)
  /-- An invalid part and the bytes after it. -/
  | invalid (rest : List UInt8)

/-- The value of a lead byte and its continuation bytes. -/
def assemble (lead : Nat) (bs : List UInt8) : Char :=
  Char.ofNat (bs.foldl (fun n b => n * 0x40 + (b.toNat - 0x80)) lead)

/-- Reads one character, or one invalid part, from a first byte and the bytes that follow it. -/
def decodeStep (b : UInt8) (bs : List UInt8) : Utf8Step :=
  if b < 0x80 then .char (Char.ofNat b.toNat) bs
  else if 0xc2 ≤ b && b ≤ 0xdf then
    match bs with
    | b1 :: r1 => if isContinuation b1 then .char (assemble (b.toNat - 0xc0) [b1]) r1 else .invalid bs
    | [] => .invalid []
  else if 0xe0 ≤ b && b ≤ 0xef then
    match bs with
    | b1 :: r1 =>
      if isSecond b b1 then
        match r1 with
        | b2 :: r2 => if isContinuation b2 then .char (assemble (b.toNat - 0xe0) [b1, b2]) r2 else .invalid r1
        | [] => .invalid []
      else .invalid bs
    | [] => .invalid []
  else if 0xf0 ≤ b && b ≤ 0xf4 then
    match bs with
    | b1 :: r1 =>
      if isSecond b b1 then
        match r1 with
        | b2 :: r2 =>
          if isContinuation b2 then
            match r2 with
            | b3 :: r3 =>
              if isContinuation b3 then .char (assemble (b.toNat - 0xf0) [b1, b2, b3]) r3 else .invalid r2
            | [] => .invalid []
          else .invalid r1
        | [] => .invalid []
      else .invalid bs
    | [] => .invalid []
  else .invalid bs

/-- Strict decoding with a bound on the number of characters. -/
def decodeUtf8Within : Nat → List UInt8 → Option (List Char)
  | _, [] => some []
  | 0, _ :: _ => none
  | fuel + 1, b :: bs =>
    match decodeStep b bs with
    | .char c rest => (decodeUtf8Within fuel rest).map (c :: ·)
    | .invalid _ => none

/-- The text of a byte list, if all of it is valid. -/
def decodeUtf8? (bs : List UInt8) : Option (List Char) :=
  decodeUtf8Within bs.length bs

/-- Decoding with replacement and a bound on the number of characters. -/
def decodeUtf8LossyWithin : Nat → List UInt8 → List Char
  | _, [] => []
  | 0, _ :: _ => []
  | fuel + 1, b :: bs =>
    match decodeStep b bs with
    | .char c rest => c :: decodeUtf8LossyWithin fuel rest
    | .invalid rest => '\uFFFD' :: decodeUtf8LossyWithin fuel rest

/-- The text of a byte list, with U+FFFD for each invalid part. -/
def decodeUtf8Lossy (bs : List UInt8) : List Char :=
  decodeUtf8LossyWithin bs.length bs

end EditHistory.Text
