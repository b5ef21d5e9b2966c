import EditHistory.Text.Digit
import EditHistory.Value

/-!
# Text in wide units

Text as bytes in which every character takes one or two units of two bytes, or one unit of four bytes.  The bytes of a
unit stand in either order.  Half of a surrogate pair that stands alone is read as U+FFFD; bytes that are left over, or
that write a number beyond the characters, cannot be read.

## Main definitions

* `WideEncoding` — a unit and the order of its bytes
* `Undecodable` — why bytes cannot be read
* `WideEncoding.decode` — bytes read
-/

namespace EditHistory.Text

/-- The order of the bytes of a unit. -/
inductive ByteOrder where
  | big
  | little
  deriving DecidableEq, Repr

/-- The number that bytes write. -/
def ByteOrder.number (order : ByteOrder) (bytes : List UInt8) : Nat :=
  match order with
  | .big => bytes.foldl (fun n b => n * 0x100 + b.toNat) 0
  | .little => bytes.foldr (fun b n => n * 0x100 + b.toNat) 0

/-- The two encodings in wide units, each with an order of bytes. -/
inductive WideEncoding where
  | utf16 (order : ByteOrder)
  | utf32 (order : ByteOrder)
  deriving DecidableEq, Repr

/-- The name of an encoding. -/
def WideEncoding.name : WideEncoding → String
  | .utf16 .big => "utf-16-be"
  | .utf16 .little => "utf-16-le"
  | .utf32 .big => "utf-32-be"
  | .utf32 .little => "utf-32-le"

/-- What is wrong with bytes in wide units. -/
inductive WideFault where
  /-- Fewer bytes are left than a unit has. -/
  | truncated
  /-- A unit writes a number beyond the characters. -/
  | outOfRange
  deriving DecidableEq, Repr

/-- The wording of a fault. -/
def WideFault.message : WideFault → String
  | .truncated => "truncated data"
  | .outOfRange => "code point not in range(0x110000)"

/-- Bytes that cannot be read: the offset of the first of them, their number, and the first of them. -/
structure Undecodable where
  encoding : WideEncoding
  fault : WideFault
  offset : Nat
  length : Nat
  first : UInt8
  deriving DecidableEq, Repr

/-- The wording of the error. -/
def Undecodable.message (e : Undecodable) : String :=
  let bytes :=
    if e.length = 1 then
      "byte 0x" ++ String.ofList (hexDigits 2 e.first.toNat) ++ " in position " ++ showNat e.offset
    else "bytes in position " ++ showNat e.offset ++ "-" ++ showNat (e.offset + e.length - 1)
  "'" ++ e.encoding.name ++ "' codec can't decode " ++ bytes ++ ": " ++ e.fault.message

/-- Whether a number is the first half of a surrogate pair. -/
def isHighSurrogate (n : Nat) : Bool := 0xd800 ≤ n && n < 0xdc00

/-- Whether a number is the second half of a surrogate pair. -/
def isLowSurrogate (n : Nat) : Bool := 0xdc00 ≤ n && n < 0xe000

/-- The character of a unit; half of a surrogate pair is read as U+FFFD. -/
def unitChar (n : Nat) : Char :=
  if isHighSurrogate n || isLowSurrogate n then '\uFFFD' else Char.ofNat n

/-- The character of a surrogate pair. -/
def pairChar (high low : Nat) : Char :=
  Char.ofNat (0x10000 + (high - 0xd800) * 0x400 + (low - 0xdc00))

/-- The characters of units of two bytes. -/
def joinPairs : List Nat → List Char
  | [] => []
  | [n] => [unitChar n]
  | n :: m :: rest =>
    if isHighSurrogate n && isLowSurrogate m then pairChar n m :: joinPairs rest
    else unitChar n :: joinPairs (m :: rest)

/-- The units of two bytes, the first of which lies at an offset. -/
def units16 (order : ByteOrder) (offset : Nat) : List UInt8 → Except Undecodable (List Nat)
  | [] => .ok []
  | [b] => .error ⟨.utf16 order, .truncated, offset, 1, b⟩
  | a :: b :: rest => (units16 order (offset + 2) rest).map (order.number [a, b] :: ·)

/-- The characters of units of four bytes, the first of which lies at an offset. -/
def units32 (order : ByteOrder) (offset : Nat) : List UInt8 → Except Undecodable (List Char)
  | [] => .ok []
  | a :: b :: c :: d :: rest =>
    let n := order.number [a, b, c, d]
    if 0x110000 ≤ n then .error ⟨.utf32 order, .outOfRange, offset, 4, a⟩
    else (units32 order (offset + 4) rest).map (unitChar n :: ·)
  | a :: rest => .error ⟨.utf32 order, .truncated, offset, rest.length + 1, a⟩

/-- The text of bytes. -/
def WideEncoding.decode (encoding : WideEncoding) (bytes : List UInt8) : Except Undecodable (List Char) :=
  match encoding with
  | .utf16 order => (units16 order 0 bytes).map joinPairs
  | .utf32 order => units32 order 0 bytes

end EditHistory.Text
