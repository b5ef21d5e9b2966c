import EditHistory.Text.Digit

/-!
# Base 64

Bytes written by characters that stand for six bits each.  Characters that stand for no bits are passed over.  The
characters come in groups of four; a group that writes fewer than three bytes is filled up by equals signs, at which
the bytes end.

## Main definitions

* `Base64.decode?` — the bytes that a text writes
-/

namespace EditHistory.Text.Base64

/-- The six bits that a character stands for. -/
def bits? (c : Char) : Option Nat :=
  if 'A' ≤ c ∧ c ≤ 'Z' then some (c.toNat - 0x41)
  else if 'a' ≤ c ∧ c ≤ 'z' then some (c.toNat - 0x61 + 26)
  else if '0' ≤ c ∧ c ≤ '9' then some (c.toNat - 0x30 + 52)
  else if c = '+' then some 62
  else if c = '/' then some 63
  else none

/-- The bytes of whole groups of characters, and of a last one that writes one or two bytes. -/
def bytesOf : List Nat → List UInt8
  | a :: b :: c :: d :: rest =>
    UInt8.ofNat (a * 4 + b / 16) :: UInt8.ofNat (b % 16 * 16 + c / 4) :: UInt8.ofNat (c % 4 * 64 + d) :: bytesOf rest
  | [a, b, c] => [UInt8.ofNat (a * 4 + b / 16), UInt8.ofNat (b % 16 * 16 + c / 4)]
  | [a, b] => [UInt8.ofNat (a * 4 + b / 16)]
  | _ => []

/-- The bits that characters stand for, up to the equals signs that fill up a group; `signs` counts the equals signs
just before the text, and `place` the characters of the group before them.  Nothing if a group is left open. -/
def groups? (place signs : Nat) : List Char → Option (List Nat)
  | [] => if place = 0 then some [] else none
  | c :: cs =>
    if c = '=' then
      if 2 ≤ place ∧ 4 ≤ place + signs + 1 then some []
      else groups? place (if 2 ≤ place then signs + 1 else signs) cs
    else match bits? c with
      | some b => (groups? ((place + 1) % 4) 0 cs).map (b :: ·)
      | none => groups? place signs cs

/-- The bytes that a text writes; nothing if it is not ASCII or leaves a group open. -/
def decode? (cs : List Char) : Option (List UInt8) :=
  if cs.all fun c => c.toNat < 0x80 then (groups? 0 0 cs).map bytesOf else none

end EditHistory.Text.Base64
