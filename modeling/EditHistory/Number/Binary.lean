/-!
# The parts of a double

A double is not a number, an infinity, or a sign with a magnitude `m · 2 ^ q`.  Everything this library does with
a double beyond arithmetic and comparison goes through these parts and exact integer arithmetic.

## Main definitions

* `Parts`, `parts` — the decoded double
* `integral?` — the integer a double stands for, if it stands for one
* `ofInt?` — the nearest double to an integer, if it is in range
-/

namespace EditHistory.Number

/-- A decoded double: for a finite one, the magnitude is `mantissa · 2 ^ exponent`. -/
inductive Parts where
  | nan
  | infinite (negative : Bool)
  | finite (negative : Bool) (mantissa : Nat) (exponent : Int)
  deriving DecidableEq, Repr

/-- The parts of a double, read off its bits: one for the sign, eleven for the exponent, fifty-two for the
fraction.  The least exponent field marks the subnormal doubles, which have no hidden bit. -/
def parts (x : Float) : Parts :=
  let bits := x.toBits.toNat
  let negative := bits / Nat.pow 2 63 == 1
  let field : Nat := bits / Nat.pow 2 52 % Nat.pow 2 11
  let fraction : Nat := bits % Nat.pow 2 52
  if field = Nat.pow 2 11 - 1 then
    if fraction = 0 then .infinite negative else .nan
  else if field = 0 then .finite negative fraction (-1074)
  else .finite negative (fraction + Nat.pow 2 52) ((field : Int) - 1075)

/-- A sign put on a natural number. -/
def signed (negative : Bool) (n : Nat) : Int :=
  if negative then -(n : Int) else n

/-- The integer a double stands for; nothing if it has a fractional part or is not finite. -/
def integral? (x : Float) : Option Int :=
  match parts x with
  | .finite negative m q =>
    if 0 ≤ q then some (signed negative (m * Nat.pow 2 q.toNat))
    else if m % Nat.pow 2 (-q).toNat = 0 then some (signed negative (m / Nat.pow 2 (-q).toNat))
    else none
  | _ => none

/-- The integer part of a double, toward zero; nothing if it is not finite. -/
def truncated? (x : Float) : Option Int :=
  match parts x with
  | .finite negative m q =>
    if 0 ≤ q then some (signed negative (m * Nat.pow 2 q.toNat))
    else some (signed negative (m / Nat.pow 2 (-q).toNat))
  | _ => none

/-- The nearest double to an integer, ties to even; nothing if it is beyond the largest double. -/
def ofInt? (n : Int) : Option Float :=
  let x := Float.ofNat n.natAbs
  if x.isInf then none
  else some (if n < 0 then -x else x)

/-- Compares the magnitude `m · 2 ^ q` with a natural number. -/
def compareMagnitude (m : Nat) (q : Int) (n : Nat) : Ordering :=
  if 0 ≤ q then compare (m * Nat.pow 2 q.toNat) n
  else compare m (n * Nat.pow 2 (-q).toNat)

/-- Compares a double with an integer exactly, without rounding the integer; nothing for a double that is not a
number. -/
def compareInt? (x : Float) (n : Int) : Option Ordering :=
  match parts x with
  | .nan => none
  | .infinite negative => some (if negative then .lt else .gt)
  | .finite negative m q =>
    some <|
      if negative && m ≠ 0 then
        if 0 ≤ n then .lt else (compareMagnitude m q n.natAbs).swap
      else if n < 0 then .gt
      else compareMagnitude m q n.natAbs

end EditHistory.Number
