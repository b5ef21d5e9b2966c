import EditHistory.Number.Binary
import Mathlib.Algebra.Order.Field.Basic
import Mathlib.Data.Rat.Cast.Order
import Mathlib.Tactic.FieldSimp

/-!
# The number that a double is

A finite double is a rational number.  Telling whether it is an integer takes only its parts and whole numbers: either
the exponent is not negative, or the mantissa is divisible by the power of two that it is divided by.

## Main definitions

* `Number.value?` — the rational number that a double is

## Main statements

* `Number.integral?_eq_some_iff` — the integer that a double stands for is the number that it is
-/

namespace EditHistory.Number

/-- The rational number that a double is; nothing for an infinity or what is not a number. -/
def value? (x : Float) : Option ℚ :=
  match parts x with
  | .finite negative m q => some (signed negative m * 2 ^ q)
  | _ => none

theorem signed_mul (negative : Bool) (m k : Nat) :
    signed negative (m * k) = signed negative m * k := by
  unfold signed
  split
  · rw [Int.natCast_mul, Int.neg_mul]
  · exact Int.natCast_mul m k

theorem natAbs_signed (negative : Bool) (m : Nat) : (signed negative m).natAbs = m := by
  unfold signed
  split <;> simp

/-- With an exponent that is not negative the number is an integer. -/
theorem signed_mul_zpow (negative : Bool) (m k : Nat) :
    (signed negative m * 2 ^ (k : Int) : ℚ) = (signed negative (m * 2 ^ k) : Int) := by
  rw [signed_mul, zpow_natCast]
  push_cast
  rfl

/-- With a negative exponent the number is an integer just if the mantissa is divisible. -/
theorem signed_mul_zpow_neg_iff (negative : Bool) (m k : Nat) (n : Int) :
    (signed negative m * 2 ^ (-(k : Int)) : ℚ) = n ↔
      m % 2 ^ k = 0 ∧ signed negative (m / 2 ^ k) = n := by
  -- Without the division this is an equation between integers.
  have whole : (signed negative m * 2 ^ (-(k : Int)) : ℚ) = n ↔
      signed negative m = n * ((2 ^ k : Nat) : Int) := by
    have power : (2 : ℚ) ^ k ≠ 0 := pow_ne_zero k two_ne_zero
    rw [zpow_neg, zpow_natCast, ← div_eq_mul_inv, div_eq_iff power]
    exact_mod_cast Iff.rfl
  rw [whole]
  constructor
  · intro same
    have divides : 2 ^ k ∣ m := by
      refine ⟨n.natAbs, ?_⟩
      rw [← natAbs_signed negative m, same, Int.natAbs_mul, Int.natAbs_natCast, Nat.mul_comm]
    refine ⟨Nat.mod_eq_zero_of_dvd divides, ?_⟩
    have power : ((2 ^ k : Nat) : Int) ≠ 0 := Int.natCast_ne_zero.mpr (Nat.two_pow_pos k).ne'
    refine Int.eq_of_mul_eq_mul_right power ?_
    rw [← signed_mul, Nat.div_mul_cancel divides, same]
  · rintro ⟨remainder, rfl⟩
    rw [← signed_mul, Nat.div_mul_cancel (Nat.dvd_of_mod_eq_zero remainder)]

/-- **The integer that a double stands for** is the number that the double is. -/
theorem integral?_eq_some_iff {x : Float} {n : Int} :
    integral? x = some n ↔ value? x = some (n : ℚ) := by
  unfold integral? value?
  cases parts x with
  | nan => simp
  | infinite negative => simp
  | finite negative m q =>
      simp only [Option.some.injEq, Nat.pow_eq]
      by_cases low : 0 ≤ q
      · obtain ⟨k, rfl⟩ := Int.eq_ofNat_of_zero_le low
        rw [if_pos low, signed_mul_zpow, Int.cast_inj, Option.some.injEq, Int.toNat_natCast]
      · obtain ⟨k, rfl⟩ : ∃ k : Nat, q = -k := ⟨(-q).toNat, by omega⟩
        rw [if_neg low, signed_mul_zpow_neg_iff, Int.neg_neg, Int.toNat_natCast]
        split <;> simp [*]

end EditHistory.Number
