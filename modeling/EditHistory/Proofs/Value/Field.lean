import EditHistory.Proofs.Number.Integer
import EditHistory.Value.Field

/-!
# Taking values apart

A field that must be there is one that is there.  Every number in the data has a double unless it is too large, and only
an integer can be too large.

## Main statements

* `Value.require_eq_ok_iff` — a field that must be there
* `Value.toDouble_eq_tooLarge_iff` — the values that are too large for a double
-/

namespace EditHistory

open Number

namespace Value

theorem require_eq_ok_iff {v w : Value} {name : String} : v.require name = .ok w ↔ v.get? name = some w := by
  cases v with
  | object fields =>
      simp only [require, get?]
      cases lookup? fields name <;> simp
  | _ => exact iff_of_false nofun nofun

/-- A number becomes the nearest double, if it has one. -/
theorem toDouble_of_number {v : Value} {x : Number} {y : Float} (number : v.number? = some x)
    (nearest : x.toFloat? = some y) : v.toDouble = .ok y := by
  cases v <;> cases number <;> simp only [toDouble, number?, nearest]

/-- A number has a double, or is too large for one. -/
theorem toDouble_eq_error_of_number {v : Value} {x : Number} {error : DoubleError} (number : v.number? = some x)
    (failed : v.toDouble = .error error) : error = .tooLarge := by
  cases nearest : x.toFloat? with
  | some y => cases (toDouble_of_number number nearest).symm.trans failed
  | none =>
      have large : v.toDouble = .error .tooLarge := by
        cases v <;> cases number <;> simp only [toDouble, number?, nearest]
      exact Except.error.inj (failed.symm.trans large)

theorem toDouble_int_eq_tooLarge_iff (n : Int) : (Value.int n).toDouble = .error .tooLarge ↔ overflow ≤ n.natAbs := by
  rw [← ofInt?_eq_none_iff]
  simp only [toDouble, number?, Number.toFloat?]
  cases ofInt? n <;> simp

/-- **The values that are too large for a double** are the integers that have reached the bound, on either side. -/
theorem toDouble_eq_tooLarge_iff (v : Value) :
    v.toDouble = .error .tooLarge ↔ ∃ n, v = .int n ∧ overflow ≤ n.natAbs := by
  cases v with
  | int n => simp only [toDouble_int_eq_tooLarge_iff, Value.int.injEq, exists_eq_left']
  | bool b =>
      -- A switch is read like the integer zero or one, which is far below the bound.
      have small : ¬ overflow ≤ (b.toNat : Int).natAbs := by
        have less := one_lt_overflow
        have bit := b.toNat_le
        omega
      have same : (Value.bool b).toDouble = (Value.int b.toNat).toDouble := rfl
      rw [same, toDouble_int_eq_tooLarge_iff]
      exact iff_of_false small nofun
  | str s =>
      refine iff_of_false ?_ nofun
      simp only [toDouble]
      split <;> nofun
  | null => exact iff_of_false nofun nofun
  | float x => exact iff_of_false nofun nofun
  | list items => exact iff_of_false nofun nofun
  | object fields => exact iff_of_false nofun nofun

end Value

end EditHistory
