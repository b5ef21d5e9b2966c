import EditHistory.Number.Layout
import EditHistory.Text.Digit
import Mathlib.Algebra.Group.Nat.Defs

/-!
# Integers written in decimal

An integer that is written out consists of digits, perhaps behind a minus, and has no more of them than the power of
ten above it says.

## Main statements

* `mem_natText`, `mem_intText` — the characters of an integer that is written out
* `length_natText_le`, `length_intText_le` — how many they are
* `intText_injective` — different integers are written differently
-/

namespace EditHistory.Number

theorem lt_of_mem_digitsUpTo {fuel n d : Nat} (mem : d ∈ digitsUpTo fuel n) : d < 10 := by
  induction fuel generalizing n with
  | zero => cases mem
  | succ fuel ih =>
      unfold digitsUpTo at mem
      split at mem
      · cases mem
      · rcases List.mem_cons.mp mem with rfl | later
        · exact Nat.mod_lt n (by decide)
        · exact ih later

theorem length_digitsUpTo_le {fuel n e : Nat} (below : n < 10 ^ e) : (digitsUpTo fuel n).length ≤ e := by
  induction fuel generalizing n e with
  | zero => exact Nat.zero_le e
  | succ fuel ih =>
      unfold digitsUpTo
      split
      · exact Nat.zero_le e
      · cases e with
        | zero =>
            rw [Nat.pow_zero] at below
            omega
        | succ e =>
            have quotient : n / 10 < 10 ^ e := by
              rw [Nat.pow_succ] at below
              omega
            exact Nat.succ_le_succ (ih quotient)

theorem mem_natText {n : Nat} {c : Char} (mem : c ∈ natText n) : '0' ≤ c ∧ c ≤ '9' := by
  unfold natText at mem
  split at mem
  · rw [List.mem_singleton.mp mem]
    decide
  · obtain ⟨d, digit, rfl⟩ := List.mem_map.mp mem
    have small : d < 10 := lt_of_mem_digitsUpTo (List.mem_reverse.mp digit)
    have all : ∀ d < 10, '0' ≤ Char.ofNat (0x30 + d) ∧ Char.ofNat (0x30 + d) ≤ '9' := by decide
    exact all d small

theorem length_natText_le {n e : Nat} (positive : 0 < e) (below : n < 10 ^ e) : (natText n).length ≤ e := by
  unfold natText
  split
  · exact positive
  · rw [List.length_map, digitsOf, List.length_reverse]
    exact length_digitsUpTo_le below

theorem mem_intText {n : Int} {c : Char} (mem : c ∈ intText n) : c = '-' ∨ ('0' ≤ c ∧ c ≤ '9') := by
  unfold intText at mem
  split at mem
  · exact (List.mem_cons.mp mem).imp_right mem_natText
  · exact Or.inr (mem_natText mem)

theorem length_intText_le {n : Int} {e : Nat} (positive : 0 < e) (below : n.natAbs < 10 ^ e) :
    (intText n).length ≤ e + 1 := by
  have digits := length_natText_le positive below
  unfold intText
  split
  · exact Nat.succ_le_succ digits
  · exact Nat.le_succ_of_le digits

/-! ### The number that was written -/

/-- The digits of a number, the least significant one first, give it back if there is room for all of them. -/
theorem foldr_digitsUpTo {fuel n : Nat} (room : n < 10 ^ fuel) :
    (digitsUpTo fuel n).foldr (fun d k => 10 * k + d) 0 = n := by
  induction fuel generalizing n with
  | zero =>
      rw [Nat.pow_zero] at room
      rw [digitsUpTo, List.foldr_nil]
      omega
  | succ fuel ih =>
      unfold digitsUpTo
      split
      · rename_i zero
        exact zero.symm
      · have quotient : n / 10 < 10 ^ fuel := by
          rw [Nat.pow_succ] at room
          omega
        rw [List.foldr_cons, ih quotient]
        omega

theorem lt_pow_log2 (n : Nat) : n < 10 ^ (n.log2 / 3 + 1) := by
  have binary : n < 2 ^ (n.log2 + 1) := Nat.lt_log2_self
  have more : 2 ^ (n.log2 + 1) ≤ 2 ^ (3 * (n.log2 / 3 + 1)) := Nat.pow_le_pow_right (by decide) (by omega)
  have base : (2 ^ 3) ^ (n.log2 / 3 + 1) ≤ 10 ^ (n.log2 / 3 + 1) := Nat.pow_le_pow_left (by decide) _
  rw [← Nat.pow_mul] at base
  omega

/-- The digits of a number give it back. -/
theorem ofDigits_digitsOf (n : Nat) : Text.ofDigits (digitsOf n) = n := by
  rw [Text.ofDigits, digitsOf, List.foldl_reverse]
  exact foldr_digitsUpTo (lt_pow_log2 n)

/-- A number that is written out is the number of its digits. -/
theorem ofDigits_natText (n : Nat) : Text.ofDigits ((natText n).map fun c => c.toNat - 0x30) = n := by
  unfold natText
  split
  · rename_i zero
    rw [zero]
    rfl
  · have back : ∀ d ∈ digitsOf n, (Char.ofNat (0x30 + d)).toNat - 0x30 = d := by
      intro d mem
      have small : d < 10 := lt_of_mem_digitsUpTo (List.mem_reverse.mp mem)
      have all : ∀ d < 10, (Char.ofNat (0x30 + d)).toNat - 0x30 = d := by decide
      exact all d small
    have same : ((digitsOf n).map fun d => Char.ofNat (0x30 + d)).map (fun c => c.toNat - 0x30) = digitsOf n := by
      rw [List.map_map]
      exact (List.map_congr_left back).trans (List.map_id _)
    rw [same]
    exact ofDigits_digitsOf n

theorem natText_injective {m n : Nat} (same : natText m = natText n) : m = n := by
  rw [← ofDigits_natText m, same, ofDigits_natText]

/-- **Different integers are written differently.** -/
theorem intText_injective {m n : Int} (same : intText m = intText n) : m = n := by
  have unsigned (k : Nat) (text : List Char) : natText k ≠ '-' :: text := by
    intro signed
    have first := mem_natText (n := k) (signed ▸ List.mem_cons_self)
    exact absurd first.1 (by decide)
  unfold intText at same
  split at same
  · split at same
    · have digits := natText_injective (List.cons.inj same).2
      omega
    · exact absurd same.symm (unsigned _ _)
  · split at same
    · exact absurd same (unsigned _ _)
    · have digits := natText_injective same
      omega

end EditHistory.Number
