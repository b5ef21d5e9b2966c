import EditHistory.Number.Reading
import EditHistory.Proofs.Number.Nearest
import EditHistory.Proofs.Number.Text

/-!
# Digits and the double they write

A number that is written in decimal, with however many digits and whatever exponent, is read as the double nearest to
it.  That the powers of ten of very large exponents are never computed makes no difference: such a number is not near
any double.

## Main statements

* `exists_decimalLength` — the number of digits of a number tells between which powers of ten it lies
* `ofDigits_append` — digits after digits
* `parts_ofDecimal` — the double that is read
-/

namespace EditHistory.Number

/-! ### Digits -/

theorem length_digitsUpTo (fuel n : Nat) : (digitsUpTo fuel n).length = decimalLength fuel n := by
  induction fuel generalizing n with
  | zero => rfl
  | succ fuel ih =>
      unfold digitsUpTo decimalLength
      split
      · rfl
      · rw [List.length_cons, ih]

theorem length_digitsOf (n : Nat) : (digitsOf n).length = decimalLength (n.log2 / 3 + 1) n := by
  rw [digitsOf, List.length_reverse, length_digitsUpTo]

theorem decimalLength_le (fuel n : Nat) : decimalLength fuel n ≤ fuel := by
  induction fuel generalizing n with
  | zero => exact Nat.le_refl 0
  | succ fuel ih =>
      unfold decimalLength
      split
      · exact Nat.zero_le _
      · exact Nat.succ_le_succ (ih _)

/-- The number of digits of a number tells between which powers of ten it lies, if there is room for all digits. -/
theorem exists_decimalLength {fuel n : Nat} (room : n < 10 ^ fuel) (positive : 0 < n) :
    ∃ l, decimalLength fuel n = l + 1 ∧ 10 ^ l ≤ n ∧ n < 10 ^ (l + 1) := by
  induction fuel generalizing n with
  | zero =>
      rw [Nat.pow_zero] at room
      omega
  | succ fuel ih =>
      rw [decimalLength, if_neg positive.ne']
      rcases Nat.eq_zero_or_pos (n / 10) with single | more
      · have zero : decimalLength fuel (n / 10) = 0 := by
          rw [single]
          cases fuel <;> rfl
        exact ⟨0, by rw [zero], by omega, by omega⟩
      · rw [Nat.pow_succ] at room
        obtain ⟨l, length, low, high⟩ := ih (by omega : n / 10 < 10 ^ fuel) more
        refine ⟨l + 1, by rw [length], ?_, ?_⟩
        · rw [Nat.pow_succ]
          omega
        · rw [Nat.pow_succ]
          omega

theorem ofDigits_append (ds ds' : List Nat) :
    Text.ofDigits (ds ++ ds') = Text.ofDigits ds * 10 ^ ds'.length + Text.ofDigits ds' := by
  induction ds' using List.reverseRecOn with
  | nil => simp [Text.ofDigits]
  | append_singleton ds' d ih =>
      have step (ds : List Nat) : Text.ofDigits (ds ++ [d]) = 10 * Text.ofDigits ds + d := by
        rw [Text.ofDigits, List.foldl_append]
        rfl
      rw [← List.append_assoc, step, ih, step, List.length_append, List.length_singleton, Nat.pow_succ]
      ring

theorem ofDigits_replicate_zero (k : Nat) : Text.ofDigits (List.replicate k 0) = 0 := by
  induction k with
  | zero => rfl
  | succ k ih =>
      rw [List.replicate_succ']
      rw [ofDigits_append, ih]
      rfl

/-! ### The double that digits write -/

/-- The numbers that are rounded to some double lie between two powers of two. -/
theorem Encloses.range {m : Nat} {q : Int} {v : ℚ} (canonical : Canonical m q) (positive : 0 < m)
    (near : Encloses m q v) : 2 ^ (-1075 : Int) ≤ v ∧ v < 2 ^ (1024 : Int) := by
  obtain ⟨below, least, most, -⟩ := canonical
  have unit : (0 : ℚ) < 2 ^ q := zpow_pos two_pos q
  have some : (1 : ℚ) ≤ m := by exact_mod_cast positive
  have less : (m : ℚ) + 1 ≤ 2 ^ 53 := by exact_mod_cast below
  constructor
  · calc (2 : ℚ) ^ (-1075 : Int) ≤ 2 ^ (-1 + q) := zpow_le_zpow_right₀ one_le_two (by omega)
      _ = 1 / 2 * 2 ^ q := by rw [zpow_add₀ two_ne_zero, zpow_neg_one, one_div]
      _ ≤ v := by
        refine le_trans (mul_le_mul_of_nonneg_right ?_ unit.le) near.low
        split <;> linarith
  · calc v ≤ (m + 1 / 2) * 2 ^ q := near.high
      _ < 2 ^ 53 * 2 ^ q := mul_lt_mul_of_pos_right (by linarith) unit
      _ = 2 ^ ((53 : Nat) + q) := (two_zpow_add 53 q).symm
      _ ≤ 2 ^ (1024 : Int) := zpow_le_zpow_right₀ one_le_two (by omega)

theorem two_pow_le_ten_pow : (2 : ℚ) ^ (1024 : Int) ≤ 10 ^ (309 : Int) := by
  have powers : 2 ^ 1024 ≤ 10 ^ 309 := by decide +kernel
  exact_mod_cast powers

theorem ten_pow_neg_le_two_pow_neg : (10 : ℚ) ^ (-324 : Int) ≤ 2 ^ (-1075 : Int) := by
  have powers : 2 ^ 1075 ≤ 10 ^ 324 := by decide +kernel
  rw [zpow_neg, zpow_neg]
  exact inv_anti₀ (zpow_pos two_pos _) (by exact_mod_cast powers)

/-- What is rounded to a double other than zero is not zero. -/
theorem Encloses.pos_of_mul {m n : Nat} {q e : Int} (canonical : Canonical m q) (positive : 0 < m)
    (near : Encloses m q (n * 10 ^ e)) : 0 < n := by
  refine Nat.pos_of_ne_zero fun zero => ?_
  have least := (near.range canonical positive).1
  rw [zero, Nat.cast_zero, zero_mul] at least
  exact absurd least (zpow_pos two_pos _).not_ge

/-- The digits before and after the point of a number in the range of doubles are few. -/
theorem length_add_range {n l : Nat} {e : Int} (low : 10 ^ l ≤ n) (high : n < 10 ^ (l + 1))
    (least : 2 ^ (-1075 : Int) ≤ (n * 10 ^ e : ℚ)) (most : (n * 10 ^ e : ℚ) < 2 ^ (1024 : Int)) :
    (l : Int) + e < 309 ∧ -324 < (l : Int) + 1 + e := by
  have unit : (0 : ℚ) < 10 ^ e := zpow_pos (by norm_num) e
  have below : (10 : ℚ) ^ ((l : Int) + e) < 10 ^ (309 : Int) :=
    calc (10 : ℚ) ^ ((l : Int) + e) = (10 ^ l : Nat) * 10 ^ e := by
          rw [zpow_add₀ (by norm_num), zpow_natCast]
          push_cast
          rfl
      _ ≤ n * 10 ^ e := mul_le_mul_of_nonneg_right (by exact_mod_cast low) unit.le
      _ < 2 ^ (1024 : Int) := most
      _ ≤ 10 ^ (309 : Int) := two_pow_le_ten_pow
  have above : (10 : ℚ) ^ (-324 : Int) < 10 ^ ((l : Int) + 1 + e) :=
    calc (10 : ℚ) ^ (-324 : Int) ≤ 2 ^ (-1075 : Int) := ten_pow_neg_le_two_pow_neg
      _ ≤ n * 10 ^ e := least
      _ < (10 ^ (l + 1) : Nat) * 10 ^ e := mul_lt_mul_of_pos_right (by exact_mod_cast high) unit
      _ = 10 ^ ((l : Int) + 1 + e) := by
          rw [zpow_add₀ (by norm_num), ← Nat.cast_succ, zpow_natCast]
          push_cast
          rfl
  exact ⟨(zpow_lt_zpow_iff_right₀ (by norm_num)).mp below, (zpow_lt_zpow_iff_right₀ (by norm_num)).mp above⟩

/-- **The double that is read** is the one that a number in decimal is rounded to. -/
theorem parts_ofDecimal {m n : Nat} {q e : Int} (canonical : Canonical m q) (positive : 0 < m)
    (near : Encloses m q (n * 10 ^ e)) : parts (ofDecimal n e) = .finite false m q := by
  obtain ⟨least, most⟩ := near.range canonical positive
  have some := near.pos_of_mul canonical positive
  obtain ⟨l, length, low, high⟩ := exists_decimalLength (lt_pow_log2 n) some
  have room := decimalLength_le (n.log2 / 3 + 1) n
  obtain ⟨top, bottom⟩ := length_add_range low high least most
  unfold ofDecimal
  rw [if_neg some.ne', length]
  simp only
  rw [if_neg (by omega), if_neg (by omega)]
  split
  · rename_i whole
    exact parts_ofScientific canonical positive near (by simp; omega) some (by omega) (by omega)
  · rename_i fraction
    exact parts_ofScientific canonical positive near (by simp; omega) some (by omega) (by omega)

end EditHistory.Number
