import EditHistory.Proofs.Number.Quotient
import Mathlib.Tactic.NormNum

/-!
# The nearest double to an integer

An integer is rounded to a double like every other number.  The first that is rounded to infinity lies in the middle
between the largest double and the next power of two, for such a middle goes to the even side.  Every smaller integer
has a nearest double, and a positive integer has a positive one.

## Main definitions

* `overflow` — the least natural number that is rounded to infinity

## Main statements

* `exists_encloses` — what rounding gives encloses the number, also if it is too large for a double
* `ofInt?_eq_none_iff` — which integers have no nearest double
* `isPositive_of_ofInt?` — the nearest double to a positive integer
-/

namespace EditHistory.Number

open Float.Model Float.Model.UnpackedFloat

/-! ### Rounding -/

/-- **What rounding gives encloses the number**, be it a double or too large for one. -/
theorem exists_encloses {k : Nat} {e : Int} {v : ℚ} {accuracy : Accuracy} (some : 0 < k)
    (fine : e ≤ Format.binary64.targetExponent (totalExponent k e)) (large : -1073 ≤ totalExponent k e) (s : Sign)
    (approximates : Approximates (.ofMantissaAndAccuracy k accuracy) (v / 2 ^ e)) :
    ∃ m q, ∃ positive : 0 < m, roundWithAccuracy Format.binary64 s k e accuracy = .finite s m q positive ∧
      Adjusted m q ∧ Encloses m q v := by
  obtain ⟨em, l, q₀, m, q, positive, shifted, -, wide, full, result, adjusted, rounded⟩ :=
    exists_rounded some fine large s accuracy
  obtain ⟨em', shifted', there⟩ := approximates.exists_shift fine
  rw [shifted] at shifted'
  obtain ⟨rfl, exponent⟩ := Prod.mk.inj shifted'
  rw [← exponent] at there
  have unit : (0 : ℚ) < 2 ^ q₀ := zpow_pos two_pos q₀
  obtain ⟨least, -⟩ := there.bounds
  obtain ⟨low, high, odd⟩ := there.near
  rw [le_div_iff₀ unit] at least low
  rw [div_le_iff₀ unit] at high
  rw [lt_div_iff₀ unit, div_lt_iff₀ unit] at odd
  refine ⟨m, q, positive, result, adjusted, ?_⟩
  rcases rounded with ⟨rfl, rfl⟩ | ⟨carry, rfl, rfl, rfl⟩
  · refine ⟨?_, high, odd⟩
    split
    · -- The mantissa has its full width before it is rounded, so the number is not below the power of two.
      rename_i power
      obtain rfl : l = 52 := wide.resolve_right (by omega)
      have whole : (2 ^ 52 : ℚ) ≤ em.mantissa := by exact_mod_cast full
      rw [power.1]
      refine le_trans (mul_le_mul_of_nonneg_right ?_ unit.le) least
      push_cast
      linarith
    · exact low
  · rw [carry] at low high
    push_cast at low high
    have twice : (2 : ℚ) ^ (q₀ + 1) = 2 ^ q₀ * 2 := zpow_add_one₀ two_ne_zero q₀
    refine ⟨?_, ?_, fun odd => absurd odd (by decide)⟩
    · rw [twice]
      push_cast
      split <;> linarith
    · rw [twice]
      push_cast
      linarith

/-! ### Overflow -/

/-- The least natural number that is rounded to infinity, half a unit above the largest double: `2 ^ 1024 - 2 ^ 970`. -/
def overflow : Nat := (2 ^ 54 - 1) * 2 ^ 970

theorem one_lt_overflow : 1 < overflow := by
  obtain ⟨k, power⟩ : ∃ k, overflow = (2 ^ 54 - 1) * 2 ^ k := ⟨970, rfl⟩
  rw [power]
  exact Nat.lt_of_lt_of_le (by decide : 1 < 2 ^ 54 - 1) (Nat.le_mul_of_pos_right _ (Nat.two_pow_pos k))

theorem cast_overflow : (overflow : ℚ) = (2 ^ 53 - 1 / 2) * 2 ^ (971 : Int) := by
  have next : (2 : ℚ) ^ (971 : Int) = 2 ^ 970 * 2 := by
    rw [show (971 : Int) = ((970 + 1 : Nat) : Int) from rfl, zpow_natCast, pow_succ]
  rw [overflow, next, Nat.cast_mul, Nat.cast_pow, Nat.cast_ofNat]
  generalize (2 : ℚ) ^ 970 = unit
  push_cast
  ring

/-- What is rounded to a mantissa lies below the middle between the largest mantissa and the next power of two. -/
theorem Encloses.lt_top {m : Nat} {q : Int} {v : ℚ} (near : Encloses m q v) (below : m < 2 ^ 53) :
    v < (2 ^ 53 - 1 / 2) * 2 ^ q := by
  have unit : (0 : ℚ) < 2 ^ q := zpow_pos two_pos q
  rcases Nat.lt_or_ge m (2 ^ 53 - 1) with less | top
  · have most : (m : ℚ) + 2 ≤ 2 ^ 53 := by exact_mod_cast (by omega : m + 2 ≤ 2 ^ 53)
    exact lt_of_le_of_lt near.high (mul_lt_mul_of_pos_right (by linarith) unit)
  · -- The largest mantissa is odd, so the middle after it is rounded up.
    have whole : (m : ℚ) + 1 = 2 ^ 53 := by exact_mod_cast (by omega : m + 1 = 2 ^ 53)
    have high := (near.odd (by omega)).2
    rwa [show (m : ℚ) + 1 / 2 = 2 ^ 53 - 1 / 2 by linarith] at high

/-- What is rounded to a mantissa of full width has reached the middle before the power of two. -/
theorem Encloses.bottom_le {m : Nat} {q : Int} {v : ℚ} (near : Encloses m q v) (least : -1074 < q)
    (full : 2 ^ 52 ≤ m) : (2 ^ 52 - 1 / 4) * 2 ^ q ≤ v := by
  refine le_trans (mul_le_mul_of_nonneg_right ?_ (zpow_pos two_pos q).le) near.low
  rcases eq_or_lt_of_le full with rfl | more
  · rw [if_pos ⟨rfl, least⟩]
    push_cast
    exact le_rfl
  · have next : (2 ^ 52 + 1 : ℚ) ≤ m := by exact_mod_cast more
    split <;> linarith

/-- What is rounded to a number with an exponent that is too large has reached the bound, and nothing else has. -/
theorem Encloses.overflow_le_iff {m : Nat} {q : Int} {v : ℚ} (near : Encloses m q v) (adjusted : Adjusted m q) :
    overflow ≤ v ↔ 971 < q := by
  rw [cast_overflow]
  constructor
  · intro reached
    by_contra small
    have unit : (2 : ℚ) ^ q ≤ 2 ^ (971 : Int) := zpow_le_zpow_right₀ one_le_two (by omega)
    have bound : (2 ^ 53 - 1 / 2 : ℚ) * 2 ^ q ≤ (2 ^ 53 - 1 / 2) * 2 ^ (971 : Int) :=
      mul_le_mul_of_nonneg_left unit (by norm_num)
    exact absurd (reached.trans_lt ((near.lt_top adjusted.below).trans_le bound)) (lt_irrefl _)
  · intro large
    have unit : (2 : ℚ) ^ (971 + 1 : Int) ≤ 2 ^ q := zpow_le_zpow_right₀ one_le_two (by omega)
    have full : 2 ^ 52 ≤ m := adjusted.full.resolve_right (by omega)
    calc (2 ^ 53 - 1 / 2 : ℚ) * 2 ^ (971 : Int)
        = (2 ^ 52 - 1 / 4) * 2 ^ (971 + 1 : Int) := by rw [zpow_add_one₀ two_ne_zero]; ring
      _ ≤ (2 ^ 52 - 1 / 4) * 2 ^ q := mul_le_mul_of_nonneg_left unit (by norm_num)
      _ ≤ v := near.bottom_le (by omega) full

/-! ### Integers -/

/-- Read as a decimal without places, an integer is shifted and rounded. -/
theorem ofScientific_zero {n : Nat} (some : 0 < n) :
    UnpackedFloat.ofScientific Format.binary64 n 0 =
      roundWithAccuracy Format.binary64 .positive (n * 2 ^ 53) (-53) .exact := by
  have shifted : n <<< Format.binary64.mantissaBits * 10 ^ (0 : Int).toNat = n * 2 ^ 53 := by
    rw [Nat.shiftLeft_eq, Int.toNat_zero, Nat.pow_zero, Nat.mul_one]
    rfl
  unfold UnpackedFloat.ofScientific
  rw [dif_neg some.ne', if_neg (by decide), if_neg (by show ¬ (0 : Int) < -(2048 + _); omega), if_pos (by decide),
    UnpackedFloat.mul, ← shifted]
  rfl

/-- **A positive integer as a double**: the double that encloses it, or infinity if the exponent is too large. -/
theorem exists_ofNat {n : Nat} (some : 0 < n) :
    ∃ m q, 0 < m ∧ Adjusted m q ∧ Encloses m q n ∧
      parts (Float.ofNat n) = if q ≤ 971 then .finite false m q else .infinite false := by
  by_cases small : n < 2 ^ 53
  · obtain ⟨m, q, positive, -, canonical, -, value⟩ := ofNat_eq some small
    have near : Encloses m q n := value ▸ encloses_self q
    refine ⟨m, q, positive, canonical.adjusted, near, ?_⟩
    rw [if_pos canonical.most]
    refine @parts_ofScientific m n 0 q 0 false canonical positive ?_ rfl some (by omega) (by decide)
    rw [zpow_zero, mul_one]
    exact near
  · have large : 2 ^ 53 ≤ n * 2 ^ 53 := Nat.le_mul_of_pos_left _ some
    have wide : 53 ≤ (n * 2 ^ 53).log2 := (Nat.le_log2 (by omega)).mpr large
    have value : ((n * 2 ^ 53 : Nat) : ℚ) * 2 ^ (-53 : Int) = n := by
      push_cast
      rw [zpow_neg, mul_assoc]
      norm_num
    have exact : Approximates (.ofMantissaAndAccuracy (n * 2 ^ 53) .exact) (n / 2 ^ (-53 : Int)) := by
      rw [← value, mul_div_cancel_right₀ _ (zpow_pos two_pos _).ne']
      rfl
    obtain ⟨m, q, positive, rounded, adjusted, near⟩ :=
      exists_encloses (by omega) (le_targetExponent (Or.inl (by omega))) (by rw [totalExponent]; omega) .positive exact
    refine ⟨m, q, positive, adjusted, near, ?_⟩
    rw [← parts_pack_adjusted adjusted positive, ← rounded, ← ofScientific_zero some]
    show parts (Float.ofScientific n false 0) = _
    rw [Float.ofScientific, dif_neg (fun few => small few.1)]
    rfl

theorem isInf_iff (x : Float) : x.isInf = true ↔ ∃ negative, parts x = .infinite negative := by
  rw [parts_eq]
  show x.toModel.unpack.isInf = true ↔ _
  cases x.toModel.unpack <;> simp [partsOf, UnpackedFloat.isInf]

theorem parts_ofNat_zero : parts (Float.ofNat 0) = .finite false 0 (-1074) := by decide +kernel

/-- **The integers that have no nearest double** are those that have reached the bound, on either side. -/
theorem ofInt?_eq_none_iff (n : Int) : ofInt? n = none ↔ overflow ≤ n.natAbs := by
  have infinite : ofInt? n = none ↔ (Float.ofNat n.natAbs).isInf = true := by
    unfold ofInt?
    split <;> simp_all
  rw [infinite, isInf_iff]
  rcases Nat.eq_zero_or_pos n.natAbs with zero | some
  · rw [zero, parts_ofNat_zero]
    exact iff_of_false nofun (Nat.zero_lt_one.trans one_lt_overflow).not_ge
  · obtain ⟨m, q, -, adjusted, near, parts⟩ := exists_ofNat some
    rw [parts, ← Nat.cast_le (α := ℚ), near.overflow_le_iff adjusted]
    split <;> simp <;> omega

/-- The nearest double to a positive integer is positive. -/
theorem isPositive_of_ofInt? {n : Int} {x : Float} (positive : 0 < n) (read : ofInt? n = some x) : IsPositive x := by
  simp only [ofInt?] at read
  split at read
  · cases read
  · rename_i finite
    rw [if_neg (by omega), Option.some.injEq] at read
    subst read
    obtain ⟨m, q, some, -, -, parts⟩ := exists_ofNat (n := n.natAbs) (by omega)
    rw [isInf_iff, parts] at finite
    refine ⟨m, q, some, parts.trans (if_pos ?_)⟩
    by_contra large
    rw [if_neg large] at finite
    exact finite ⟨false, rfl⟩

end EditHistory.Number
