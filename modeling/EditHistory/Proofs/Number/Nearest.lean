import EditHistory.Proofs.Number.Rounding
import Mathlib.Tactic.FieldSimp
import Mathlib.Tactic.Positivity

/-!
# The nearest double to a number in decimal

A product and a quotient are rounded from their exact value.  So is a number in decimal: the double that is read is the
one that the number lies nearest to.

## Main statements

* `mul_eq`, `div_eq` — products and quotients
* `parts_ofScientific` — a number in decimal
-/

namespace EditHistory.Number

open Float.Model Float.Model.UnpackedFloat

/-! ### Products and quotients -/

theorem approximates_fraction (a : Nat) {b : Nat} (positive : 0 < b) :
    Approximates (.ofMantissaAndAccuracy (a / b) (accuracyOfFraction (a % b) b)) (a / b) := by
  have unit : (0 : ℚ) < b := by exact_mod_cast positive
  have split : (a : ℚ) / b = (a / b : Nat) + (a % b : Nat) / b := by
    rw [eq_comm, add_div_eq_mul_add_div _ _ unit.ne', div_left_inj' unit.ne']
    exact_mod_cast Nat.div_add_mod' a b
  have less := Nat.mod_lt a positive
  rw [split]
  generalize a / b = k at *
  generalize a % b = r at *
  unfold accuracyOfFraction
  split_ifs with zero
  · subst zero
    simp [Approximates, ExtendedMantissa.ofMantissaAndAccuracy]
  · have some : (0 : ℚ) < r / b := div_pos (by exact_mod_cast Nat.pos_of_ne_zero zero) unit
    rcases order : compare (2 * r) b with _ | _ | _
    · rw [Nat.compare_eq_lt] at order
      have half : (r : ℚ) / b < 1 / 2 := by
        rw [div_lt_div_iff₀ unit two_pos]
        exact_mod_cast (by omega : r * 2 < 1 * b)
      simp only [Approximates, ExtendedMantissa.ofMantissaAndAccuracy]
      constructor <;> linarith
    · rw [Nat.compare_eq_eq] at order
      have half : (r : ℚ) / b = 1 / 2 := by
        rw [div_eq_div_iff unit.ne' two_ne_zero]
        exact_mod_cast (by omega : r * 2 = 1 * b)
      simp only [Approximates, ExtendedMantissa.ofMantissaAndAccuracy, half]
    · rw [Nat.compare_eq_gt] at order
      have half : 1 / 2 < (r : ℚ) / b := by
        rw [div_lt_div_iff₀ two_pos unit]
        exact_mod_cast (by omega : 1 * b < r * 2)
      have whole : (r : ℚ) / b < 1 := by
        rw [div_lt_iff₀ unit, one_mul]
        exact_mod_cast less
      simp only [Approximates, ExtendedMantissa.ofMantissaAndAccuracy]
      constructor <;> linarith

theorem le_targetExponent {k : Nat} {e : Int} (enough : 52 ≤ k.log2 ∨ e ≤ -1074) :
    e ≤ Format.binary64.targetExponent (totalExponent k e) := by
  rw [targetExponent_eq, totalExponent]
  omega

theorem mul_eq {s₁ s₂ : Sign} {m₁ m₂ m : Nat} {e₁ e₂ q : Int} {p₁ : 0 < m₁} {p₂ : 0 < m₂}
    (canonical : Canonical m q) (positive : 0 < m) (near : Encloses m q (m₁ * m₂ * 2 ^ (e₁ + e₂)))
    (wide : 52 ≤ (m₁ * m₂).log2) :
    UnpackedFloat.mul Format.binary64 (.finite s₁ m₁ e₁ p₁) (.finite s₂ m₂ e₂ p₂) =
      .finite (s₁ * s₂) m q positive := by
  rw [UnpackedFloat.mul]
  refine roundWithAccuracy_eq canonical positive near ?_ (le_targetExponent (Or.inl wide))
  rw [mul_div_cancel_right₀ _ (zpow_pos two_pos _).ne']
  show _ = ((m₁ * m₂ : Nat) : ℚ)
  push_cast
  rfl

/-- A quotient is taken with enough bits. -/
theorem divCore_eq (m₁ m₂ : Nat) (e₁ e₂ : Int) (positive : 0 < m₁) (positive' : 0 < m₂) :
    ∃ n : Nat, divCore Format.binary64 m₁ e₁ m₂ e₂ =
        (m₁ * 2 ^ n / m₂, e₁ - e₂ - n, accuracyOfFraction (m₁ * 2 ^ n % m₂) m₂) ∧
      (52 ≤ (m₁ * 2 ^ n / m₂).log2 ∨ e₁ - e₂ - n ≤ -1074) := by
  unfold divCore
  generalize target : min (e₁ - e₂) (Format.binary64.targetExponent (totalExponent m₁ e₁ - totalExponent m₂ e₂)) = T
  rw [targetExponent_eq, totalExponent, totalExponent] at target
  obtain ⟨n, rfl⟩ : ∃ n : Nat, T = e₁ - e₂ - n := ⟨(e₁ - e₂ - T).toNat, by omega⟩
  have shift : (e₁ - e₂ - (e₁ - e₂ - n)).toNat = n := by omega
  refine ⟨n, by simp only [shift, Nat.shiftLeft_eq], ?_⟩
  by_cases least : e₁ - e₂ - n ≤ -1074
  · exact Or.inr least
  · left
    have bits : m₂.log2 + 53 ≤ m₁.log2 + n := by omega
    have enough : 2 ^ 52 * m₂ ≤ m₁ * 2 ^ n :=
      calc 2 ^ 52 * m₂ ≤ 2 ^ 52 * 2 ^ (m₂.log2 + 1) := Nat.mul_le_mul_left _ Nat.lt_log2_self.le
        _ = 2 ^ (m₂.log2 + 53) := by rw [← Nat.pow_add]; congr 1; omega
        _ ≤ 2 ^ (m₁.log2 + n) := Nat.pow_le_pow_right two_pos bits
        _ = 2 ^ m₁.log2 * 2 ^ n := Nat.pow_add 2 _ _
        _ ≤ m₁ * 2 ^ n := Nat.mul_le_mul_right _ (Nat.log2_self_le positive.ne')
    have quotient : 2 ^ 52 ≤ m₁ * 2 ^ n / m₂ := (Nat.le_div_iff_mul_le positive').mpr enough
    exact (Nat.le_log2 (by omega)).mpr quotient

theorem div_eq {s₁ s₂ : Sign} {m₁ m₂ m : Nat} {e₁ e₂ q : Int} {p₁ : 0 < m₁} {p₂ : 0 < m₂}
    (canonical : Canonical m q) (positive : 0 < m) (near : Encloses m q (m₁ / m₂ * 2 ^ (e₁ - e₂))) :
    UnpackedFloat.div Format.binary64 (.finite s₁ m₁ e₁ p₁) (.finite s₂ m₂ e₂ p₂) =
      .finite (s₁ / s₂) m q positive := by
  obtain ⟨n, quotient, enough⟩ := divCore_eq m₁ m₂ e₁ e₂ p₁ p₂
  rw [UnpackedFloat.div, quotient]
  refine roundWithAccuracy_eq canonical positive near ?_ (le_targetExponent enough)
  have value : (m₁ : ℚ) / m₂ * 2 ^ (e₁ - e₂) / 2 ^ (e₁ - e₂ - n) = (m₁ * 2 ^ n : Nat) / m₂ := by
    rw [mul_div_assoc, ← zpow_sub₀ two_ne_zero, sub_sub_cancel, zpow_natCast]
    push_cast
    ring
  rw [value]
  exact approximates_fraction _ p₂

/-! ### Numbers in decimal -/

/-- A number in decimal is rounded to the nearest double. -/
theorem ofScientific_eq {m n : Nat} {q e : Int} (canonical : Canonical m q) (positive : 0 < m)
    (near : Encloses m q (n * 10 ^ e)) (some : 0 < n) (low : -(2048 + (n.log2 : Int)) ≤ e) (high : e ≤ 2048) :
    UnpackedFloat.ofScientific Format.binary64 n e = .finite .positive m q positive := by
  unfold UnpackedFloat.ofScientific
  rw [dif_neg some.ne', if_neg (by show ¬ e > 2048; omega), if_neg (by show ¬ e < -(2048 + _); omega)]
  split_ifs with whole
  · obtain ⟨k, rfl⟩ := Int.eq_ofNat_of_zero_le whole
    refine mul_eq canonical positive ?_ ?_
    · have value : ((n <<< Format.binary64.mantissaBits : Nat) : ℚ) * (10 ^ (k : Int).toNat : Nat) *
          2 ^ (-(Format.binary64.mantissaBits : Int) + 0) = n * 10 ^ (k : Int) := by
        show ((n <<< 53 : Nat) : ℚ) * (10 ^ (k : Int).toNat : Nat) * 2 ^ (-53 : Int) = _
        rw [Nat.shiftLeft_eq, Int.toNat_natCast, zpow_natCast, zpow_neg]
        push_cast
        field_simp
      rw [value]
      exact near
    · show 52 ≤ (n <<< 53 * 10 ^ (k : Int).toNat).log2
      have power : 0 < 10 ^ (k : Int).toNat := Nat.pow_pos (by decide)
      have large : 2 ^ 52 ≤ n * 2 ^ 53 * 10 ^ (k : Int).toNat := by nlinarith
      rw [Nat.shiftLeft_eq]
      exact (Nat.le_log2 (by omega)).mpr large
  · obtain ⟨k, rfl⟩ : ∃ k : Nat, e = -k := ⟨(-e).toNat, by omega⟩
    refine div_eq canonical positive ?_
    have value : (n : ℚ) / (10 ^ (- -(k : Int)).toNat : Nat) * 2 ^ ((0 : Int) - 0) = n * 10 ^ (-(k : Int)) := by
      rw [neg_neg, Int.toNat_natCast, zpow_neg, zpow_natCast]
      push_cast
      rw [mul_one, div_eq_mul_inv]
    rw [value]
    exact near

/-! ### Integers and powers of ten that are doubles -/

theorem encloses_self {m : Nat} (q : Int) : Encloses m q (m * 2 ^ q) := by
  have unit : (0 : ℚ) < 2 ^ q := zpow_pos two_pos q
  constructor
  · refine mul_le_mul_of_nonneg_right ?_ unit.le
    split <;> linarith
  · exact mul_le_mul_of_nonneg_right (by linarith) unit.le
  · intro _
    constructor <;> exact mul_lt_mul_of_pos_right (by linarith) unit

/-- An integer of at most 53 bits is a double. -/
theorem ofNat_eq {n : Nat} (positive : 0 < n) (below : n < 2 ^ 53) :
    ∃ (m : Nat) (q : Int) (positive : 0 < m), UnpackedFloat.ofNat Format.binary64 n = .finite .positive m q positive ∧
      Canonical m q ∧ 2 ^ 52 ≤ m ∧ (m * 2 ^ q : ℚ) = n := by
  have width := (Nat.log2_lt positive.ne').mpr below
  obtain ⟨k, sum⟩ : ∃ k, n.log2 + k = 52 := ⟨52 - n.log2, by omega⟩
  have large : 2 ^ 52 ≤ n * 2 ^ k := by
    rw [← sum, Nat.pow_add]
    exact Nat.mul_le_mul_right _ (Nat.log2_self_le positive.ne')
  have small : n * 2 ^ k < 2 ^ 53 := by
    rw [show 53 = n.log2 + 1 + k by omega, Nat.pow_add]
    exact Nat.mul_lt_mul_of_pos_right Nat.lt_log2_self (Nat.two_pow_pos k)
  have canonical : Canonical (n * 2 ^ k) (-(k : Int)) := ⟨small, by omega, by omega, Or.inl large⟩
  have some : 0 < n * 2 ^ k := by omega
  refine ⟨n * 2 ^ k, -k, some, ?_, canonical, large, ?_⟩
  · have target : Format.binary64.targetExponent (totalExponent n 0) = -k := by
      rw [targetExponent_eq, totalExponent]
      omega
    have signed : compare (n : Int) 0 = .gt := Int.compare_eq_gt.mpr (by omega)
    have shift : (0 - -(k : Int)).toNat = k := by omega
    rw [UnpackedFloat.ofNat, UnpackedFloat.ofInt, UnpackedFloat.normalize, signed]
    simp only [UnpackedFloat.round, Int.toNat_natCast, target, decreaseExponent, shift, Nat.shiftLeft_eq]
    rw [zero_sub]
    refine roundWithAccuracy_eq canonical some (encloses_self _) ?_ (targetExponent_adjusted canonical.adjusted some).ge
    rw [mul_div_cancel_right₀ _ (zpow_pos two_pos _).ne']
    rfl
  · push_cast
    rw [zpow_neg, zpow_natCast]
    field_simp

/-- Whether parts are those of a natural number, with a mantissa of full width. -/
def Parts.areOf (n : Nat) : Parts → Bool
  | .finite false m q => 2 ^ 52 ≤ m && m * 2 ^ q.toNat == n * 2 ^ (-q).toNat
  | _ => false

theorem unpack_of_areOf {x : Float} {n : Nat} (are : (parts x).areOf n = true) :
    ∃ (m : Nat) (q : Int) (positive : 0 < m), x.toModel.unpack = .finite .positive m q positive ∧
      2 ^ 52 ≤ m ∧ (m * 2 ^ q : ℚ) = n := by
  rw [parts_eq] at are
  cases unpacked : x.toModel.unpack with
  | notANumber =>
      rw [unpacked] at are
      cases are
  | infinity s =>
      rw [unpacked] at are
      cases are
  | zero s =>
      rw [unpacked] at are
      cases s <;> cases are
  | finite s m q positive =>
      rw [unpacked] at are
      cases s with
      | negative => cases are
      | positive =>
          simp only [partsOf, isNegative, Parts.areOf, Bool.and_eq_true, decide_eq_true_eq, beq_iff_eq] at are
          obtain ⟨large, value⟩ := are
          refine ⟨m, q, positive, rfl, large, ?_⟩
          have value' : (m * 2 ^ q.toNat : ℚ) = n * 2 ^ (-q).toNat := by exact_mod_cast value
          have split : (2 : ℚ) ^ q = 2 ^ q.toNat / 2 ^ (-q).toNat := by
            rw [← zpow_natCast, ← zpow_natCast, ← zpow_sub₀ two_ne_zero]
            congr 1
            omega
          rw [split, ← mul_div_assoc, value', mul_div_cancel_right₀ _ (pow_ne_zero _ two_ne_zero)]

/-- The powers of ten that are doubles. -/
theorem areOf_powersOfTen : ∀ k : Fin Float.exactlyRepresentablePowersOfTen.size,
    (parts Float.exactlyRepresentablePowersOfTen[k]).areOf (10 ^ k.val) = true := by
  decide +kernel

theorem unpack_toFloat {n : Nat} (positive : 0 < n) (below : n < 2 ^ 53) :
    ∃ (m : Nat) (q : Int) (positive : 0 < m), n.toUInt64.toFloat.toModel.unpack = .finite .positive m q positive ∧
      2 ^ 52 ≤ m ∧ (m * 2 ^ q : ℚ) = n := by
  obtain ⟨m, q, some, packed, canonical, large, value⟩ := ofNat_eq positive below
  have whole : n.toUInt64.toNat = n := by
    rw [Nat.toUInt64_eq, UInt64.toNat_ofNat', Nat.mod_eq_of_lt (by omega)]
  refine ⟨m, q, some, ?_, large, value⟩
  show (Float.Model.pack (UnpackedFloat.ofNat Format.binary64 n.toUInt64.toNat)).unpack = _
  rw [whole, packed, unpack_pack (f := .finite .positive m q some) canonical]

section

variable {x y : Float} {m m₁ m₂ : Nat} {q q₁ q₂ : Int} {p₁ : 0 < m₁} {p₂ : 0 < m₂}

theorem parts_mul (left : x.toModel.unpack = .finite .positive m₁ q₁ p₁)
    (right : y.toModel.unpack = .finite .positive m₂ q₂ p₂) (large : 2 ^ 52 ≤ m₁) (canonical : Canonical m q)
    (positive : 0 < m) (near : Encloses m q (m₁ * 2 ^ q₁ * (m₂ * 2 ^ q₂))) : parts (x * y) = .finite false m q := by
  have wide : 52 ≤ (m₁ * m₂).log2 := (Nat.le_log2 (by positivity)).mpr (le_trans large (Nat.le_mul_of_pos_right m₁ p₂))
  rw [mul_mul_mul_comm, ← zpow_add₀ two_ne_zero] at near
  show parts (.ofModel (.pack (UnpackedFloat.mul Format.binary64 x.toModel.unpack y.toModel.unpack))) = _
  rw [left, right, mul_eq canonical positive near wide,
    parts_pack (f := .finite (.positive * .positive) m q positive) canonical]
  rfl

theorem parts_div (left : x.toModel.unpack = .finite .positive m₁ q₁ p₁)
    (right : y.toModel.unpack = .finite .positive m₂ q₂ p₂) (canonical : Canonical m q)
    (positive : 0 < m) (near : Encloses m q (m₁ * 2 ^ q₁ / (m₂ * 2 ^ q₂))) : parts (x / y) = .finite false m q := by
  rw [mul_div_mul_comm, ← zpow_sub₀ two_ne_zero] at near
  show parts (.ofModel (.pack (UnpackedFloat.div Format.binary64 x.toModel.unpack y.toModel.unpack))) = _
  rw [left, right, div_eq canonical positive near,
    parts_pack (f := .finite (.positive / .positive) m q positive) canonical]
  rfl

end

/-- **The nearest double to a number in decimal** is the one that is read. -/
theorem parts_ofScientific {m n k : Nat} {q e : Int} {shrink : Bool} (canonical : Canonical m q) (positive : 0 < m)
    (near : Encloses m q (n * 10 ^ e)) (scale : e = if shrink then -(k : Int) else k) (some : 0 < n)
    (low : -(2048 + (n.log2 : Int)) ≤ e) (high : e ≤ 2048) :
    parts (Float.ofScientific n shrink k) = .finite false m q := by
  unfold Float.ofScientific
  split
  · rename_i small
    obtain ⟨m₁, q₁, p₁, left, large, value₁⟩ := unpack_toFloat some small.1
    obtain ⟨m₂, q₂, p₂, right, -, value₂⟩ := unpack_of_areOf (areOf_powersOfTen ⟨k, Nat.lt_succ_of_le small.2⟩)
    simp only
    split
    · rename_i shrinks
      refine parts_div left right canonical positive ?_
      rw [scale, if_pos shrinks, zpow_neg, zpow_natCast, ← div_eq_mul_inv] at near
      rw [value₁, value₂]
      push_cast
      exact near
    · rename_i grows
      refine parts_mul left right large canonical positive ?_
      rw [scale, if_neg grows, zpow_natCast] at near
      rw [value₁, value₂]
      push_cast
      exact near
  · have same : (if shrink then Int.negOfNat k else Int.ofNat k) = e := by
      rw [scale, Int.negOfNat_eq]
      rfl
    simp only [same]
    show parts (.ofModel (.pack (UnpackedFloat.ofScientific Format.binary64 n e))) = _
    rw [ofScientific_eq canonical positive near some low high,
      parts_pack (f := .finite .positive m q positive) canonical]
    rfl

end EditHistory.Number
