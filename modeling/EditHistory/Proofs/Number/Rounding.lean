import EditHistory.Proofs.Number.Double
import Mathlib.Algebra.Order.Field.Power
import Mathlib.Data.Rat.Cast.Order
import Mathlib.Tactic.Linarith
import Mathlib.Tactic.Ring

/-!
# Rounding to a double

A result that arithmetic finds is a whole number of units with the information how the exact result lies between that
number and the next one.  Dropping bits keeps this information true, and at the end it decides which way the number is
rounded: to the nearest double, and from the middle between two to the even one.

## Main definitions

* `Approximates` — what a mantissa with its two residual bits says about the exact number
* `Encloses` — the numbers that are rounded to a double
* `Adjusted` — what rounding gives, before it is checked that the exponent is not too large

## Main statements

* `Approximates.shiftRight` — dropping bits keeps what is said true
* `Approximates.near` — how far the rounded mantissa is from the number
* `roundWithAccuracy_eq` — rounding gives the nearest double
-/

namespace EditHistory.Number

open Float.Model Float.Model.UnpackedFloat

/-! ### Residual bits -/

/-- What an extended mantissa says about the number that it approximates. -/
def Approximates (em : ExtendedMantissa) (t : ℚ) : Prop :=
  match em.roundBit, em.stickyBit with
  | false, false => t = em.mantissa
  | false, true => em.mantissa < t ∧ t < em.mantissa + 1 / 2
  | true, false => t = em.mantissa + 1 / 2
  | true, true => em.mantissa + 1 / 2 < t ∧ t < em.mantissa + 1

theorem Approximates.bounds {em : ExtendedMantissa} {t : ℚ} (approximates : Approximates em t) :
    em.mantissa ≤ t ∧ t < em.mantissa + 1 := by
  obtain ⟨m, round, sticky⟩ := em
  cases round <;> cases sticky <;> simp only [Approximates] at approximates ⊢ <;> constructor <;> linarith

theorem Approximates.shiftRightOne {em : ExtendedMantissa} {t : ℚ} (approximates : Approximates em t) :
    Approximates em.shiftRightOne (t / 2) := by
  obtain ⟨m, round, sticky⟩ := em
  obtain ⟨k, rfl | rfl⟩ := m.even_or_odd'
  · have half : 2 * k / 2 = k := by omega
    cases round <;> cases sticky <;>
      simp only [Approximates, ExtendedMantissa.shiftRightOne, half, Nat.mul_mod_right, bne_self_eq_false,
        Bool.or_false, Bool.or_true, Nat.cast_mul, Nat.cast_ofNat] at approximates ⊢
    · linarith
    all_goals constructor <;> linarith
  · have half : (2 * k + 1) / 2 = k := by omega
    have odd : ((2 * k + 1) % 2 != 0) = true := by simp [Nat.add_mod]
    cases round <;> cases sticky <;>
      simp only [Approximates, ExtendedMantissa.shiftRightOne, half, odd,
        Bool.or_false, Bool.or_true, Nat.cast_add, Nat.cast_one, Nat.cast_mul, Nat.cast_ofNat] at approximates ⊢
    · linarith
    all_goals constructor <;> linarith

theorem Approximates.shiftRight {em : ExtendedMantissa} {t : ℚ} (approximates : Approximates em t) (n : Nat) :
    Approximates (em >>> n) (t / 2 ^ n) := by
  induction n with
  | zero =>
      rw [pow_zero, div_one]
      exact approximates
  | succ n ih =>
      have step := ih.shiftRightOne
      rw [div_div, ← pow_succ] at step
      exact step

/-- The rounded mantissa is no farther from the number than a half, and nearer than that if it is odd. -/
theorem Approximates.near {em : ExtendedMantissa} {t : ℚ} (approximates : Approximates em t) :
    em.roundedMantissa - 1 / 2 ≤ t ∧ t ≤ em.roundedMantissa + 1 / 2 ∧
      (em.roundedMantissa % 2 = 1 → em.roundedMantissa - 1 / 2 < t ∧ t < em.roundedMantissa + 1 / 2) := by
  obtain ⟨k, round, sticky⟩ := em
  cases round <;> cases sticky <;>
    simp only [Approximates, ExtendedMantissa.roundedMantissa, ExtendedMantissa.accuracy,
      Accuracy.roundToNearestEven] at approximates ⊢
  · exact ⟨by linarith, by linarith, fun _ => ⟨by linarith, by linarith⟩⟩
  · exact ⟨by linarith, by linarith, fun _ => ⟨by linarith, by linarith⟩⟩
  · -- A half goes to the even neighbour.
    have even : (k + k % 2) % 2 = 0 := by omega
    have below : (k : ℚ) ≤ (k + k % 2 : Nat) := Nat.cast_le.mpr (Nat.le_add_right k _)
    have above : ((k + k % 2 : Nat) : ℚ) ≤ (k + 1 : Nat) := Nat.cast_le.mpr (by omega)
    push_cast at below above ⊢
    exact ⟨by linarith, by linarith, fun odd => by omega⟩
  · push_cast
    exact ⟨by linarith, by linarith, fun _ => ⟨by linarith, by linarith⟩⟩

theorem Approximates.roundedMantissa {em : ExtendedMantissa} {t : ℚ} {m : Nat} (approximates : Approximates em t)
    (low : m - 1 / 2 ≤ t) (high : t ≤ m + 1 / 2) (odd : m % 2 = 1 → m - 1 / 2 < t ∧ t < m + 1 / 2) :
    em.roundedMantissa = m := by
  obtain ⟨low', high', odd'⟩ := approximates.near
  generalize em.roundedMantissa = r at low' high' odd' ⊢
  have above : (m : ℚ) ≤ (r + 1 : Nat) := by push_cast; linarith
  have below : (r : ℚ) ≤ (m + 1 : Nat) := by push_cast; linarith
  rw [Nat.cast_le] at above below
  -- Of two neighbours one is odd, and the number cannot lie in the middle between them.
  rcases Nat.lt_trichotomy r m with less | same | more
  · obtain rfl : m = r + 1 := by omega
    push_cast at low odd
    rcases Nat.mod_two_eq_zero_or_one r with even | one
    · have strict := (odd (by omega)).1
      linarith
    · have strict := (odd' one).2
      linarith
  · exact same
  · obtain rfl : r = m + 1 := by omega
    push_cast at low' odd'
    rcases Nat.mod_two_eq_zero_or_one m with even | one
    · have strict := (odd' (by omega)).1
      linarith
    · have strict := (odd one).2
      linarith

/-! ### The exponent of a result -/

theorem targetExponent_eq (e : Int) : Format.binary64.targetExponent e = max (e - 53) (-1074) := rfl

/-- The numbers that are rounded to `m · 2 ^ q`: they are no farther from it than half the distance to the next double,
ends included just if `m` is even.  Below a power of two the doubles are twice as dense. -/
structure Encloses (m : Nat) (q : Int) (v : ℚ) : Prop where
  low : (if m = 2 ^ 52 ∧ -1074 < q then m - 1 / 4 else m - 1 / 2 : ℚ) * 2 ^ q ≤ v
  high : v ≤ (m + 1 / 2) * 2 ^ q
  odd : m % 2 = 1 → (m - 1 / 2) * 2 ^ q < v ∧ v < (m + 1 / 2) * 2 ^ q

theorem pow_log2_le {n : Nat} (positive : 0 < n) : (2 : ℚ) ^ (n.log2 : Int) ≤ n := by
  rw [zpow_natCast]
  exact_mod_cast Nat.log2_self_le positive.ne'

theorem succ_le_pow_log2 (n : Nat) : (n : ℚ) + 1 ≤ 2 ^ ((n.log2 : Int) + 1) := by
  have : n + 1 ≤ 2 ^ (n.log2 + 1) := Nat.lt_log2_self
  exact_mod_cast this

theorem two_zpow_add (a : Nat) (q : Int) : (2 : ℚ) ^ (a + q) = 2 ^ a * 2 ^ q := by
  rw [zpow_add₀ two_ne_zero, zpow_natCast]

theorem lt_of_two_zpow_lt {a b : Int} {v : ℚ} (low : (2 : ℚ) ^ a ≤ v) (high : v < 2 ^ b) : a < b :=
  (zpow_lt_zpow_iff_right₀ one_lt_two).mp (lt_of_le_of_lt low high)

/-- A number of a few units and a remainder lies below a power of two. -/
theorem lt_two_zpow_log2 {k : Nat} {e : Int} {v : ℚ} (high : v < (k + 1) * 2 ^ e) :
    v < 2 ^ (e + ((k.log2 : Int) + 1)) := by
  have le := mul_le_mul_of_nonneg_right (succ_le_pow_log2 k) (zpow_pos (two_pos (α := ℚ)) e).le
  rw [zpow_add₀ two_ne_zero]
  linarith

theorem two_zpow_log2_le {k : Nat} {e : Int} {v : ℚ} (some : 0 < k) (low : k * 2 ^ e ≤ v) :
    2 ^ (e + (k.log2 : Int)) ≤ v := by
  have le := mul_le_mul_of_nonneg_right (pow_log2_le some) (zpow_pos (two_pos (α := ℚ)) e).le
  rw [zpow_add₀ two_ne_zero]
  linarith

namespace Encloses

variable {m : Nat} {q : Int} {v : ℚ}

theorem half_below (near : Encloses m q v) : (m - 1 / 2) * 2 ^ q ≤ v := by
  refine le_trans (mul_le_mul_of_nonneg_right ?_ (zpow_pos two_pos q).le) near.low
  split <;> linarith

theorem lt_two_zpow (near : Encloses m q v) {b : Nat} (below : m < 2 ^ b) : v < 2 ^ (b + q) := by
  rw [two_zpow_add]
  have less : (m : ℚ) + 1 ≤ 2 ^ b := by exact_mod_cast below
  exact lt_of_le_of_lt near.high (mul_lt_mul_of_pos_right (by linarith) (zpow_pos two_pos q))

theorem two_zpow_le (near : Encloses m q v) (full : 2 ^ 52 ≤ m) : 2 ^ ((51 : Nat) + q) ≤ v := by
  rw [two_zpow_add]
  have large : (2 ^ 52 : ℚ) ≤ m := by exact_mod_cast full
  exact le_trans (mul_le_mul_of_nonneg_right (by linarith) (zpow_pos two_pos q).le) near.half_below

/-- Of the numbers with a full mantissa only those with the least one enclose what lies under a power of two. -/
theorem eq_of_lt (near : Encloses m q v) (full : 2 ^ 52 ≤ m) (short : v < 2 ^ 52 * 2 ^ q) : m = 2 ^ 52 := by
  have close : (m : ℚ) - 1 / 2 < 2 ^ 52 :=
    lt_of_mul_lt_mul_right (lt_of_le_of_lt near.half_below short) (zpow_pos two_pos q).le
  have close' : (m : ℚ) < (2 ^ 52 + 1 : Nat) := by push_cast; linarith
  rw [Nat.cast_lt] at close'
  omega

end Encloses

/-- The exponent that a result gets is that of the double it is rounded to, or the one below just under a power of
two. -/
theorem targetExponent_cases {m : Nat} {q : Int} {v : ℚ} (canonical : Canonical m q) (near : Encloses m q v) {k : Nat}
    {e : Int} (low : k * 2 ^ e ≤ v) (high : v < (k + 1) * 2 ^ e)
    (fine : e ≤ Format.binary64.targetExponent (totalExponent k e)) :
    Format.binary64.targetExponent (totalExponent k e) = q ∨
      Format.binary64.targetExponent (totalExponent k e) = q - 1 ∧ m = 2 ^ 52 ∧ -1074 < q ∧ v < 2 ^ 52 * 2 ^ q := by
  rw [targetExponent_eq, totalExponent] at fine ⊢
  obtain ⟨below, least, most, full⟩ := canonical
  have top := lt_two_zpow_log2 high
  -- In every case a power of two below the number and one above it leave a single exponent.
  rcases Nat.eq_zero_or_pos k with rfl | some
  · -- Nothing but a remainder: the number is below the least exponent.
    rw [Nat.log2_zero] at fine top ⊢
    left
    rcases full with normal | rfl
    · have order := lt_of_two_zpow_lt (near.two_zpow_le normal) top
      omega
    · omega
  · have bottom := two_zpow_log2_le some low
    rcases lt_or_ge m (2 ^ 52) with small | normal
    · -- A number this small has the least exponent.
      obtain rfl : q = -1074 := full.resolve_left (by omega)
      have order := lt_of_two_zpow_lt bottom (near.lt_two_zpow small)
      left
      omega
    · have order := lt_of_two_zpow_lt bottom (near.lt_two_zpow below)
      rcases le_or_gt (2 ^ 52 * 2 ^ q) v with whole | short
      · rw [← two_zpow_add] at whole
        have order' := lt_of_two_zpow_lt whole top
        left
        omega
      · have power := near.eq_of_lt normal short
        have order' := lt_of_two_zpow_lt (near.two_zpow_le normal) top
        rw [← two_zpow_add] at short
        have order'' := lt_of_two_zpow_lt bottom short
        rcases eq_or_lt_of_le least with rfl | more
        · left
          omega
        · right
          rw [← two_zpow_add]
          exact ⟨by omega, power, more, short⟩

/-! ### Rounding -/

theorem ofMantissaAndAccuracy_mantissa (m : Nat) (accuracy : Accuracy) :
    (ExtendedMantissa.ofMantissaAndAccuracy m accuracy).mantissa = m := by
  unfold ExtendedMantissa.ofMantissaAndAccuracy
  split <;> rfl

/-- A mantissa and an exponent as a double has them, except that the exponent may be too large. -/
structure Adjusted (m : Nat) (q : Int) : Prop where
  below : m < 2 ^ 53
  least : -1074 ≤ q
  full : 2 ^ 52 ≤ m ∨ q = -1074

theorem Canonical.adjusted {m : Nat} {q : Int} (canonical : Canonical m q) : Adjusted m q :=
  ⟨canonical.below, canonical.least, canonical.full⟩

theorem targetExponent_adjusted {m : Nat} {q : Int} (adjusted : Adjusted m q) (positive : 0 < m) :
    Format.binary64.targetExponent (totalExponent m q) = q := by
  rw [targetExponent_eq, totalExponent]
  obtain ⟨below, least, full⟩ := adjusted
  have upper := (Nat.log2_lt positive.ne').mpr below
  have lower := Nat.le_log2 (k := 52) positive.ne'
  omega

theorem shiftToTargetExponent_adjusted {m : Nat} {q : Int} (adjusted : Adjusted m q) (positive : 0 < m) :
    shiftToTargetExponent Format.binary64 m q .exact = (⟨m, false, false⟩, q) := by
  rw [shiftToTargetExponent, targetExponent_adjusted adjusted positive]
  unfold shiftToExponent
  rw [Int.sub_self, Int.toNat_zero]
  exact congrArg _ (Int.add_zero q)

/-- A mantissa that has got one bit more by rounding. -/
theorem shiftToTargetExponent_carry {q : Int} (least : -1074 < q) :
    shiftToTargetExponent Format.binary64 (2 ^ 53) (q - 1) .exact = (⟨2 ^ 52, false, false⟩, q) := by
  have target : Format.binary64.targetExponent (totalExponent (2 ^ 53) (q - 1)) = q := by
    rw [targetExponent_eq, totalExponent, Nat.log2_two_pow]
    omega
  rw [shiftToTargetExponent, target]
  unfold shiftToExponent
  have one : (q - (q - 1)).toNat = 1 := by omega
  rw [one]
  exact congrArg _ (Int.sub_add_cancel q 1)

/-- At the exponent of the double the mantissa is rounded to that of the double. -/
theorem Approximates.rounds {em : ExtendedMantissa} {m : Nat} {q : Int} {v : ℚ}
    (approximates : Approximates em (v / 2 ^ q)) (near : Encloses m q v) : em.roundedMantissa = m := by
  have unit : (0 : ℚ) < 2 ^ q := zpow_pos two_pos q
  refine approximates.roundedMantissa ?_ ?_ ?_
  · rw [le_div_iff₀ unit]
    exact near.half_below
  · rw [div_le_iff₀ unit]
    exact near.high
  · intro odd
    rw [lt_div_iff₀ unit, div_lt_iff₀ unit]
    exact near.odd odd

/-- Just under a power of two, where the doubles are twice as dense, the mantissa is rounded up to that power. -/
theorem Approximates.rounds_up {em : ExtendedMantissa} {q : Int} {v : ℚ}
    (approximates : Approximates em (v / 2 ^ (q - 1))) (near : Encloses (2 ^ 52) q v) (least : -1074 < q)
    (short : v < 2 ^ 52 * 2 ^ q) : em.roundedMantissa = 2 ^ 53 := by
  have unit : (0 : ℚ) < 2 ^ (q - 1) := zpow_pos two_pos (q - 1)
  have twice : (2 : ℚ) ^ q = 2 * 2 ^ (q - 1) := by
    rw [← zpow_one_add₀ two_ne_zero, add_sub_cancel]
  have low := near.low
  rw [if_pos ⟨rfl, least⟩, twice] at low
  rw [twice] at short
  refine approximates.roundedMantissa ?_ ?_ ?_
  · rw [le_div_iff₀ unit]
    push_cast at low ⊢
    linarith
  · rw [div_le_iff₀ unit]
    push_cast
    linarith
  · intro odd
    exact absurd odd (by decide)

/-- The first shift goes to the exponent of the result, and the bits that it drops leave what is said about the number
true. -/
theorem Approximates.exists_shift {k : Nat} {e : Int} {v : ℚ} {accuracy : Accuracy}
    (approximates : Approximates (.ofMantissaAndAccuracy k accuracy) (v / 2 ^ e))
    (fine : e ≤ Format.binary64.targetExponent (totalExponent k e)) :
    ∃ em, shiftToTargetExponent Format.binary64 k e accuracy =
        (em, Format.binary64.targetExponent (totalExponent k e)) ∧
      Approximates em (v / 2 ^ Format.binary64.targetExponent (totalExponent k e)) := by
  rw [shiftToTargetExponent]
  generalize Format.binary64.targetExponent (totalExponent k e) = q at fine
  obtain ⟨n, rfl⟩ : ∃ n : Nat, q = e + n := ⟨(q - e).toNat, by omega⟩
  have dropped := approximates.shiftRight n
  rw [div_div, ← zpow_natCast, ← zpow_add₀ two_ne_zero] at dropped
  refine ⟨ExtendedMantissa.ofMantissaAndAccuracy k accuracy >>> n, ?_, dropped⟩
  rw [shiftToExponent, add_sub_cancel_left, Int.toNat_natCast]

/-- The first shift brings the number to its exponent, or to the one below it just under a power of two. -/
theorem roundedMantissa_shift {m : Nat} {q : Int} {v : ℚ} (canonical : Canonical m q) (near : Encloses m q v) {k : Nat}
    {e : Int} {accuracy : Accuracy} (approximates : Approximates (.ofMantissaAndAccuracy k accuracy) (v / 2 ^ e))
    (fine : e ≤ Format.binary64.targetExponent (totalExponent k e)) :
    ∃ em e', shiftToTargetExponent Format.binary64 k e accuracy = (em, e') ∧
      (em.roundedMantissa = m ∧ e' = q ∨ em.roundedMantissa = 2 ^ 53 ∧ e' = q - 1 ∧ m = 2 ^ 52 ∧ -1074 < q) := by
  have unit : (0 : ℚ) < 2 ^ e := zpow_pos two_pos e
  obtain ⟨low, high⟩ := approximates.bounds
  rw [ofMantissaAndAccuracy_mantissa] at low high
  rw [le_div_iff₀ unit] at low
  rw [div_lt_iff₀ unit] at high
  have target := targetExponent_cases canonical near low high fine
  obtain ⟨em, shifted, there⟩ := approximates.exists_shift fine
  refine ⟨em, _, shifted, ?_⟩
  rcases target with same | ⟨same, rfl, least, short⟩
  · rw [same] at there ⊢
    exact .inl ⟨there.rounds near, rfl⟩
  · rw [same] at there ⊢
    exact .inr ⟨there.rounds_up near least short, rfl, rfl, least⟩

/-- **Rounding gives the nearest double.** -/
theorem roundWithAccuracy_eq {s : Sign} {m : Nat} {q : Int} {v : ℚ} (canonical : Canonical m q) (positive : 0 < m)
    (near : Encloses m q v) {k : Nat} {e : Int} {accuracy : Accuracy}
    (approximates : Approximates (.ofMantissaAndAccuracy k accuracy) (v / 2 ^ e))
    (fine : e ≤ Format.binary64.targetExponent (totalExponent k e)) :
    roundWithAccuracy Format.binary64 s k e accuracy = .finite s m q positive := by
  obtain ⟨em, e', first, ⟨rounded, rfl⟩ | ⟨rounded, rfl, rfl, least⟩⟩ :=
    roundedMantissa_shift canonical near approximates fine
  · unfold roundWithAccuracy
    simp only [first, rounded, shiftToTargetExponent_adjusted canonical.adjusted positive]
    exact dif_neg positive.ne'
  · unfold roundWithAccuracy
    simp only [first, rounded, shiftToTargetExponent_carry least]
    rfl

end EditHistory.Number
