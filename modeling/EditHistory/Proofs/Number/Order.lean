import EditHistory.Proofs.Number.Quotient
import Mathlib.Order.Compare

/-!
# The order of doubles

Doubles are compared by their parts: first the exponents, and then the mantissas.  Because a mantissa has its full width
unless the exponent is the least one, this is the order of the numbers that they are.

Here it is the order of doubles that are not negative, infinity among them.

## Main definitions

* `IsMagnitude` — the number that a finite double is

## Main statements

* `Canonical.compare_eq` — comparing the parts is comparing the numbers
* `IsMagnitude.lt_iff` — the order of finite doubles
* `IsMagnitude.lt_of_infinite` — infinity is above all of them
* `zero_lt_iff` — what is greater than zero
* `eq_of_beq` — a positive double is equal to itself only
-/

namespace EditHistory.Number

open Float.Model Float.Model.UnpackedFloat

/-- A larger exponent makes up for every mantissa. -/
theorem Canonical.lt_of_exponent_lt {m m' : Nat} {q q' : Int} (small : Canonical m q) (large : Canonical m' q')
    (less : q < q') : (m * 2 ^ q : ℚ) < m' * 2 ^ q' := by
  obtain ⟨below, least, -, -⟩ := small
  have full : 2 ^ 52 ≤ m' := large.full.resolve_right (by omega)
  have top : (m : ℚ) < 2 ^ 53 := by exact_mod_cast below
  have bottom : (2 ^ 52 : ℚ) ≤ m' := by exact_mod_cast full
  have unit : (0 : ℚ) < 2 ^ q := zpow_pos two_pos q
  have next : (2 : ℚ) ^ q * 2 ≤ 2 ^ q' := by
    rw [← zpow_add_one₀ two_ne_zero]
    exact zpow_le_zpow_right₀ one_le_two less
  calc (m * 2 ^ q : ℚ) < 2 ^ 53 * 2 ^ q := mul_lt_mul_of_pos_right top unit
    _ = 2 ^ 52 * (2 ^ q * 2) := by ring
    _ ≤ 2 ^ 52 * 2 ^ q' := mul_le_mul_of_nonneg_left next (by positivity)
    _ ≤ m' * 2 ^ q' := mul_le_mul_of_nonneg_right bottom (zpow_pos two_pos q').le

/-- **Comparing the parts is comparing the numbers.** -/
theorem Canonical.compare_eq {m m' : Nat} {q q' : Int} (first : Canonical m q) (second : Canonical m' q') :
    (compare q q').then (compare m m') = compare (m * 2 ^ q : ℚ) (m' * 2 ^ q') := by
  rcases lt_trichotomy q q' with less | rfl | more
  · rw [compare_lt_iff_lt.mpr less, compare_lt_iff_lt.mpr (first.lt_of_exponent_lt second less)]
    rfl
  · have unit : (0 : ℚ) < 2 ^ q := zpow_pos two_pos q
    rw [compare_eq_iff_eq.mpr rfl, Ordering.eq_then]
    rcases lt_trichotomy m m' with less | rfl | more
    · rw [compare_lt_iff_lt.mpr less, eq_comm, compare_lt_iff_lt]
      exact mul_lt_mul_of_pos_right (Nat.cast_lt.mpr less) unit
    · rw [compare_eq_iff_eq.mpr rfl, compare_eq_iff_eq.mpr rfl]
    · rw [compare_gt_iff_gt.mpr more, eq_comm, compare_gt_iff_gt]
      exact mul_lt_mul_of_pos_right (Nat.cast_lt.mpr more) unit
  · rw [compare_gt_iff_gt.mpr more, compare_gt_iff_gt.mpr (second.lt_of_exponent_lt first more)]
    rfl

/-- The number that a finite double is, if it is not negative. -/
def IsMagnitude (x : Float) (d : ℚ) : Prop :=
  ∃ m q, parts x = .finite false m q ∧ (m * 2 ^ q : ℚ) = d

variable {x y : Float} {m m' : Nat} {q q' : Int} {a b : ℚ}

/-- The unpacked form of a finite double that is not negative. -/
theorem unpack_cases (here : parts x = .finite false m q) :
    (m = 0 ∧ x.toModel.unpack = .zero .positive) ∨
      ∃ positive : 0 < m, x.toModel.unpack = .finite .positive m q positive := by
  rcases Nat.eq_zero_or_pos m with rfl | positive
  · have least : q = -1074 := (canonical_of_parts here).full.resolve_left (by decide)
    subst least
    rw [parts_eq] at here
    exact Or.inl ⟨rfl, partsOf_injective here⟩
  · exact Or.inr ⟨positive, unpack_of_parts positive here⟩

theorem compare_of_parts (left : parts x = .finite false m q) (right : parts y = .finite false m' q') :
    x.toModel.unpack.compare y.toModel.unpack = some (compare (m * 2 ^ q : ℚ) (m' * 2 ^ q')) := by
  have magnitude {k : Nat} (e : Int) (positive : 0 < k) : (0 : ℚ) < k * 2 ^ e :=
    mul_pos (Nat.cast_pos.mpr positive) (zpow_pos two_pos e)
  rcases unpack_cases left with ⟨rfl, first⟩ | ⟨positive, first⟩ <;>
    rcases unpack_cases right with ⟨rfl, second⟩ | ⟨positive', second⟩ <;>
    rw [first, second]
  · rw [Nat.cast_zero, zero_mul, zero_mul, compare_eq_iff_eq.mpr rfl]
    rfl
  · rw [Nat.cast_zero, zero_mul, compare_lt_iff_lt.mpr (magnitude q' positive')]
    rfl
  · rw [Nat.cast_zero, zero_mul, compare_gt_iff_gt.mpr (magnitude q positive)]
    rfl
  · rw [← (canonical_of_parts left).compare_eq (canonical_of_parts right)]
    rfl

theorem lt_iff_compare : x < y ↔ x.toModel.unpack.compare y.toModel.unpack = some .lt := by
  show decide (x.toModel < y.toModel) = true ↔ _
  rw [decide_eq_true_iff]
  exact beq_iff_eq

/-- **The order of finite doubles** is that of the numbers. -/
theorem IsMagnitude.lt_iff (left : IsMagnitude x a) (right : IsMagnitude y b) : x < y ↔ a < b := by
  obtain ⟨m, q, here, rfl⟩ := left
  obtain ⟨m', q', there, rfl⟩ := right
  rw [lt_iff_compare, compare_of_parts here there, Option.some.injEq, compare_lt_iff_lt]

/-! ### Infinity -/

theorem unpack_of_infinite (infinite : parts x = .infinite false) : x.toModel.unpack = .infinity .positive := by
  rw [parts_eq] at infinite
  exact partsOf_injective infinite

/-- Infinity is above all finite doubles. -/
theorem IsMagnitude.lt_of_infinite (left : IsMagnitude x a) (infinite : parts y = .infinite false) : x < y := by
  obtain ⟨m, q, here, -⟩ := left
  rw [lt_iff_compare, unpack_of_infinite infinite]
  rcases unpack_cases here with ⟨-, first⟩ | ⟨positive, first⟩ <;> rw [first] <;> rfl

theorem IsMagnitude.not_infinite_lt (right : IsMagnitude y b) (infinite : parts x = .infinite false) : ¬ x < y := by
  obtain ⟨m, q, here, -⟩ := right
  rw [lt_iff_compare, unpack_of_infinite infinite]
  rcases unpack_cases here with ⟨-, second⟩ | ⟨positive, second⟩ <;> rw [second] <;> nofun

/-! ### Zero -/

theorem parts_zero : parts 0.0 = .finite false 0 (-1074) := by decide +kernel

/-- **What is greater than zero** is a positive double or infinity. -/
theorem zero_lt_iff : 0.0 < x ↔ IsPositive x ∨ parts x = .infinite false := by
  have zero : (0.0 : Float).toModel.unpack = .zero .positive :=
    ((unpack_cases parts_zero).resolve_right fun ⟨positive, _⟩ => positive.false).2
  rw [lt_iff_compare, zero, IsPositive]
  simp only [parts_eq]
  cases x.toModel.unpack with
  | notANumber => simp [partsOf, UnpackedFloat.compare]
  | infinity s => cases s <;> simp [partsOf, isNegative, UnpackedFloat.compare]
  | zero s => cases s <;> simp [partsOf, isNegative, UnpackedFloat.compare]
  | finite s m q positive => cases s <;> simp [partsOf, isNegative, UnpackedFloat.compare, positive]

/-- A positive double is equal to itself only. -/
theorem eq_of_beq (positive : IsPositive x) (same : (x == y) = true) : x = y := by
  obtain ⟨m, q, some, here⟩ := positive
  have equal : x.toModel.unpack.compare y.toModel.unpack = Option.some .eq := beq_iff_eq.mp same
  rw [unpack_of_parts some here] at equal
  refine parts_injective (here.trans ?_)
  rw [parts_eq y]
  cases other : y.toModel.unpack with
  | notANumber => simp [other, UnpackedFloat.compare] at equal
  | infinity s => cases s <;> simp [other, UnpackedFloat.compare] at equal
  | zero s => simp [other, UnpackedFloat.compare] at equal
  | finite s m' q' positive =>
      cases s with
      | negative => simp [other, UnpackedFloat.compare] at equal
      | positive =>
          rw [other] at equal
          have both : (compare q q').then (compare m m') = .eq := Option.some.inj equal
          rw [Ordering.then_eq_eq, compare_eq_iff_eq, compare_eq_iff_eq] at both
          rw [both.1, both.2]
          rfl

end EditHistory.Number
