import EditHistory.Number.Shortest
import EditHistory.Proofs.Number.Decimal
import Mathlib.Data.List.TakeWhile

/-!
# The digits that are picked read back

Whatever grid the search for few digits ends on, the number it picks is rounded to the double again: on the coarser
grids because this has been tested, and on the grid of seventeen digits because that is finer than the doubles are.

## Main definitions

* `Fraction.value` — the rational number that a fraction is
* `Decimal.Writes` — digits that are rounded to a double

## Main statements

* `encloses_of_readsBack` — what the test says
* `shortest_writes` — the digits that are picked
-/

namespace EditHistory.Number

/-! ### Fractions -/

namespace Fraction

/-- The rational number that a fraction is. -/
def value (x : Fraction) : ℚ := x.num / x.den

theorem den_ofBinary (m : Nat) (q : Int) : 0 < (ofBinary m q).den := by
  unfold ofBinary
  split
  · exact Nat.one_pos
  · exact Nat.pow_pos two_pos

theorem value_ofBinary (m : Nat) (q : Int) : (ofBinary m q).value = m * 2 ^ q := by
  unfold ofBinary value
  split
  · rename_i whole
    obtain ⟨k, rfl⟩ := Int.eq_ofNat_of_zero_le whole
    rw [Int.toNat_natCast, zpow_natCast, Nat.pow_eq]
    push_cast
    rw [div_one]
  · rename_i fraction
    obtain ⟨k, rfl⟩ : ∃ k : Nat, q = -k := ⟨(-q).toNat, by omega⟩
    rw [neg_neg, Int.toNat_natCast, zpow_neg, zpow_natCast, div_eq_mul_inv, Nat.pow_eq]
    push_cast
    rfl

theorem den_scale {x : Fraction} (positive : 0 < x.den) (e : Int) : 0 < (x.scale e).den := by
  unfold scale
  split
  · exact positive
  · exact Nat.mul_pos positive (Nat.pow_pos (by decide))

theorem value_scale (x : Fraction) (e : Int) : (x.scale e).value = x.value * 10 ^ e := by
  unfold scale value
  split
  · rename_i whole
    obtain ⟨k, rfl⟩ := Int.eq_ofNat_of_zero_le whole
    rw [Int.toNat_natCast, zpow_natCast, Nat.pow_eq]
    push_cast
    exact mul_div_right_comm _ _ _
  · rename_i fraction
    obtain ⟨k, rfl⟩ : ∃ k : Nat, e = -k := ⟨(-e).toNat, by omega⟩
    rw [neg_neg, Int.toNat_natCast, zpow_neg, zpow_natCast, Nat.pow_eq]
    push_cast
    rw [← div_div, div_eq_mul_inv _ ((10 : ℚ) ^ k)]

theorem lt_iff {x y : Fraction} (positive : 0 < x.den) (positive' : 0 < y.den) :
    x.lt y = true ↔ x.value < y.value := by
  have unit : (0 : ℚ) < x.den := by exact_mod_cast positive
  have unit' : (0 : ℚ) < y.den := by exact_mod_cast positive'
  rw [lt, decide_eq_true_iff, value, value, div_lt_div_iff₀ unit unit']
  exact_mod_cast Iff.rfl

theorem le_iff {x y : Fraction} (positive : 0 < x.den) (positive' : 0 < y.den) :
    x.le y = true ↔ x.value ≤ y.value := by
  have unit : (0 : ℚ) < x.den := by exact_mod_cast positive
  have unit' : (0 : ℚ) < y.den := by exact_mod_cast positive'
  rw [le, decide_eq_true_iff, value, value, div_le_div_iff₀ unit unit']
  exact_mod_cast Iff.rfl

/-- Rounding moves a number by a half at most. -/
theorem abs_round_sub_le {x : Fraction} (positive : 0 < x.den) : |x.round - x.value| ≤ 1 / 2 := by
  have unit : (0 : ℚ) < x.den := by exact_mod_cast positive
  have split : x.value = (x.num / x.den : Nat) + (x.num % x.den : Nat) / x.den := by
    rw [value, eq_comm, add_div_eq_mul_add_div _ _ unit.ne', div_left_inj' unit.ne']
    exact_mod_cast Nat.div_add_mod' x.num x.den
  have less : ((x.num % x.den : Nat) : ℚ) / x.den ≤ 1 := by
    rw [div_le_iff₀ unit, one_mul]
    exact_mod_cast (Nat.mod_lt x.num positive).le
  have least : (0 : ℚ) ≤ (x.num % x.den : Nat) / x.den := by positivity
  have down (half : 2 * (x.num % x.den) ≤ x.den) : ((x.num % x.den : Nat) : ℚ) / x.den ≤ 1 / 2 := by
    rw [div_le_div_iff₀ unit two_pos]
    exact_mod_cast (by omega : x.num % x.den * 2 ≤ 1 * x.den)
  have up (half : x.den ≤ 2 * (x.num % x.den)) : 1 / 2 ≤ ((x.num % x.den : Nat) : ℚ) / x.den := by
    rw [div_le_div_iff₀ two_pos unit]
    exact_mod_cast (by omega : 1 * x.den ≤ x.num % x.den * 2)
  rw [split, abs_le]
  unfold round
  simp only
  split_ifs with below above
  · have := down below.le
    constructor <;> linarith
  · have := up above.le
    push_cast
    constructor <;> linarith
  · have := down (by omega)
    constructor <;> linarith
  · have := up (by omega)
    push_cast
    constructor <;> linarith

/-- The place of the point is no higher than it must be. -/
theorem ten_pow_point_le {m : Nat} {q : Int} (canonical : Canonical m q) (positive : 0 < m) :
    (10 : ℚ) ^ ((ofBinary m q).point - 1) ≤ m * 2 ^ q := by
  have den := den_scale (den_ofBinary m q) 400
  have value : ((ofBinary m q).scale 400).value = m * 2 ^ q * 10 ^ (400 : Int) := by rw [value_scale, value_ofBinary]
  unfold point
  simp only
  generalize (ofBinary m q).scale 400 = y at den value
  have unit : (0 : ℚ) < y.den := by exact_mod_cast den
  have floor : ((y.num / y.den : Nat) : ℚ) ≤ m * 2 ^ q * 10 ^ (400 : Int) := by
    rw [← value, Fraction.value, le_div_iff₀ unit]
    exact_mod_cast Nat.div_mul_le_self y.num y.den
  have some : 0 < y.num / y.den := by
    have one : (1 : ℚ) ≤ y.value := by
      have least := ((encloses_self q).range canonical positive).1
      have large : (1 : ℚ) ≤ 10 ^ (-324 : Int) * 10 ^ (400 : Int) := by
        rw [← zpow_add₀ (by norm_num)]
        exact one_le_zpow₀ (by norm_num) (by decide)
      rw [value]
      refine le_trans large (mul_le_mul_of_nonneg_right ?_ (zpow_pos (by norm_num) _).le)
      exact le_trans ten_pow_neg_le_two_pow_neg least
    rw [Fraction.value, le_div_iff₀ unit, one_mul] at one
    exact Nat.div_pos (by exact_mod_cast one) den
  obtain ⟨l, length, low, -⟩ := exists_decimalLength (lt_pow_log2 (y.num / y.den)) some
  rw [length_digitsOf, length]
  have scaled : (10 : ℚ) ^ l ≤ m * 2 ^ q * 10 ^ (400 : Int) := le_trans (by exact_mod_cast low) floor
  have back : (((l + 1 : Nat) : Int) - 400 - 1) = l - 400 := by omega
  rw [back, zpow_sub₀ (by norm_num), div_le_iff₀ (zpow_pos (by norm_num) _), zpow_natCast]
  exact scaled

end Fraction

/-- What the test says of a number that passes it. -/
theorem encloses_of_readsBack {m : Nat} {q : Int} {x : Fraction} (positive : 0 < m) (den : 0 < x.den)
    (reads : readsBack m q x = true) : Encloses m q x.value := by
  have quarter : (2 : ℚ) ^ q = 4 * 2 ^ (q - 2) := by
    rw [show (4 : ℚ) = 2 ^ (2 : Int) by norm_num, ← zpow_add₀ two_ne_zero, add_sub_cancel]
  have high : (Fraction.ofBinary (4 * m + 2) (q - 2)).value = (m + 1 / 2) * 2 ^ q := by
    rw [Fraction.value_ofBinary, quarter]
    push_cast
    ring
  have low : (Fraction.ofBinary (if m = Nat.pow 2 52 ∧ -1074 < q then 4 * m - 1 else 4 * m - 2) (q - 2)).value =
      (if m = 2 ^ 52 ∧ -1074 < q then m - 1 / 4 else m - 1 / 2 : ℚ) * 2 ^ q := by
    rw [Fraction.value_ofBinary, quarter]
    simp only [Nat.pow_eq]
    split
    · rw [Nat.cast_sub (by omega)]
      push_cast
      ring
    · rw [Nat.cast_sub (by omega)]
      push_cast
      ring
  unfold readsBack at reads
  simp only at reads
  split at reads
  · rename_i even
    rw [Bool.and_eq_true, Fraction.le_iff (Fraction.den_ofBinary _ _) den,
      Fraction.le_iff den (Fraction.den_ofBinary _ _), low, high] at reads
    exact ⟨reads.1, reads.2, fun odd => by omega⟩
  · rename_i odd
    rw [Bool.and_eq_true, Fraction.lt_iff (Fraction.den_ofBinary _ _) den,
      Fraction.lt_iff den (Fraction.den_ofBinary _ _), low, high] at reads
    refine ⟨reads.1.le, reads.2.le, fun _ => ⟨?_, reads.2⟩⟩
    rw [if_neg (by omega)] at reads
    exact reads.1

/-- A number this close to a double is rounded to it. -/
theorem encloses_of_close {m : Nat} {q : Int} {v : ℚ} (canonical : Canonical m q)
    (close : |v - m * 2 ^ q| ≤ m * 2 ^ q / (2 * 10 ^ 16)) : Encloses m q v := by
  have unit : (0 : ℚ) < 2 ^ q := zpow_pos two_pos q
  have less : (m : ℚ) + 1 ≤ 2 ^ 53 := by exact_mod_cast canonical.below
  obtain ⟨above, below⟩ := abs_le.mp close
  have step : (m : ℚ) * 2 ^ q / (2 * 10 ^ 16) < 1 / 2 * 2 ^ q := by
    rw [div_lt_iff₀ (by norm_num)]
    nlinarith
  constructor
  · split_ifs with power
    · have small : (m : ℚ) * 2 ^ q / (2 * 10 ^ 16) < 1 / 4 * 2 ^ q := by
        rw [power.1, div_lt_iff₀ (by norm_num)]
        push_cast
        nlinarith
      linarith
    · linarith
  · linarith
  · intro _
    constructor <;> linarith

/-! ### Digits -/

/-- Digits that are rounded to `m · 2 ^ q`, the first of them not zero. -/
structure Decimal.Writes (d : Decimal) (m : Nat) (q : Int) : Prop where
  first : ∃ c cs, d.digits = c :: cs ∧ c ≠ 0
  small : ∀ c ∈ d.digits, c < 10
  near : Encloses m q (Text.ofDigits d.digits * 10 ^ (d.point - d.digits.length))

/-- The most significant digit of a number is not zero. -/
theorem digitsOf_eq_cons {n : Nat} (positive : 0 < n) : ∃ c cs, digitsOf n = c :: cs ∧ c ≠ 0 := by
  have last (fuel n : Nat) (room : n < 10 ^ fuel) (positive : 0 < n) :
      ∃ ds c, digitsUpTo fuel n = ds ++ [c] ∧ c ≠ 0 := by
    induction fuel generalizing n with
    | zero =>
        rw [Nat.pow_zero] at room
        omega
    | succ fuel ih =>
        rw [digitsUpTo, if_neg positive.ne']
        rcases Nat.eq_zero_or_pos (n / 10) with single | more
        · refine ⟨[], n % 10, ?_, by omega⟩
          rw [single]
          cases fuel <;> rfl
        · rw [Nat.pow_succ] at room
          obtain ⟨ds, c, split, some⟩ := ih (n / 10) (by omega) more
          exact ⟨n % 10 :: ds, c, by rw [split]; rfl, some⟩
  obtain ⟨ds, c, split, some⟩ := last _ n (lt_pow_log2 n) positive
  exact ⟨c, ds.reverse, by rw [digitsOf, split, List.reverse_append]; rfl, some⟩

/-- Digits without the zeros at their end, and those zeros. -/
theorem eq_append_zeros (ds : List Nat) :
    ∃ k, ds = (ds.reverse.dropWhile (· == 0)).reverse ++ List.replicate k 0 := by
  have zeros : ∀ d ∈ ds.reverse.takeWhile (· == 0), d = 0 := fun d mem => by
    simpa using List.mem_takeWhile_imp mem
  refine ⟨(ds.reverse.takeWhile (· == 0)).length, ?_⟩
  calc ds = (ds.reverse.takeWhile (· == 0) ++ ds.reverse.dropWhile (· == 0)).reverse := by
        rw [List.takeWhile_append_dropWhile, List.reverse_reverse]
    _ = (ds.reverse.dropWhile (· == 0)).reverse ++ (ds.reverse.takeWhile (· == 0)).reverse := List.reverse_append
    _ = _ := by rw [List.eq_replicate_of_mem zeros, List.reverse_replicate, List.length_replicate]

/-- Without the zeros at their end the digits of a number still write it. -/
theorem writes_ofScaled {m n : Nat} {q e : Int} (positive : 0 < n) (near : Encloses m q (n * 10 ^ e)) :
    (Decimal.ofScaled n e).Writes m q := by
  obtain ⟨k, split⟩ := eq_append_zeros (digitsOf n)
  obtain ⟨c, cs, digits, some⟩ := digitsOf_eq_cons positive
  have small : ∀ d ∈ digitsOf n, d < 10 := fun d mem => lt_of_mem_digitsUpTo (List.mem_reverse.mp mem)
  unfold Decimal.ofScaled
  simp only
  generalize ((digitsOf n).reverse.dropWhile (· == 0)).reverse = ds at split ⊢
  constructor
  · cases ds with
    | nil =>
        -- All digits would be zero.
        rw [List.nil_append, digits] at split
        have zero : c = 0 := List.eq_of_mem_replicate (split ▸ List.mem_cons_self)
        exact absurd zero some
    | cons d ds =>
        rw [digits, List.cons_append] at split
        exact ⟨d, ds, rfl, (List.cons.inj split).1 ▸ some⟩
  · intro d mem
    exact small d (split ▸ List.mem_append_left _ mem)
  · have value : (Text.ofDigits ds : ℚ) * 10 ^ (e + (digitsOf n).length - ds.length) = n * 10 ^ e := by
      have whole := ofDigits_digitsOf n
      rw [split, ofDigits_append, ofDigits_replicate_zero, List.length_replicate, Nat.add_zero] at whole
      have scale : e + ((digitsOf n).length : Int) - ds.length = k + e := by
        rw [split, List.length_append, List.length_replicate]
        omega
      rw [scale, ← whole, zpow_add₀ (by norm_num), zpow_natCast]
      push_cast
      ring
    rw [value]
    exact near

/-! ### The search -/

/-- On the grid of seventeen digits the nearest number reads back. -/
theorem encloses_of_round {m : Nat} {q p : Int} (canonical : Canonical m q) (low : (10 : ℚ) ^ (p - 1) ≤ m * 2 ^ q) :
    Encloses m q (((Fraction.ofBinary m q).scale (-(p - 17))).round * 10 ^ (p - 17)) := by
  have rounds := Fraction.abs_round_sub_le (Fraction.den_scale (Fraction.den_ofBinary m q) (-(p - 17)))
  rw [Fraction.value_scale, Fraction.value_ofBinary, zpow_neg] at rounds
  generalize ((Fraction.ofBinary m q).scale (-(p - 17))).round = n at rounds ⊢
  have unit : (0 : ℚ) < 10 ^ (p - 17) := zpow_pos (by norm_num) _
  have step : (10 : ℚ) ^ (p - 17) * 10 ^ 16 = 10 ^ (p - 1) := by
    rw [← zpow_natCast, ← zpow_add₀ (by norm_num)]
    congr 1
    omega
  refine encloses_of_close canonical ?_
  calc |(n : ℚ) * 10 ^ (p - 17) - m * 2 ^ q|
      = |(n : ℚ) - m * 2 ^ q * (10 ^ (p - 17))⁻¹| * 10 ^ (p - 17) := by
        rw [← abs_of_pos unit, ← abs_mul, abs_of_pos unit, sub_mul, inv_mul_cancel_right₀ unit.ne']
    _ ≤ 1 / 2 * 10 ^ (p - 17) := mul_le_mul_of_nonneg_right rounds unit.le
    _ = 10 ^ (p - 1) / (2 * 10 ^ 16) := by
        rw [← step]
        ring
    _ ≤ m * 2 ^ q / (2 * 10 ^ 16) := div_le_div_of_nonneg_right low (by norm_num)

theorem writes_of_readsBack {m n : Nat} {q e : Int} (canonical : Canonical m q) (positive : 0 < m)
    (reads : readsBack m q (Fraction.scale ⟨n, 1⟩ e) = true) : (Decimal.ofScaled n e).Writes m q := by
  have near := encloses_of_readsBack positive (Fraction.den_scale Nat.one_pos e) reads
  rw [Fraction.value_scale, Fraction.value, Nat.cast_one, div_one] at near
  exact writes_ofScaled (near.pos_of_mul canonical positive) near

theorem shortestFrom_writes {m : Nat} {q p : Int} (canonical : Canonical m q) (positive : 0 < m)
    (low : (10 : ℚ) ^ (p - 1) ≤ m * 2 ^ q) {fuel count : Nat} (grids : fuel + count = 17) :
    (shortestFrom m q p fuel count).Writes m q := by
  -- Of two neighbours on a grid the first that passes the test is taken, or else a finer grid.
  have chosen {n n' : Nat} {e : Int} {finer : Decimal} (later : finer.Writes m q) :
      (if readsBack m q (Fraction.scale ⟨n, 1⟩ e) then Decimal.ofScaled n e
        else if readsBack m q (Fraction.scale ⟨n', 1⟩ e) then Decimal.ofScaled n' e else finer).Writes m q := by
    split_ifs with reads reads
    · exact writes_of_readsBack canonical positive reads
    · exact writes_of_readsBack canonical positive reads
    · exact later
  induction fuel generalizing count with
  | zero =>
      obtain rfl : count = 17 := by omega
      rw [shortestFrom]
      have near := encloses_of_round canonical low
      exact writes_ofScaled (near.pos_of_mul canonical positive) near
  | succ fuel ih =>
      rw [shortestFrom]
      exact chosen (ih (by omega))

/-- **The digits that are picked read back.** -/
theorem shortest_writes {m : Nat} {q : Int} (canonical : Canonical m q) (positive : 0 < m) :
    (shortest m q).Writes m q := by
  rw [shortest, if_neg positive.ne']
  exact shortestFrom_writes canonical positive (Fraction.ten_pow_point_le canonical positive) rfl

end EditHistory.Number
