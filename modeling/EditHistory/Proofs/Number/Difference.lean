import EditHistory.Proofs.Number.Integer
import EditHistory.Proofs.Number.Order

/-!
# The distance of two doubles

A difference is rounded from its exact value.  Rounding keeps the order, and it leaves alone what needs no rounding: so
a number that is not above a short one, that is one with few enough bits, is not rounded above it, and one that is not
below it is not rounded below.  This is what can be said of the distance of two doubles without knowing how it is
rounded.

## Main definitions

* `RoundsTo` — a number and what it may be rounded to, as far as short numbers tell

## Main statements

* `Encloses.le_of_le`, `Encloses.ge_of_ge` — rounding keeps the order
* `RoundsTo.lt` — numbers that are a unit apart stay apart
* `exists_distance` — the distance of two positive doubles
-/

namespace EditHistory.Number

open Float.Model Float.Model.UnpackedFloat

/-! ### Rounding keeps the order -/

section

variable {m k : Nat} {q e : Int} {v : ℚ}

/-- A short number with a smaller exponent is below every full mantissa but the least one, and near to that. -/
theorem short_le (below : k < 2 ^ 53) (less : e < q) :
    (k * 2 ^ e : ℚ) ≤ (2 ^ 52 - 1 / 2) * 2 ^ q := by
  have top : (k : ℚ) + 1 ≤ 2 ^ 53 := by exact_mod_cast below
  have unit : (2 : ℚ) ^ e * 2 ≤ 2 ^ q := by
    rw [← zpow_add_one₀ two_ne_zero]
    exact zpow_le_zpow_right₀ one_le_two less
  have some : (0 : ℚ) < 2 ^ e := zpow_pos two_pos e
  calc (k * 2 ^ e : ℚ) ≤ (2 ^ 53 - 1) * 2 ^ e := mul_le_mul_of_nonneg_right (by linarith) some.le
    _ = (2 ^ 52 - 1 / 2) * (2 ^ e * 2) := by ring
    _ ≤ (2 ^ 52 - 1 / 2) * 2 ^ q := mul_le_mul_of_nonneg_left unit (by norm_num)

/-- With a larger exponent a number is a multiple of the unit. -/
theorem exists_multiple (k : Nat) {q e : Int} (least : q ≤ e) : ∃ n : Nat, (k * 2 ^ e : ℚ) = n * 2 ^ q := by
  obtain ⟨d, rfl⟩ : ∃ d : Nat, e = d + q := ⟨(e - q).toNat, by omega⟩
  refine ⟨k * 2 ^ d, ?_⟩
  rw [two_zpow_add]
  push_cast
  ring

/-- **What is not above a short number is not rounded above it.** -/
theorem Encloses.le_of_le (near : Encloses m q v) (adjusted : Adjusted m q) (below : k < 2 ^ 53) (least : -1074 ≤ e)
    (le : v ≤ k * 2 ^ e) : (m * 2 ^ q : ℚ) ≤ k * 2 ^ e := by
  have unit : (0 : ℚ) < 2 ^ q := zpow_pos two_pos q
  by_contra above
  rw [not_le] at above
  rcases le_or_gt q e with more | less
  · -- The short number is at least one unit below, and what is rounded to the double is nearer.
    obtain ⟨n, same⟩ := exists_multiple k more
    rw [same] at le above
    have before : (n : ℚ) + 1 ≤ m := by exact_mod_cast lt_of_mul_lt_mul_right above unit.le
    have reach : (m - 1 / 2 : ℚ) ≤ n := le_of_mul_le_mul_right (near.half_below.trans le) unit
    linarith
  · have full : 2 ^ 52 ≤ m := adjusted.full.resolve_right (by omega)
    have short := le.trans (short_le below less)
    rcases eq_or_lt_of_le full with rfl | wide
    · -- Under a power of two half a unit is too far.
      have low := near.low
      rw [if_pos ⟨rfl, by omega⟩] at low
      have reach := le_of_mul_le_mul_right (low.trans short) unit
      push_cast at reach
      linarith
    · have large : (2 ^ 52 + 1 : ℚ) ≤ m := by exact_mod_cast wide
      have reach := le_of_mul_le_mul_right (near.half_below.trans short) unit
      linarith

/-- **What is not below a short number is not rounded below it.** -/
theorem Encloses.ge_of_ge (near : Encloses m q v) (adjusted : Adjusted m q) (below : k < 2 ^ 53) (least : -1074 ≤ e)
    (ge : k * 2 ^ e ≤ v) : (k * 2 ^ e : ℚ) ≤ m * 2 ^ q := by
  have unit : (0 : ℚ) < 2 ^ q := zpow_pos two_pos q
  rcases le_or_gt q e with more | less
  · obtain ⟨n, same⟩ := exists_multiple k more
    rw [same] at ge ⊢
    have reach : (n : ℚ) ≤ m + 1 / 2 := le_of_mul_le_mul_right (ge.trans near.high) unit
    have before : n < m + 1 := by
      have : (n : ℚ) < (m + 1 : Nat) := by push_cast; linarith
      exact_mod_cast this
    exact mul_le_mul_of_nonneg_right (by exact_mod_cast Nat.lt_succ_iff.mp before) unit.le
  · have full : 2 ^ 52 ≤ m := adjusted.full.resolve_right (by omega)
    have large : (2 ^ 52 : ℚ) ≤ m := by exact_mod_cast full
    exact (short_le below less).trans (mul_le_mul_of_nonneg_right (by linarith) unit.le)

end

/-! ### Differences -/

/-- A number and what it may be rounded to, as far as short numbers tell. -/
structure RoundsTo (v d : ℚ) : Prop where
  le : ∀ (k : Nat) (e : Int), k < 2 ^ 53 → -1074 ≤ e → v ≤ k * 2 ^ e → d ≤ k * 2 ^ e
  ge : ∀ (k : Nat) (e : Int), k < 2 ^ 53 → -1074 ≤ e → k * 2 ^ e ≤ v → k * 2 ^ e ≤ d

theorem Encloses.roundsTo {m : Nat} {q : Int} {v : ℚ} (near : Encloses m q v) (adjusted : Adjusted m q) :
    RoundsTo v (m * 2 ^ q) :=
  ⟨fun _ _ below least => near.le_of_le adjusted below least, fun _ _ below least => near.ge_of_ge adjusted below least⟩

/-- **Numbers that are a unit apart stay apart.** -/
theorem RoundsTo.lt {v w d d' : ℚ} (low : RoundsTo v d) (high : RoundsTo w d') {e : Int} (k : Nat)
    (below : k + 1 < 2 ^ 53) (least : -1074 ≤ e) (le : v ≤ k * 2 ^ e) (ge : (k + 1) * 2 ^ e ≤ w) : d < d' := by
  have unit : (0 : ℚ) < 2 ^ e := zpow_pos two_pos e
  have close := low.le k e (by omega) least le
  have far := high.ge (k + 1) e below least (by push_cast; exact ge)
  push_cast at far
  linarith

/-- A number is rounded whatever exponent it is given with. -/
theorem exists_round {k : Nat} {e : Int} (some : 0 < k) (least : -1074 ≤ e) (s : Sign) :
    ∃ m q, ∃ positive : 0 < m, UnpackedFloat.round Format.binary64 s k e = .finite s m q positive ∧ Adjusted m q ∧
      Encloses m q (k * 2 ^ e) := by
  obtain ⟨n, shift⟩ : ∃ n, (e - Format.binary64.targetExponent (totalExponent k e)).toNat = n := ⟨_, rfl⟩
  have target := targetExponent_eq (totalExponent k e)
  have width : (k * 2 ^ n).log2 = k.log2 + n := by
    rw [Nat.log2_eq_iff (Nat.mul_pos some (Nat.two_pow_pos n)).ne', Nat.pow_add, Nat.add_right_comm, Nat.pow_add]
    exact ⟨Nat.mul_le_mul_right _ (Nat.log2_self_le some.ne'),
      Nat.mul_lt_mul_of_pos_right Nat.lt_log2_self (Nat.two_pow_pos n)⟩
  have total : totalExponent (k * 2 ^ n) (e - n) = totalExponent k e := by
    unfold totalExponent
    omega
  have value : ((k * 2 ^ n : Nat) : ℚ) * 2 ^ (e - n) = k * 2 ^ e := by
    rw [zpow_sub₀ two_ne_zero, zpow_natCast]
    push_cast
    field_simp
  have exact : Approximates (.ofMantissaAndAccuracy (k * 2 ^ n) .exact) (k * 2 ^ e / 2 ^ (e - n)) := by
    rw [← value, mul_div_cancel_right₀ _ (zpow_pos two_pos _).ne']
    rfl
  unfold UnpackedFloat.round decreaseExponent
  simp only [shift, Nat.shiftLeft_eq]
  exact exists_encloses (Nat.mul_pos some (Nat.two_pow_pos n)) (by rw [total]; omega)
    (by rw [total]; unfold totalExponent; omega) s exact

/-- The unpacked form of a difference: nothing is left, or the rest is rounded. -/
theorem normalize_cases (z e : Int) :
    z = 0 ∧ UnpackedFloat.normalize Format.binary64 z e .positive = .zero .positive ∨
      z ≠ 0 ∧ ∃ s, UnpackedFloat.normalize Format.binary64 z e .positive =
        UnpackedFloat.round Format.binary64 s z.natAbs e := by
  unfold UnpackedFloat.normalize
  rcases Int.lt_trichotomy z 0 with less | rfl | more
  · have size : (-z).toNat = z.natAbs := by omega
    rw [Int.compare_eq_lt.mpr less]
    exact Or.inr ⟨less.ne, .negative, congrArg (UnpackedFloat.round _ _ · e) size⟩
  · exact Or.inl ⟨rfl, rfl⟩
  · have size : z.toNat = z.natAbs := by omega
    rw [Int.compare_eq_gt.mpr more]
    exact Or.inr ⟨more.ne', .positive, congrArg (UnpackedFloat.round _ _ · e) size⟩

/-- The parts of a magnitude. -/
theorem parts_abs_pack {f : UnpackedFloat} (rounded : Rounded f) :
    parts (Float.abs (.ofModel (.pack f))) = partsOf f.abs := by
  show parts (.ofModel (.pack (Float.Model.pack f).unpack.abs)) = _
  rw [unpack_pack rounded]
  refine parts_pack ?_
  cases f <;> exact rounded

/-- No double reaches the bound of overflow. -/
theorem lt_overflow_of_canonical {m : Nat} {q : Int} (canonical : Canonical m q) : (m * 2 ^ q : ℚ) < overflow := by
  rw [← not_le, (encloses_self q).overflow_le_iff canonical.adjusted]
  exact Int.not_lt.mpr canonical.most

/-- **The distance of two positive doubles** is rounded from the distance of the numbers. -/
theorem exists_distance {x y : Float} {a b : ℚ} (first : IsMagnitude x a) (second : IsMagnitude y b) (some : 0 < a)
    (some' : 0 < b) : ∃ d, IsMagnitude (x - y).abs d ∧ RoundsTo |a - b| d := by
  obtain ⟨m, q, left, rfl⟩ := first
  obtain ⟨m', q', right, rfl⟩ := second
  have some : 0 < m := Nat.cast_pos.mp ((mul_pos_iff_of_pos_right (zpow_pos two_pos q)).mp some)
  have some' : 0 < m' := Nat.cast_pos.mp ((mul_pos_iff_of_pos_right (zpow_pos two_pos q')).mp some')
  have canonical := canonical_of_parts left
  have canonical' := canonical_of_parts right
  -- At the smaller exponent the difference is one of integers.
  obtain ⟨e, smaller⟩ : ∃ e, min q q' = e := ⟨_, rfl⟩
  have scale (n : Nat) {r : Int} (least : e ≤ r) :
      ((n <<< (r - e).toNat : Nat) : ℚ) * 2 ^ e = n * 2 ^ r := by
    obtain ⟨d, rfl⟩ : ∃ d : Nat, r = d + e := ⟨(r - e).toNat, by omega⟩
    rw [two_zpow_add, Nat.shiftLeft_eq, Int.add_sub_cancel, Int.toNat_natCast]
    push_cast
    ring
  obtain ⟨z, difference⟩ : ∃ z : Int, (m <<< (q - e).toNat : Nat) - (m' <<< (q' - e).toNat : Nat) = z := ⟨_, rfl⟩
  have value : ((z.natAbs : Nat) : ℚ) * 2 ^ e = |(m * 2 ^ q - m' * 2 ^ q' : ℚ)| := by
    have unit : (0 : ℚ) < 2 ^ e := zpow_pos two_pos e
    rw [← scale m (show e ≤ q by omega), ← scale m' (show e ≤ q' by omega), ← sub_mul, abs_mul, abs_of_pos unit,
      ← difference, Nat.cast_natAbs]
    push_cast
    rfl
  have unpacked : UnpackedFloat.sub Format.binary64 x.toModel.unpack y.toModel.unpack =
      UnpackedFloat.normalize Format.binary64 z e .positive := by
    rw [unpack_of_parts some left, unpack_of_parts some' right, ← difference, ← smaller]
    rfl
  show ∃ d, IsMagnitude (Float.abs (.ofModel (.pack (UnpackedFloat.sub _ x.toModel.unpack y.toModel.unpack)))) d ∧ _
  rw [unpacked, ← value]
  rcases normalize_cases z e with ⟨rfl, zero⟩ | ⟨rest, s, rounded⟩
  · rw [zero]
    refine ⟨0, ⟨0, -1074, parts_abs_pack (f := .zero .positive) trivial, by simp⟩, ?_⟩
    simp only [Int.natAbs_zero, Nat.cast_zero, zero_mul]
    exact ⟨fun _ _ _ _ => id, fun _ _ _ _ => id⟩
  · obtain ⟨k, r, positive, result, adjusted, near⟩ :=
      exists_round (Int.natAbs_pos.mpr rest) (e := e) (by have := canonical.least; have := canonical'.least; omega) s
    have most : r ≤ 971 := by
      rw [← Int.not_lt, ← near.overflow_le_iff adjusted, not_le, value]
      have first := lt_overflow_of_canonical canonical
      have second := lt_overflow_of_canonical canonical'
      have nonneg : (0 : ℚ) ≤ m * 2 ^ q := by positivity
      have nonneg' : (0 : ℚ) ≤ m' * 2 ^ q' := by positivity
      rw [abs_lt]
      constructor <;> linarith
    rw [rounded, result]
    have canonical : Canonical k r := ⟨adjusted.below, adjusted.least, most, adjusted.full⟩
    exact ⟨_, ⟨k, r, parts_abs_pack (f := .finite s k r positive) canonical, rfl⟩, near.roundsTo adjusted⟩

end EditHistory.Number
