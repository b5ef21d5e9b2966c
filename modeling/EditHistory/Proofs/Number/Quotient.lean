import EditHistory.Proofs.Number.Nearest

/-!
# Quotients of positive doubles

Rounding does not bring a number below a power of two that it has reached, so a quotient of positive doubles is
positive unless it is below all doubles.  It may be too large for a double, and then it is infinite.

How large a number is, is told by its total exponent: the number lies below the power of two with this exponent, and
reaches the one before.

## Main definitions

* `IsLarge` — a positive double that has at least a total exponent, or infinity
* `IsPositive` — a positive double, and not infinite

## Main statements

* `exists_rounded` — how rounding comes to its result
* `exists_roundWithAccuracy` — what rounding gives
* `isLarge_div` — a quotient of positive doubles
-/

namespace EditHistory.Number

open Float.Model Float.Model.UnpackedFloat

/-! ### Rounding -/

theorem mantissa_shiftRight (em : ExtendedMantissa) (n : Nat) : (em >>> n).mantissa = em.mantissa / 2 ^ n := by
  induction n with
  | zero => rw [Nat.pow_zero, Nat.div_one]; rfl
  | succ n ih =>
      rw [Nat.pow_succ, ← Nat.div_div_eq_div_mul, ← ih]
      rfl

/-- A mantissa is rounded down or up. -/
theorem roundedMantissa_bounds (em : ExtendedMantissa) :
    em.mantissa ≤ em.roundedMantissa ∧ em.roundedMantissa ≤ em.mantissa + 1 := by
  obtain ⟨m, round, sticky⟩ := em
  cases round <;> cases sticky <;>
    simp only [ExtendedMantissa.roundedMantissa, ExtendedMantissa.accuracy, Accuracy.roundToNearestEven] <;> omega

/-- The first shift leaves the bits that a double has room for. -/
theorem exists_shift {k : Nat} {e : Int} (some : 0 < k)
    (fine : e ≤ Format.binary64.targetExponent (totalExponent k e)) (large : -1073 ≤ totalExponent k e)
    (accuracy : Accuracy) :
    ∃ em l q, shiftToTargetExponent Format.binary64 k e accuracy = (em, q) ∧ -1074 ≤ q ∧
      totalExponent k e = (l : Nat) + 1 + q ∧ l ≤ 52 ∧ (l = 52 ∨ q = -1074) ∧
      2 ^ l ≤ em.mantissa ∧ em.mantissa < 2 ^ (l + 1) := by
  rw [shiftToTargetExponent]
  have target := targetExponent_eq (totalExponent k e)
  generalize Format.binary64.targetExponent (totalExponent k e) = q at target fine
  rw [totalExponent] at target large ⊢
  obtain ⟨n, rfl⟩ : ∃ n : Nat, q = e + n := ⟨(q - e).toNat, by omega⟩
  obtain ⟨l, width⟩ : ∃ l, k.log2 = l + n := ⟨k.log2 - n, by omega⟩
  have low := (Nat.le_log2 some.ne').mp width.ge
  have high := (Nat.log2_lt some.ne').mp (show k.log2 < l + 1 + n by omega)
  rw [Nat.pow_add] at low high
  refine ⟨ExtendedMantissa.ofMantissaAndAccuracy k accuracy >>> n, l, e + n, ?_, by omega, by omega, by omega, by omega,
    ?_, ?_⟩
  · rw [shiftToExponent, add_sub_cancel_left, Int.toNat_natCast]
  · rw [mantissa_shiftRight, ofMantissaAndAccuracy_mantissa]
    exact (Nat.le_div_iff_mul_le (Nat.two_pow_pos n)).mpr low
  · rw [mantissa_shiftRight, ofMantissaAndAccuracy_mantissa]
    exact (Nat.div_lt_iff_lt_mul (Nat.two_pow_pos n)).mpr high

/-- What becomes of a number that is rounded: after the first shift its mantissa is rounded, and gets one bit less if it
has got one bit more. -/
theorem exists_rounded {k : Nat} {e : Int} (some : 0 < k)
    (fine : e ≤ Format.binary64.targetExponent (totalExponent k e)) (large : -1073 ≤ totalExponent k e) (s : Sign)
    (accuracy : Accuracy) :
    ∃ em l q₀ m q, ∃ positive : 0 < m,
      shiftToTargetExponent Format.binary64 k e accuracy = (em, q₀) ∧
      totalExponent k e = (l : Nat) + 1 + q₀ ∧ (l = 52 ∨ q₀ = -1074) ∧ 2 ^ l ≤ em.mantissa ∧
      roundWithAccuracy Format.binary64 s k e accuracy = .finite s m q positive ∧ Adjusted m q ∧
      (em.roundedMantissa = m ∧ q = q₀ ∨ em.roundedMantissa = 2 ^ 53 ∧ m = 2 ^ 52 ∧ q = q₀ + 1 ∧ l = 52) := by
  obtain ⟨em, l, q, shifted, least, total, narrow, wide, low, high⟩ := exists_shift some fine large accuracy
  obtain ⟨down, up⟩ := roundedMantissa_bounds em
  have bits : 2 ^ (l + 1) ≤ 2 ^ 53 := Nat.pow_le_pow_right two_pos (by omega)
  have one : 1 ≤ 2 ^ l := Nat.one_le_two_pow
  rw [roundWithAccuracy]
  simp only [shifted]
  by_cases carry : em.roundedMantissa = 2 ^ 53
  · -- Only a full mantissa gets one bit more.
    have full : l = 52 := by
      by_contra less
      have : 2 ^ (l + 1) ≤ 2 ^ 52 := Nat.pow_le_pow_right two_pos (by omega)
      omega
    have next := shiftToTargetExponent_carry (q := q + 1) (by omega)
    rw [add_sub_cancel_right] at next
    refine ⟨em, l, q, 2 ^ 52, q + 1, Nat.two_pow_pos 52, rfl, total, wide, low, ?_,
      ⟨by decide, by omega, Or.inl (Nat.le_refl _)⟩, Or.inr ⟨carry, rfl, rfl, full⟩⟩
    simp only [carry, next]
    rfl
  · have positive : 0 < em.roundedMantissa := by omega
    have adjusted : Adjusted em.roundedMantissa q := by
      refine ⟨by omega, least, ?_⟩
      rcases wide with rfl | small
      · exact Or.inl (low.trans down)
      · exact Or.inr small
    refine ⟨em, l, q, em.roundedMantissa, q, positive, rfl, total, wide, low, ?_, adjusted, Or.inl ⟨rfl, rfl⟩⟩
    simp only [shiftToTargetExponent_adjusted adjusted positive]
    exact dif_neg positive.ne'

/-- **What rounding gives**: a number that is not smaller, as its total exponent tells. -/
theorem exists_roundWithAccuracy {k : Nat} {e : Int} (some : 0 < k)
    (fine : e ≤ Format.binary64.targetExponent (totalExponent k e)) (large : -1073 ≤ totalExponent k e) (s : Sign)
    (accuracy : Accuracy) :
    ∃ m q, ∃ positive : 0 < m, roundWithAccuracy Format.binary64 s k e accuracy = .finite s m q positive ∧
      Adjusted m q ∧ totalExponent k e ≤ totalExponent m q := by
  obtain ⟨em, l, q₀, m, q, positive, -, total, -, low, result, adjusted, rounded⟩ :=
    exists_rounded some fine large s accuracy
  refine ⟨m, q, positive, result, adjusted, ?_⟩
  rw [total, totalExponent]
  -- The mantissa that is left reaches a power of two, and rounding does not bring it below.
  rcases rounded with ⟨rfl, rfl⟩ | ⟨-, rfl, rfl, rfl⟩
  · have width := (Nat.le_log2 positive.ne').mpr (low.trans (roundedMantissa_bounds em).1)
    omega
  · rw [Nat.log2_two_pow]
    omega

/-- An exponent that is too large makes the number infinite. -/
theorem parts_pack_adjusted {m : Nat} {q : Int} (adjusted : Adjusted m q) (positive : 0 < m) :
    parts (.ofModel (.pack (.finite .positive m q positive))) =
      if q ≤ 971 then .finite false m q else .infinite false := by
  obtain ⟨below, least, full⟩ := adjusted
  split
  · rename_i most
    exact parts_pack (f := .finite .positive m q positive) ⟨below, least, most, full⟩
  · rename_i beyond
    have field : 2 ^ 11 ≤
        (q + Format.binary64.exponentBias + Format.binary64.mantissaBitsWithoutImplicit).toNat + 1 := by
      show 2 ^ 11 ≤ (q + 1023 + 52).toNat + 1
      omega
    have infinite : Float.Model.pack (.finite .positive m q positive) = .pack (.infinity .positive) := by
      unfold Float.Model.pack UnpackedFloat.pack
      simp only [if_pos field]
    rw [infinite]
    exact parts_pack (f := .infinity .positive) trivial

/-! ### Quotients -/

/-- The quotient of two mantissas has at least the bits that the difference of their widths tells. -/
theorem le_log2_div {m₁ m₂ n : Nat} (positive : 0 < m₁) (positive' : 0 < m₂) (wide : m₂.log2 + 1 ≤ m₁.log2 + n) :
    0 < m₁ * 2 ^ n / m₂ ∧ m₁.log2 + n ≤ (m₁ * 2 ^ n / m₂).log2 + (m₂.log2 + 1) := by
  obtain ⟨d, sum⟩ : ∃ d, m₁.log2 + n = d + (m₂.log2 + 1) := ⟨m₁.log2 + n - (m₂.log2 + 1), by omega⟩
  have enough : 2 ^ d * m₂ ≤ m₁ * 2 ^ n :=
    calc 2 ^ d * m₂ ≤ 2 ^ d * 2 ^ (m₂.log2 + 1) := Nat.mul_le_mul_left _ Nat.lt_log2_self.le
      _ = 2 ^ (m₁.log2 + n) := by rw [← Nat.pow_add, sum]
      _ = 2 ^ m₁.log2 * 2 ^ n := Nat.pow_add 2 _ _
      _ ≤ m₁ * 2 ^ n := Nat.mul_le_mul_right _ (Nat.log2_self_le positive.ne')
  have quotient : 2 ^ d ≤ m₁ * 2 ^ n / m₂ := (Nat.le_div_iff_mul_le positive').mpr enough
  have some : 0 < m₁ * 2 ^ n / m₂ := Nat.lt_of_lt_of_le (Nat.two_pow_pos d) quotient
  have width := (Nat.le_log2 some.ne').mpr quotient
  exact ⟨some, by omega⟩

theorem exists_div {m₁ m₂ : Nat} {e₁ e₂ : Int} (p₁ : 0 < m₁) (p₂ : 0 < m₂)
    (large : -1073 ≤ totalExponent m₁ e₁ - totalExponent m₂ e₂) :
    ∃ m q, ∃ positive : 0 < m,
      UnpackedFloat.div Format.binary64 (.finite .positive m₁ e₁ p₁) (.finite .positive m₂ e₂ p₂) =
        .finite .positive m q positive ∧
      Adjusted m q ∧ totalExponent m₁ e₁ - totalExponent m₂ e₂ ≤ totalExponent m q := by
  obtain ⟨n, quotient, enough⟩ := divCore_eq m₁ m₂ e₁ e₂ p₁ p₂
  have bits : 0 < m₁ * 2 ^ n / m₂ ∧
      totalExponent m₁ e₁ - totalExponent m₂ e₂ ≤ totalExponent (m₁ * 2 ^ n / m₂) (e₁ - e₂ - n) := by
    unfold totalExponent at large ⊢
    rcases Nat.lt_or_ge m₂.log2 (m₁.log2 + n) with wide | narrow
    · obtain ⟨some, width⟩ := le_log2_div p₁ p₂ wide
      exact ⟨some, by omega⟩
    · -- A quotient below one has its bits behind the point, or it is below all doubles.
      have wide : 52 ≤ (m₁ * 2 ^ n / m₂).log2 := enough.resolve_right (by omega)
      refine ⟨Nat.pos_of_ne_zero ?_, by omega⟩
      intro zero
      rw [zero] at wide
      exact absurd wide (by decide)
  obtain ⟨some, total⟩ := bits
  obtain ⟨m, q, positive, rounded, adjusted, kept⟩ :=
    exists_roundWithAccuracy some (le_targetExponent enough) (large.trans total) .positive
      (accuracyOfFraction (m₁ * 2 ^ n % m₂) m₂)
  refine ⟨m, q, positive, ?_, adjusted, total.trans kept⟩
  rw [UnpackedFloat.div, quotient]
  exact rounded

/-- A positive double that has at least a total exponent, or infinity. -/
def IsLarge (least : Int) (x : Float) : Prop :=
  parts x = .infinite false ∨ ∃ m q, 0 < m ∧ least ≤ totalExponent m q ∧ parts x = .finite false m q

/-- A positive double, and not infinite. -/
def IsPositive (x : Float) : Prop := ∃ m q, 0 < m ∧ parts x = .finite false m q

theorem IsPositive.isLarge {x : Float} (positive : IsPositive x) : ∃ least, IsLarge least x := by
  obtain ⟨m, q, some, here⟩ := positive
  exact ⟨_, Or.inr ⟨m, q, some, Int.le_refl _, here⟩⟩

theorem unpack_of_parts {x : Float} {m : Nat} {q : Int} (positive : 0 < m) (here : parts x = .finite false m q) :
    x.toModel.unpack = .finite .positive m q positive := by
  rw [parts_eq] at here
  exact partsOf_injective here

/-- The total exponent of a double has a bound. -/
theorem totalExponent_le {x : Float} {m : Nat} {q : Int} (positive : 0 < m) (here : parts x = .finite false m q) :
    totalExponent m q ≤ 1024 := by
  obtain ⟨below, -, most, -⟩ := canonical_of_parts here
  have width := (Nat.log2_lt positive.ne').mpr below
  unfold totalExponent
  omega

/-- **A quotient of positive doubles** is positive, and as large as the total exponents tell. -/
theorem isLarge_div {x y : Float} {least most : Int} {m : Nat} {q : Int} (large : IsLarge least x) (positive : 0 < m)
    (here : parts y = .finite false m q) (small : totalExponent m q ≤ most) (enough : -1073 ≤ least - most) :
    IsLarge (least - most) (x / y) := by
  have right := unpack_of_parts positive here
  show IsLarge _ (.ofModel (.pack (UnpackedFloat.div Format.binary64 x.toModel.unpack y.toModel.unpack)))
  rcases large with infinite | ⟨m₁, q₁, p₁, wide, finite⟩
  · have left : x.toModel.unpack = .infinity .positive := by
      rw [parts_eq] at infinite
      exact partsOf_injective infinite
    rw [left, right]
    exact Or.inl (parts_pack (f := .infinity .positive) trivial)
  · have apart : -1073 ≤ totalExponent m₁ q₁ - totalExponent m q := by omega
    obtain ⟨m', q', p', quotient, adjusted, total⟩ := exists_div p₁ positive apart
    rw [unpack_of_parts p₁ finite, right, quotient, IsLarge, parts_pack_adjusted adjusted p']
    split
    · exact Or.inr ⟨m', q', p', by omega, rfl⟩
    · exact Or.inl rfl

end EditHistory.Number
