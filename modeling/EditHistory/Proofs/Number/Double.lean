import EditHistory.Number.Binary
import Mathlib

/-!
# The parts of a double and its unpacked form

The parts of a double are those of its unpacked form, on which arithmetic works, and they determine the double.  So
that an operation gives a certain double can be told from the parts of its result.

## Main definitions

* `Canonical` — the mantissas and exponents that doubles have
* `partsOf` — the parts that an unpacked form shows

## Main statements

* `parts_eq` — the parts of a double are those of its unpacked form
* `parts_injective` — no two doubles have the same parts
* `unpack_pack` — packing loses nothing of a form that is rounded
* `parts_pack`, `parts_neg` — the parts of a result
-/

namespace EditHistory.Number

open Float.Model Float.Model.UnpackedFloat

/-- A mantissa and an exponent as a double has them: the mantissa has its full width unless the exponent is the least
one. -/
structure Canonical (m : Nat) (q : Int) : Prop where
  below : m < 2 ^ 53
  least : -1074 ≤ q
  most : q ≤ 971
  full : 2 ^ 52 ≤ m ∨ q = -1074

/-- Whether a sign is a minus. -/
def isNegative : Sign → Bool
  | .negative => true
  | .positive => false

/-- The parts that an unpacked form shows. -/
def partsOf : UnpackedFloat → Parts
  | .notANumber => .nan
  | .infinity s => .infinite (isNegative s)
  | .zero s => .finite (isNegative s) 0 (-1074)
  | .finite s m q _ => .finite (isNegative s) m q

/-! ### Fields of bits -/

theorem toNat_append {k n : Nat} (u : BitVec k) (v : BitVec n) : (u ++ v).toNat = u.toNat * 2 ^ n + v.toNat := by
  rw [BitVec.toNat_append, ← Nat.shiftLeft_add_eq_or_of_lt v.isLt, Nat.shiftLeft_eq]

/-- The fraction with the hidden bit before it. -/
theorem toNat_hidden (v : BitVec 52) : (1#1 ++ v).toNat = 2 ^ 52 + v.toNat := by
  rw [toNat_append]
  rfl

theorem toNat_unpackMantissa (b : BitVec 64) :
    (@unpackMantissa Format.binary64 b).toNat = b.toNat % 2 ^ 52 := by
  simp [unpackMantissa]

theorem toNat_unpackExponent (b : BitVec 64) :
    (@unpackExponent Format.binary64 b).toNat = b.toNat / 2 ^ 52 % 2 ^ 11 := by
  simp [unpackExponent, Nat.shiftRight_eq_div_pow]

theorem toNat_unpackSign (b : BitVec 64) :
    (@unpackSign Format.binary64 b).toNat = b.toNat / 2 ^ 63 := by
  have size := b.isLt
  simp [unpackSign, Nat.shiftRight_eq_div_pow]
  omega

theorem isNegative_ofBitVec : ∀ s : BitVec 1, isNegative (Sign.ofBitVec s) = (s.toNat == 1) := by decide

/-! ### The parts of a double -/

/-- **The parts of a double** are those of its unpacked form. -/
theorem parts_eq (x : Float) : parts x = partsOf x.toModel.unpack := by
  unfold parts Float.Model.unpack UnpackedFloat.unpack
  have bits : x.toBits.toNat = x.toModel.toBits.toBitVec.toNat := rfl
  generalize x.toModel.toBits.toBitVec = b at bits
  rw [bits]
  have special : @unpackExponent Format.binary64 b = -1#11 ↔ b.toNat / 2 ^ 52 % 2 ^ 11 = 2 ^ 11 - 1 := by
    rw [← BitVec.toNat_inj, toNat_unpackExponent]
    rfl
  have least : @unpackExponent Format.binary64 b = 0#11 ↔ b.toNat / 2 ^ 52 % 2 ^ 11 = 0 := by
    rw [← BitVec.toNat_inj, toNat_unpackExponent]
    rfl
  have none : @unpackMantissa Format.binary64 b = 0#52 ↔ b.toNat % 2 ^ 52 = 0 := by
    rw [← BitVec.toNat_inj, toNat_unpackMantissa]
    rfl
  simp only [Nat.pow_eq, special, least, none]
  split
  · split
    · rw [partsOf, isNegative_ofBitVec, toNat_unpackSign]
    · rfl
  · split
    · rename_i subnormal
      split
      · rename_i zero
        rw [partsOf, isNegative_ofBitVec, toNat_unpackSign, zero]
      · rw [partsOf, isNegative_ofBitVec, toNat_unpackSign, toNat_unpackMantissa, toNat_unpackExponent, subnormal]
        rfl
    · rw [partsOf, isNegative_ofBitVec, toNat_unpackSign, toNat_unpackExponent, toNat_hidden, toNat_unpackMantissa,
        Nat.add_comm]
      rfl

theorem canonical_of_parts {x : Float} {negative : Bool} {m : Nat} {q : Int}
    (decoded : parts x = .finite negative m q) : Canonical m q := by
  unfold parts at decoded
  simp only [Nat.pow_eq] at decoded
  split at decoded
  · split at decoded <;> cases decoded
  · split at decoded
    · obtain ⟨-, rfl, rfl⟩ := Parts.finite.inj decoded
      exact ⟨by omega, by omega, by omega, by omega⟩
    · obtain ⟨-, rfl, rfl⟩ := Parts.finite.inj decoded
      exact ⟨by omega, by omega, by omega, by omega⟩

theorem isNegative_injective : Function.Injective isNegative := by
  intro s t same
  cases s <;> cases t <;> first | rfl | cases same

theorem partsOf_injective : Function.Injective partsOf := by
  intro f g same
  cases f <;> cases g <;> simp only [partsOf, Parts.finite.injEq, Parts.infinite.injEq, reduceCtorEq] at same
  · rw [isNegative_injective same]
  · rfl
  · rw [isNegative_injective same.1]
  · -- the mantissa of a finite form is not zero
    rename_i positive
    exact absurd same.2.1 positive.ne
  · rename_i positive _
    exact absurd same.2.1.symm positive.ne
  · obtain ⟨sign, rfl, rfl⟩ := same
    rw [isNegative_injective sign]

/-- **The parts determine the double.** -/
theorem parts_injective {x y : Float} (same : parts x = parts y) : x = y := by
  rw [parts_eq, parts_eq] at same
  have bits := (unpack_inj_of_valid x.toModel.valid y.toModel.valid).mp (partsOf_injective same)
  exact Float.toBits_inj.mp (UInt64.toBitVec_inj.mp bits)

/-! ### Packing -/

/-- A form that needs no more rounding. -/
def Rounded : UnpackedFloat → Prop
  | .finite _ m q _ => Canonical m q
  | _ => True

theorem rounded_unpack (x : Float) : Rounded x.toModel.unpack := by
  have same := parts_eq x
  cases unpacked : x.toModel.unpack with
  | finite s m q positive =>
      rw [unpacked, partsOf] at same
      exact canonical_of_parts same
  | _ => exact trivial

theorem log2_add_one_eq_iff {m : Nat} (below : m < 2 ^ 53) : m.log2 + 1 = 53 ↔ 2 ^ 52 ≤ m := by
  by_cases zero : m = 0
  · subst zero
    decide
  · have width := (Nat.log2_lt zero).mpr below
    rw [← Nat.le_log2 zero]
    omega

theorem unpack_pack_finite {m : Nat} {q : Int} (s : Sign) (canonical : Canonical m q) (positive : 0 < m) :
    UnpackedFloat.unpack Format.binary64 (UnpackedFloat.pack Format.binary64 (.finite s m q positive)) =
      .finite s m q positive := by
  obtain ⟨below, least, most, full⟩ := canonical
  obtain ⟨field, exponent⟩ : ∃ field : Nat, q + 1075 = field := ⟨(q + 1075).toNat, by omega⟩
  have biased : (q + Format.binary64.exponentBias + Format.binary64.mantissaBitsWithoutImplicit).toNat = field := by
    simp only [Format.exponentBias]
    omega
  have width : m.log2 + 1 = Format.binary64.mantissaBits ↔ 2 ^ 52 ≤ m := log2_add_one_eq_iff below
  rw [UnpackedFloat.pack]
  simp only [biased, width]
  rw [if_neg (by omega : ¬ 2 ^ 11 ≤ field + 1)]
  split
  · rename_i normal
    have stored : (BitVec.ofNat 11 field).toNat = field := by rw [BitVec.toNat_ofNat, Nat.mod_eq_of_lt (by omega)]
    have finite : BitVec.ofNat 11 field ≠ -1#11 := by
      rw [← BitVec.toNat_inj.ne, stored]
      show field ≠ 2047
      omega
    have large : BitVec.ofNat 11 field ≠ 0#11 := by
      rw [← BitVec.toNat_inj.ne, stored]
      show field ≠ 0
      omega
    have whole : (1#1 ++ BitVec.ofNat 52 m).toNat = m := by
      rw [toNat_hidden, BitVec.toNat_ofNat]
      omega
    rw [UnpackedFloat.unpack]
    simp only [unpackExponent_packComponents, unpackMantissa_packComponents, unpackSign_packComponents,
      Sign.ofBitVec_toBitVec]
    rw [if_neg finite, if_neg large]
    simp only [whole, stored, Format.exponentBias]
    congr 1
    omega
  · rename_i subnormal
    obtain rfl : q = -1074 := full.resolve_left subnormal
    have stored : (BitVec.ofNat 52 m).toNat = m := by rw [BitVec.toNat_ofNat, Nat.mod_eq_of_lt (by omega)]
    have some : BitVec.ofNat 52 m ≠ 0#52 := by
      rw [← BitVec.toNat_inj.ne, stored]
      show m ≠ 0
      omega
    rw [UnpackedFloat.unpack]
    simp only [unpackExponent_packComponents, unpackMantissa_packComponents, unpackSign_packComponents,
      Sign.ofBitVec_toBitVec]
    rw [if_neg (by decide), if_pos trivial, dif_neg some]
    simp only [stored]
    rfl

/-- Packing loses nothing of a form that is rounded. -/
theorem unpack_pack {f : UnpackedFloat} (rounded : Rounded f) : (Float.Model.pack f).unpack = f := by
  show UnpackedFloat.unpack _ (UnpackedFloat.pack _ f) = f
  cases f with
  | infinity s => cases s <;> rfl
  | notANumber => rfl
  | zero s => cases s <;> rfl
  | finite s m q positive => exact unpack_pack_finite s rounded positive

/-- The parts of a result. -/
theorem parts_pack {f : UnpackedFloat} (rounded : Rounded f) : parts (.ofModel (.pack f)) = partsOf f := by
  rw [parts_eq, unpack_pack rounded]

/-- The parts with the other sign. -/
def Parts.negate : Parts → Parts
  | .nan => .nan
  | .infinite negative => .infinite !negative
  | .finite negative m q => .finite (!negative) m q

theorem parts_neg (x : Float) : parts (-x) = (parts x).negate := by
  have rounded := rounded_unpack x
  show parts (.ofModel (.pack x.toModel.unpack.neg)) = _
  rw [parts_eq x]
  generalize x.toModel.unpack = f at rounded
  have flipped : Rounded f.neg := by cases f <;> exact rounded
  rw [parts_pack flipped]
  cases f with
  | infinity s => cases s <;> rfl
  | notANumber => rfl
  | zero s => cases s <;> rfl
  | finite s m q positive => cases s <;> rfl

end EditHistory.Number
