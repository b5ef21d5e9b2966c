import EditHistory.Proofs.Number.Text
import EditHistory.Text.Blank

/-!
# The text of a double with six digits

Whatever the double, its text with six significant digits is one word: it is not empty, and has no blanks in it.

## Main definitions

* `IsNumeral`, `IsNumerals` — the characters of such texts, and texts of them

## Main statements

* `isNumerals_general` — the text of a double
-/

namespace EditHistory.Number

/-- A digit, a point, a sign, or a letter of an exponent or of what stands for no finite number. -/
def IsNumeral (c : Char) : Prop := ('0' ≤ c ∧ c ≤ '9') ∨ c ∈ ".e+-infa".toList

theorem IsNumeral.not_isBlank {c : Char} (numeral : IsNumeral c) : Text.isBlank c = false := by
  obtain ⟨low, high⟩ | mem := numeral
  · have low : 0x30 ≤ c.toNat := low
    have high : c.toNat ≤ 0x39 := high
    simp only [Text.isBlank, Bool.or_eq_false_iff, Bool.and_eq_false_iff, decide_eq_false_iff_not,
      beq_eq_false_iff_ne]
    omega
  · have all : ".e+-infa".toList.all (fun d => !Text.isBlank d) = true := by decide
    simpa using List.all_eq_true.mp all c mem

theorem isNumeral_of_mem_natText {n : Nat} {c : Char} (mem : c ∈ natText n) : IsNumeral c := .inl (mem_natText mem)

theorem isNumeral_of_mem_digitText {ds : List Nat} (small : ∀ d ∈ ds, d < 10) {c : Char} (mem : c ∈ digitText ds) :
    IsNumeral c := by
  obtain ⟨d, digit, rfl⟩ := List.mem_map.mp mem
  have all : ∀ d < 10, '0' ≤ Char.ofNat (0x30 + d) ∧ Char.ofNat (0x30 + d) ≤ '9' := by decide
  exact .inl (all d (small d digit))

theorem isNumeral_of_mem_exponentText {e : Int} {c : Char} (mem : c ∈ exponentText e) : IsNumeral c := by
  have sign : IsNumeral (if e < 0 then '-' else '+') := by
    split <;> exact .inr (by decide)
  rw [exponentText, List.mem_cons, List.mem_cons] at mem
  obtain rfl | rfl | mem := mem
  · exact .inr (by decide)
  · exact sign
  · split at mem
    · obtain rfl | mem := List.mem_cons.mp mem
      · exact .inl (by decide)
      · exact isNumeral_of_mem_natText mem
    · exact isNumeral_of_mem_natText mem

/-- The digits of a decimal are decimal digits. -/
def Decimal.IsSmall (d : Decimal) : Prop := ∀ n ∈ d.digits, n < 10

theorem Decimal.isSmall_significant (count m : Nat) (q : Int) : (significant count m q).IsSmall := by
  have digits (n : Nat) : ∀ d ∈ digitsOf n, d < 10 := fun d mem => lt_of_mem_digitsUpTo (List.mem_reverse.mp mem)
  unfold significant
  split
  · intro d mem
    rw [List.eq_of_mem_replicate mem]
    decide
  · dsimp only
    split
    · exact digits _
    · exact fun d mem => digits _ d (List.mem_of_mem_take mem)

theorem Decimal.IsSmall.trimmed {d : Decimal} (small : d.IsSmall) :
    IsSmall ⟨(d.digits.reverse.dropWhile (· == 0)).reverse, d.point⟩ := fun n mem =>
  small n (List.mem_reverse.mp ((List.dropWhile_sublist _).mem (List.mem_reverse.mp mem)))

variable {d : Decimal}

theorem isNumeral_of_mem_scientific (small : d.IsSmall) {c : Char} (mem : c ∈ scientific d) : IsNumeral c := by
  unfold scientific at mem
  split at mem
  · rw [List.mem_singleton.mp mem]
    exact .inl (by decide)
  · rename_i first text
    obtain rfl | mem := List.mem_cons.mp mem
    · exact isNumeral_of_mem_digitText small (text ▸ List.mem_singleton_self _)
    · exact isNumeral_of_mem_exponentText mem
  · rename_i first rest _ text
    rw [List.cons_append, List.mem_cons, List.cons_append, List.mem_cons, List.mem_append] at mem
    obtain rfl | rfl | mem | mem := mem
    · exact isNumeral_of_mem_digitText small (text ▸ List.mem_cons_self)
    · exact .inr (by decide)
    · exact isNumeral_of_mem_digitText small (text ▸ List.mem_cons_of_mem _ mem)
    · exact isNumeral_of_mem_exponentText mem

theorem scientific_ne_nil (d : Decimal) : scientific d ≠ [] := by
  unfold scientific
  split <;> exact List.cons_ne_nil _ _

theorem isNumeral_of_mem_replicate {n : Nat} {c : Char} (mem : c ∈ List.replicate n '0') : IsNumeral c := by
  rw [List.eq_of_mem_replicate mem]
  exact .inl (by decide)

theorem isNumeral_of_mem_positional (small : d.IsSmall) {c : Char}
    (mem : c ∈ (positional d).1 ∨ c ∈ (positional d).2) : IsNumeral c := by
  unfold positional at mem
  split at mem
  · obtain mem | mem := mem
    · rw [List.mem_singleton.mp mem]
      exact .inl (by decide)
    · obtain mem | mem := List.mem_append.mp mem
      · exact isNumeral_of_mem_replicate mem
      · exact isNumeral_of_mem_digitText small mem
  · obtain mem | mem := mem
    · obtain mem | mem := List.mem_append.mp mem
      · exact isNumeral_of_mem_digitText small (List.mem_of_mem_take mem)
      · exact isNumeral_of_mem_replicate mem
    · exact isNumeral_of_mem_digitText small (List.mem_of_mem_drop mem)

/-- There is a digit before the point. -/
theorem positional_ne_nil (d : Decimal) : (positional d).1 ≠ [] := by
  unfold positional
  split
  · exact List.cons_ne_nil _ _
  · rename_i above
    intro empty
    obtain ⟨noDigits, noZeros⟩ := List.append_eq_nil_iff.mp empty
    have few := congrArg List.length noDigits
    have zeros := congrArg List.length noZeros
    rw [List.length_take, List.length_nil] at few
    rw [List.length_replicate, List.length_nil] at zeros
    omega

/-! ### The text -/

/-- A text of numerals that is not empty. -/
structure IsNumerals (cs : List Char) : Prop where
  some : cs ≠ []
  chars : ∀ c ∈ cs, IsNumeral c

theorem isNumerals_layout {finite : Nat → Int → List Char} (numerals : ∀ m q, IsNumerals (finite m q)) (x : Float) :
    IsNumerals (layout finite x) := by
  have signed {cs : List Char} (numerals : IsNumerals cs) (negative : Bool) : IsNumerals (withSign negative cs) := by
    cases negative with
    | false => exact numerals
    | true => exact ⟨List.cons_ne_nil _ _, List.forall_mem_cons.mpr ⟨.inr (by decide), numerals.chars⟩⟩
  have letters {cs : List Char} (some : cs ≠ []) (all : cs.all ".e+-infa".toList.contains = true) : IsNumerals cs :=
    ⟨some, fun c mem => .inr (List.contains_iff_mem.mp (List.all_eq_true.mp all c mem))⟩
  unfold layout
  split
  · exact letters (List.cons_ne_nil _ _) (by decide)
  · exact signed (letters (List.cons_ne_nil _ _) (by decide)) _
  · exact signed (numerals _ _) _

/-- **The text of a double with six digits consists of numerals, and there are some.** -/
theorem isNumerals_general (x : Float) : IsNumerals (general x) := by
  refine isNumerals_layout (fun m q => ?_) x
  have small := (Decimal.isSmall_significant 6 m q).trimmed
  dsimp only
  split
  · exact ⟨List.cons_ne_nil _ _, fun c mem => List.mem_singleton.mp mem ▸ .inl (by decide)⟩
  · split
    · split
      · rename_i whole text
        have before : (positional _).1 = whole := congrArg Prod.fst text
        subst before
        exact ⟨positional_ne_nil _, fun c mem => isNumeral_of_mem_positional small (.inl mem)⟩
      · rename_i whole frac _ text
        have before : (positional _).1 = whole := congrArg Prod.fst text
        have behind : (positional _).2 = frac := congrArg Prod.snd text
        subst before behind
        refine ⟨by simp, fun c mem => ?_⟩
        rw [List.mem_append, List.mem_cons] at mem
        obtain mem | rfl | mem := mem
        · exact isNumeral_of_mem_positional small (.inl mem)
        · exact .inr (by decide)
        · exact isNumeral_of_mem_positional small (.inr mem)
    · exact ⟨scientific_ne_nil _, fun c => isNumeral_of_mem_scientific small⟩

end EditHistory.Number
