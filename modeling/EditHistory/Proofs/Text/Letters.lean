import EditHistory.Text.Blank

/-!
# Letters and digits

Where the letters and digits of ASCII stand among the characters.

## Main statements

* `toNat_of_isAlpha`, `toNat_of_isAlphanum` — where they stand
* `isBlank_of_isAlphanum` — none of them is blank
-/

namespace EditHistory.Text

theorem toNat_of_isAlpha {c : Char} (letter : c.isAlpha = true) :
    65 ≤ c.toNat ∧ c.toNat ≤ 90 ∨ 97 ≤ c.toNat ∧ c.toNat ≤ 122 := by
  have either : c.isUpper = true ∨ c.isLower = true := (Bool.or_eq_true _ _).mp letter
  rcases either with upper | lower
  · exact .inl (of_decide_eq_true upper)
  · obtain ⟨low, high⟩ := (Bool.and_eq_true _ _).mp lower
    exact .inr ⟨of_decide_eq_true low, of_decide_eq_true high⟩

theorem toNat_of_isAlphanum {c : Char} (alphanum : c.isAlphanum = true) :
    65 ≤ c.toNat ∧ c.toNat ≤ 90 ∨ 97 ≤ c.toNat ∧ c.toNat ≤ 122 ∨ 48 ≤ c.toNat ∧ c.toNat ≤ 57 := by
  have either : c.isAlpha = true ∨ c.isDigit = true := (Bool.or_eq_true _ _).mp alphanum
  rcases either with letter | digit
  · exact (toNat_of_isAlpha letter).imp_right .inl
  · obtain ⟨low, high⟩ := (Bool.and_eq_true _ _).mp digit
    exact .inr (.inr ⟨of_decide_eq_true low, of_decide_eq_true high⟩)

theorem isBlank_of_isAlphanum {c : Char} (alphanum : c.isAlphanum = true) : isBlank c = false := by
  have := toNat_of_isAlphanum alphanum
  simp only [isBlank, Bool.or_eq_false_iff, Bool.and_eq_false_iff, decide_eq_false_iff_not, beq_eq_false_iff_ne]
  omega

end EditHistory.Text
