import EditHistory.Text.Blank
import EditHistory.Text.Lines

/-!
# Unified line ends

A text without carriage returns is left as it is when its line ends are unified, and a part of it that holds none can be
told from the result.  Blanks stay blanks, although their number may change.

## Main statements

* `unifyLineEnds_append` — a front without carriage returns stays
* `unified_unifyLineEnds` — no carriage return is left
* `trimStart_unifyLineEnds_append` — blanks in front are trimmed after they are unified as well as before
-/

namespace EditHistory.Text

theorem unifyLineEnds_cons {c : Char} (other : c ≠ '\r') (cs : List Char) :
    unifyLineEnds (c :: cs) = c :: unifyLineEnds cs := by
  rw [unifyLineEnds.eq_3 _ _ fun _ same => absurd same other, if_neg other]

/-- A carriage return becomes a line feed, or gives way to the one behind it. -/
theorem unifyLineEnds_return (cs : List Char) :
    unifyLineEnds ('\r' :: cs) = '\n' :: unifyLineEnds cs ∨ unifyLineEnds ('\r' :: cs) = unifyLineEnds cs := by
  by_cases feed : ∃ cs', cs = '\n' :: cs'
  · obtain ⟨cs', rfl⟩ := feed
    rw [unifyLineEnds_cons (by decide) cs']
    exact Or.inr rfl
  · rw [unifyLineEnds.eq_3 _ _ fun cs' _ same => feed ⟨cs', same⟩, if_pos rfl]
    exact Or.inl rfl

theorem unifyLineEnds_append {front : List Char} (unified : '\r' ∉ front) (cs : List Char) :
    unifyLineEnds (front ++ cs) = front ++ unifyLineEnds cs := by
  induction front with
  | nil => rfl
  | cons c front ih =>
      rw [List.mem_cons, not_or] at unified
      rw [List.cons_append, unifyLineEnds_cons (Ne.symm unified.1), ih unified.2, List.cons_append]

theorem unifyLineEnds_of_unified {cs : List Char} (unified : '\r' ∉ cs) : unifyLineEnds cs = cs := by
  have whole := unifyLineEnds_append unified []
  rwa [unifyLineEnds, List.append_nil] at whole

theorem unified_unifyLineEnds (cs : List Char) : '\r' ∉ unifyLineEnds cs := by
  fun_induction unifyLineEnds cs with
  | case1 => exact List.not_mem_nil
  | case2 cs ih => simpa using ih
  | case3 c cs _ ih =>
      split <;> simp_all [eq_comm]

/-- Blanks in front are trimmed after they are unified as well as before. -/
theorem trimStart_unifyLineEnds_append {blanks : List Char} (blank : ∀ c ∈ blanks, isBlank c = true) (cs : List Char) :
    trimStart (unifyLineEnds (blanks ++ cs)) = trimStart (unifyLineEnds cs) := by
  have trimmed {c : Char} (here : isBlank c = true) (cs : List Char) : trimStart (c :: cs) = trimStart cs :=
    List.dropWhile_cons_of_pos here
  induction blanks with
  | nil => rfl
  | cons c blanks ih =>
      obtain ⟨here, later⟩ := List.forall_mem_cons.mp blank
      refine Eq.trans ?_ (ih later)
      rw [List.cons_append]
      by_cases other : c = '\r'
      · subst other
        rcases unifyLineEnds_return (blanks ++ cs) with feed | none
        · rw [feed, trimmed (by decide)]
        · rw [none]
      · rw [unifyLineEnds_cons other, trimmed here]

end EditHistory.Text
