import EditHistory.Auth.Config
import EditHistory.Proofs.Web.Address

/-!
# The code in an address

After the user has consented, the browser is sent to an address of this computer, and the service puts what it has to
say into the query of that address.  Whatever pairs stand there, the code is the value of the first pair that is named
so and has a value.

## Main statements

* `query_redirect` — the query of the address
* `readCode_formText` — the code in it
-/

namespace EditHistory.Auth

open EditHistory.Text Web

/-- The usual address in its parts. -/
theorem toList_usualRedirect :
    usualRedirect.text.toList = Address.Site.text ⟨"http".toList, "localhost:8085".toList, []⟩ := by decide

/-- The query of the address to which the browser is sent. -/
theorem query_redirect {cs : List Char} (printable : ∀ c ∈ cs, 0x20 < c.toNat) (whole : '#' ∉ cs) :
    Address.query (usualRedirect.text.toList ++ '?' :: cs) = .ok cs := by
  rw [toList_usualRedirect]
  exact Address.query_site (by decide) printable whole

/-- Looking a name up among the pairs with a value finds the first one of that name. -/
theorem lookup_filter (name : List Char) (ps : List (List Char × List Char)) :
    (ps.filter fun p => p.2 ≠ []).lookup name =
      (ps.find? fun p => p.1 = name ∧ p.2 ≠ []).map Prod.snd := by
  induction ps with
  | nil => rfl
  | cons p ps ih =>
      by_cases empty : p.2 = []
      · rw [List.filter_cons_of_neg (by simpa using empty), List.find?_cons_of_neg (by simp [empty]), ih]
      · rw [List.filter_cons_of_pos (by simpa using empty), List.lookup_cons]
        by_cases here : p.1 = name
        · rw [List.find?_cons_of_pos (by simp [here, empty])]
          simp [here]
        · rw [List.find?_cons_of_neg (by simp [here]), ih]
          have other : (name == p.1) = false := beq_false_of_ne (Ne.symm here)
          simp only [other]

/-- **The code in an address** to which the browser is sent, whatever pairs stand in its query: the value of the first
pair that is named `code` and has a value, character for character.  Without such a pair there is no code. -/
theorem readCode_formText (pairs : List (String × String)) :
    readCode (usualRedirect.text ++ "?" ++ formText pairs).toList =
      match pairs.find? fun p => p.1 = "code" ∧ p.2 ≠ "" with
      | some p => .ok p.2.toList
      | none => .error .noCode := by
  have listed : (usualRedirect.text ++ "?" ++ formText pairs).toList =
      usualRedirect.text.toList ++ '?' :: (formText pairs).toList := by
    rw [String.toList_append, String.toList_append, List.append_assoc]
    rfl
  have printable : ∀ c ∈ (formText pairs).toList, 0x20 < c.toNat := by
    intro c mem
    rw [formText, String.toList_ofList] at mem
    rcases Form.mem_render mem with safe | rfl | rfl
    · exact (Form.toNat_of_isSafe safe).1
    · decide
    · decide
  have whole : '#' ∉ (formText pairs).toList := by
    intro mem
    rw [formText, String.toList_ofList] at mem
    rcases Form.mem_render mem with safe | same | same
    · cases safe
    · exact absurd same (by decide)
    · exact absurd same (by decide)
  rw [readCode, listed, query_redirect printable whole]
  simp only [formText, String.toList_ofList, Form.read_render, lookup_filter, List.find?_map]
  have same : ((fun p : List Char × List Char => decide (p.1 = "code".toList ∧ p.2 ≠ [])) ∘
      fun p : String × String => (p.1.toList, p.2.toList)) = fun p => decide (p.1 = "code" ∧ p.2 ≠ "") := by
    funext p
    have empty : p.2.toList = [] ↔ p.2 = "" := by
      rw [← String.toList_inj]
      rfl
    show decide (p.1.toList = "code".toList ∧ ¬ p.2.toList = []) = decide (p.1 = "code" ∧ ¬ p.2 = "")
    rw [decide_eq_decide, String.toList_inj, empty]
  rw [same]
  cases pairs.find? fun p => decide (p.1 = "code" ∧ p.2 ≠ "") <;> rfl

example : (readCode "http://localhost:8085/?code=&error=x&code=4%2F0+%C3%A9&code=b".toList).toOption =
    some "4/0 é".toList := by decide +kernel

end EditHistory.Auth
