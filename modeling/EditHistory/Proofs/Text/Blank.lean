import EditHistory.Text.Blank

/-!
# Blanks at the ends of a text

What is left of a text without the blanks around it is the one part of it that neither starts nor ends with a blank and
has nothing but blanks before and after it.

## Main definitions

* `Trims` — a part of a text that is the text without the blanks around it

## Main statements

* `dropMark?_eq_some_iff` — a text that starts with a mark
* `trims_iff` — a text has exactly one such part, its trimmed text
-/

namespace EditHistory.Text

variable {cs blanks : List Char} {c : Char}

/-! ### Marks -/

theorem dropMark?_eq_some_iff {mark rest : List Char} : dropMark? mark cs = some rest ↔ cs = mark ++ rest := by
  induction mark generalizing cs with
  | nil => simp [dropMark?, eq_comm]
  | cons m mark ih =>
      cases cs with
      | nil => simp [dropMark?]
      | cons c cs =>
          rw [dropMark?]
          split
          · rename_i same
            rw [ih, same, List.cons_append, List.cons.injEq, eq_self, true_and]
          · rename_i other
            simp [Ne.symm other]

/-! ### The end of a text -/

theorem mem_of_mem_dropEndWhile {inClass : Char → Bool} (mem : c ∈ dropEndWhile inClass cs) : c ∈ cs := by
  induction cs with
  | nil => exact mem
  | cons d cs ih =>
      rw [dropEndWhile] at mem
      split at mem
      · split at mem
        · exact absurd mem List.not_mem_nil
        · exact List.mem_singleton.mp mem ▸ List.mem_cons_self
      · exact (List.mem_cons.mp mem).elim (· ▸ List.mem_cons_self) fun mem => List.mem_cons_of_mem _ (ih mem)

theorem trimEnd_of_blank (blank : ∀ c ∈ blanks, isBlank c = true) : trimEnd blanks = [] := by
  unfold trimEnd
  induction blanks with
  | nil => rfl
  | cons c blanks ih =>
      rw [dropEndWhile, ih fun d mem => blank d (List.mem_cons_of_mem _ mem)]
      simp [blank c List.mem_cons_self]

/-- Blanks behind a text that does not end with one are trimmed, and nothing else. -/
theorem trimEnd_append_blanks (solid : ∀ c ∈ cs.getLast?, isBlank c = false)
    (blank : ∀ c ∈ blanks, isBlank c = true) : trimEnd (cs ++ blanks) = cs := by
  induction cs with
  | nil => exact trimEnd_of_blank blank
  | cons c cs ih =>
      cases cs with
      | nil =>
          have rest : dropEndWhile isBlank blanks = [] := trimEnd_of_blank blank
          have noBlank : isBlank c = false := solid c rfl
          rw [List.singleton_append, trimEnd, dropEndWhile, rest]
          simp [noBlank]
      | cons d cs =>
          have rest : dropEndWhile isBlank (d :: cs ++ blanks) = d :: cs :=
            ih fun e last => solid e (by rwa [List.getLast?_cons_cons])
          rw [List.cons_append, trimEnd, dropEndWhile, rest]

/-- A text is its trimmed one and blanks behind it. -/
theorem exists_trimEnd (cs : List Char) : ∃ blanks, cs = trimEnd cs ++ blanks ∧ (∀ c ∈ blanks, isBlank c = true) ∧
    ∀ c ∈ (trimEnd cs).getLast?, isBlank c = false := by
  unfold trimEnd
  induction cs with
  | nil => exact ⟨[], rfl, by simp, nofun⟩
  | cons c cs ih =>
      obtain ⟨blanks, split, blank, solid⟩ := ih
      rw [dropEndWhile]
      cases rest : dropEndWhile isBlank cs with
      | nil =>
          rw [rest, List.nil_append] at split
          subst split
          cases here : isBlank c with
          | true => exact ⟨c :: cs, rfl, List.forall_mem_cons.mpr ⟨here, blank⟩, nofun⟩
          | false =>
              refine ⟨cs, rfl, blank, fun d last => ?_⟩
              obtain rfl := Option.some.inj last
              exact here
      | cons d rest' =>
          rw [rest] at split solid
          exact ⟨blanks, congrArg (c :: ·) split, blank, by rwa [List.getLast?_cons_cons]⟩

/-! ### Both ends -/

/-- A part of a text is the text without the blanks around it. -/
structure Trims (cs core : List Char) : Prop where
  within : ∃ before after, cs = before ++ core ++ after ∧ (∀ c ∈ before, isBlank c = true) ∧
    ∀ c ∈ after, isBlank c = true
  starts : ∀ c ∈ core.head?, isBlank c = false
  ends : ∀ c ∈ core.getLast?, isBlank c = false

theorem trims_trim (cs : List Char) : Trims cs (trim cs) := by
  obtain ⟨after, split, blank, ends⟩ := exists_trimEnd (trimStart cs)
  refine ⟨⟨cs.takeWhile isBlank, after, ?_, List.all_eq_true.mp List.all_takeWhile, blank⟩, fun c first => ?_, ends⟩
  · rw [List.append_assoc, trim, ← split]
    exact List.takeWhile_append_dropWhile.symm
  · -- the first character is that of the text without its leading blanks
    have first' : (trimStart cs).head? = some c := by
      rw [split, List.head?_append, show (trimEnd (trimStart cs)).head? = some c from first, Option.some_or]
    have stops := List.head?_dropWhile_not isBlank cs
    rw [show cs.dropWhile isBlank = trimStart cs from rfl, first'] at stops
    simpa using stops

/-- **A text has exactly one part that is the text without the blanks around it.** -/
theorem trims_iff {core : List Char} : Trims cs core ↔ core = trim cs := by
  constructor
  · rintro ⟨⟨before, after, rfl, blank, blank'⟩, starts, ends⟩
    have start : trimStart (before ++ core ++ after) = (core ++ after).dropWhile isBlank := by
      rw [trimStart, List.append_assoc, List.dropWhile_append_of_pos blank]
    cases core with
    | nil =>
        have all : ∀ c ∈ after.dropWhile isBlank, isBlank c = true := fun c mem =>
          blank' c ((List.dropWhile_sublist _).mem mem)
        rw [trim, start, List.nil_append, trimEnd_of_blank all]
    | cons c core =>
        have noBlank : isBlank c = false := starts c rfl
        rw [trim, start, List.cons_append, List.dropWhile_cons_of_neg (by simp [noBlank]), ← List.cons_append,
          trimEnd_append_blanks ends blank']
  · rintro rfl
    exact trims_trim cs

end EditHistory.Text
