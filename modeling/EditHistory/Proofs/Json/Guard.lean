import EditHistory.Json.Guard
import EditHistory.Proofs.Json.Acceptance

/-!
# JSON behind the guard

The guard and the blanks around it can be taken away without looking at what they guard: no JSON text starts like the
guard, and the spaces that may lead a JSON text are blanks of the wider kind that the guard may stand between.  Nor does
it matter whether line ends are unified before the guard is looked for.

A JSON text is refused for the length of an integer only, and that fault is told without its place.  So whoever reads a
JSON text, or is told why it cannot be read, does not learn whether a guard stood before it.

## Main definitions

* `Alike` — two readings that end alike

## Main statements

* `IsText.dropGuard_eq`, `dropGuard_of_valid` — a JSON text without a guard is left alone
* `alike_guarded`, `alike_unifyLineEnds_guarded` — a guard does not show
* `parse_dropGuard_of_guarded` — behind a guard the same value is read
-/

namespace EditHistory.Json

open EditHistory.Text

/-! ### Blanks in front -/

/-- Blanks of the wider kind in front take the spaces behind them along. -/
theorem trimStart_skipSpace (cs : List Char) : trimStart (skipSpace cs) = trimStart cs := by
  induction cs with
  | nil => rfl
  | cons c cs ih =>
      unfold skipSpace trimStart at ih ⊢
      by_cases space : isSpace c = true
      · rw [List.dropWhile_cons_of_pos space, ih, List.dropWhile_cons_of_pos (isBlank_of_isSpace space)]
      · rw [List.dropWhile_cons_of_neg space]

theorem trimStart_append_of_blank {blanks : List Char} (blank : ∀ c ∈ blanks, isBlank c = true) (cs : List Char) :
    trimStart (blanks ++ cs) = trimStart cs :=
  List.dropWhile_append_of_pos blank

theorem trimStart_of_canStart {c : Char} (start : CanStart c) (cs : List Char) : trimStart (c :: cs) = c :: cs :=
  List.dropWhile_cons_of_neg (by rw [start.solid]; exact Bool.false_ne_true)

/-- What stands behind the spaces that lead a text. -/
theorem trimStart_of_skipSpace {cs rest : List Char} {c : Char} (skipped : skipSpace cs = c :: rest)
    (start : CanStart c) : trimStart cs = c :: rest := by
  rw [← trimStart_skipSpace, skipped, trimStart_of_canStart start]

/-- The spaces that lead a text mean nothing but for the place of a fault. -/
theorem fault_parse_trimStart {cs rest : List Char} {c : Char} (skipped : skipSpace cs = c :: rest)
    (start : CanStart c) : (parse (trimStart cs)).mapError Error.fault = (parse cs).mapError Error.fault := by
  have shorter := length_skipSpace_le cs
  rw [trimStart_of_skipSpace skipped start]
  rw [skipped] at shorter
  have unmarked := unmarked_of_skipSpace skipped start
  have unmarked' := unmarked_of_skipSpace (start.skipSpace_eq rest) start
  have same : value (2 * cs.length + 2) (c :: rest) = value (2 * (c :: rest).length + 2) (c :: rest) :=
    value_eq_of_le (by omega) (by omega)
  unfold parse parseUnmarked
  simp only [if_neg unmarked, if_neg unmarked', start.skipSpace_eq, skipped, same]
  generalize (value (2 * (c :: rest).length + 2) (c :: rest) >>= _ : Except Stop Value) = found
  cases found <;> rfl

/-- Two readings that end alike: with the same value, or with the same fault that is told without its place. -/
inductive Alike : Except Error Value → Except Error Value → Prop
  | value (v : Value) : Alike (.ok v) (.ok v)
  | unplaced {e e' : Error} (same : e.fault = e'.fault) (unplaced : e'.fault.isSyntactic = false) :
      Alike (.error e) (.error e')

theorem Alike.eq_ok {x : Except Error Value} {v : Value} (alike : Alike x (.ok v)) : x = .ok v := by
  cases alike
  rfl

theorem message_of_unplaced {e e' : Error} (same : e.fault = e'.fault) (unplaced : e'.fault.isSyntactic = false) :
    e.message = e'.message := by
  unfold Error.message
  rw [same, unplaced]
  rfl

/-- Readings that end alike are told alike. -/
theorem Alike.mapError_message {x y : Except Error Value} (alike : Alike x y) {δ : Type} (tell : String → δ) :
    (x.mapError fun e => tell e.message) = y.mapError fun e => tell e.message := by
  cases alike with
  | value v => rfl
  | unplaced same unplaced => exact congrArg (Except.error ∘ tell) (message_of_unplaced same unplaced)

/-- **The spaces that lead a JSON text do not show**, whether the text is accepted or not. -/
theorem alike_of_isText {cs : List Char} (valid : IsText cs) : Alike (parse (trimStart cs)) (parse cs) := by
  obtain ⟨c, rest, skipped, start⟩ := valid.canStart
  have same := fault_parse_trimStart skipped start
  rcases parse_of_isText valid with ⟨v, accepted⟩ | ⟨e, refused, blamed⟩
  · rw [accepted] at same ⊢
    cases read : parse (trimStart cs) with
    | ok w =>
        rw [read] at same
        obtain rfl := Except.ok.inj same
        exact .value w
    | error e =>
        rw [read] at same
        cases same
  · rw [refused] at same ⊢
    cases read : parse (trimStart cs) with
    | ok v =>
        rw [read] at same
        cases same
    | error e' =>
        rw [read] at same
        exact .unplaced (Except.error.inj same) blamed

/-! ### The guard -/

/-- **A JSON text without a guard is left alone.** -/
theorem IsText.dropGuard_eq {cs : List Char} (valid : IsText cs) : dropGuard cs = cs := by
  obtain ⟨c, rest, skipped, start⟩ := valid.canStart
  unfold dropGuard
  rw [trimStart_of_skipSpace skipped start, guardMark, dropMark?, if_neg start.notGuard.symm]

theorem dropGuard_of_valid {cs : List Char} {v : Value} (valid : parse cs = .ok v) : dropGuard cs = cs :=
  (isText_of_parse valid).dropGuard_eq

section

variable {before after : List Char} (blankBefore : ∀ c ∈ before, isBlank c = true)
  (blankAfter : ∀ c ∈ after, isBlank c = true)

include blankBefore blankAfter

/-- The blanks behind a guard are taken away with those that lead the text itself. -/
theorem dropGuard_guarded (cs : List Char) : dropGuard (before ++ guardMark ++ after ++ cs) = trimStart cs := by
  unfold dropGuard
  rw [List.append_assoc, List.append_assoc, trimStart_append_of_blank blankBefore]
  exact trimStart_append_of_blank blankAfter cs

/-- Line ends that are unified first leave the guard and the blanks around it to be taken away. -/
theorem dropGuard_unifyLineEnds_guarded (cs : List Char) :
    dropGuard (unifyLineEnds (before ++ guardMark ++ after ++ cs)) = trimStart (unifyLineEnds cs) := by
  have front : trimStart (unifyLineEnds (before ++ guardMark ++ after ++ cs)) =
      guardMark ++ unifyLineEnds (after ++ cs) := by
    rw [List.append_assoc, List.append_assoc, trimStart_unifyLineEnds_append blankBefore,
      unifyLineEnds_append (by decide)]
    rfl
  unfold dropGuard
  rw [front]
  exact trimStart_unifyLineEnds_append blankAfter cs

/-- **A guard before a JSON text does not show**, with whatever blanks before and after the guard. -/
theorem alike_guarded {cs : List Char} (valid : IsText cs) :
    Alike (parse (dropGuard (before ++ guardMark ++ after ++ cs))) (parse (dropGuard cs)) := by
  rw [dropGuard_guarded blankBefore blankAfter, valid.dropGuard_eq]
  exact alike_of_isText valid

/-- Nor does it show when line ends are unified first. -/
theorem alike_unifyLineEnds_guarded {cs : List Char} (valid : IsText cs) :
    Alike (parse (dropGuard (unifyLineEnds (before ++ guardMark ++ after ++ cs))))
      (parse (dropGuard (unifyLineEnds cs))) := by
  rw [dropGuard_unifyLineEnds_guarded blankBefore blankAfter, valid.unifyLineEnds.dropGuard_eq]
  exact alike_of_isText valid.unifyLineEnds

/-- **Behind a guard the same value is read.** -/
theorem parse_dropGuard_of_guarded {cs : List Char} {v : Value} (valid : parse cs = .ok v) :
    parse (dropGuard (before ++ guardMark ++ after ++ cs)) = .ok v := by
  have alike := alike_guarded blankBefore blankAfter (isText_of_parse valid)
  rw [dropGuard_of_valid valid, valid] at alike
  exact alike.eq_ok

end

end EditHistory.Json
