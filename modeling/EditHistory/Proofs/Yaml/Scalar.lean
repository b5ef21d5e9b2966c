import EditHistory.Proofs.Yaml.Landing
import EditHistory.Proofs.Yaml.Outline

/-!
# The scalars of an outline

What is read where an outline has a key, a word or a text in quotes.

## Main statements

* `Scalar.plain_name` — a key is read up to its colon
* `Scalar.plain_word` — a word is read as itself; the space behind it that it takes does not change the landing
* `Scalar.quoted_text` — a text in quotes is read as itself
-/

namespace EditHistory.Yaml.Scalar

open Cursor Lexer

/-! ### Space behind a word -/

theorem atDocumentMark_of_tidy {c : Cursor} (tidy : Tidy c.rest) : c.atDocumentMark = false := by
  unfold atDocumentMark
  split
  · rename_i here
    rw [here] at tidy
    exact absurd tidy.head (by decide)
  · rename_i here
    rw [here] at tidy
    exact absurd tidy.head (by decide)
  · rfl

/-- Blank lines are passed over up to a comment, a letter or the end, which does not change the landing. -/
theorem exists_blankLines (fuel : Nat) {c : Cursor} (tidy : Tidy c.rest) :
    ∃ bs c', blankLines fuel c = (bs, false, c') ∧ landing c' = landing c ∧ Tidy c'.rest ∧
      (c.rest.length < fuel → startsWith isFill c'.rest = false) := by
  induction fuel generalizing c with
  | zero => exact ⟨[], c, rfl, rfl, tidy, fun few => absurd few (Nat.not_lt_zero _)⟩
  | succ fuel ih =>
      cases here : c.rest with
      | nil =>
          refine ⟨[], c, ?_, rfl, tidy, fun _ => by rw [here]; rfl⟩
          simp only [blankLines, here, startsWith, Bool.false_eq_true, if_false]
          rw [lineBreak_of_not (by rw [here]; rfl)]
      | cons ch rest =>
          rw [here] at tidy
          have next : c.next.rest = rest := by rw [rest_next, here, List.tail_cons]
          rcases tidy.head with rfl | rfl | stop
          · obtain ⟨bs, c', read, same, tidy', stops⟩ := ih (next.symm ▸ tidy.tail rfl)
            refine ⟨bs, c', ?_, same.trans (landing_of_space here).1.symm, tidy', fun few => stops ?_⟩
            · simpa [blankLines, here, startsWith] using read
            · rw [next]
              exact Nat.lt_of_succ_lt_succ few
          · obtain ⟨bs, c', read, same, tidy', stops⟩ := ih (next.symm ▸ tidy.tail rfl)
            refine ⟨'\n' :: bs, c', ?_, same.trans (landing_of_newline here).1.symm, tidy', fun few => stops ?_⟩
            · simp [blankLines, here, startsWith, lineBreak_of_newline here,
                atDocumentMark_of_tidy (next.symm ▸ tidy.tail rfl), read]
            · rw [next]
              exact Nat.lt_of_succ_lt_succ few
          · obtain ⟨noSpace, noBreak⟩ := solid_of_stop stop
            refine ⟨[], c, ?_, rfl, here ▸ tidy, fun _ => ?_⟩
            · simp only [blankLines, here, startsWith, beq_iff_eq, noSpace, if_false]
              rw [lineBreak_of_not (by rwa [here])]
            · rw [here]
              simp only [startsWith, isFill, Bool.or_eq_false_iff, beq_eq_false_iff_ne]
              exact ⟨noSpace, by rintro rfl; cases noBreak⟩

/-- The space after a word is taken up to a comment, a letter or the end, which does not change the landing. -/
theorem landing_plainGap {c : Cursor} (tidy : Tidy c.rest) :
    landing (plainGap c).after = landing c ∧
      ((plainGap c).crossedLine || crosses (plainGap c).after) = crosses c ∧
      startsWith isFill (plainGap c).after.rest = false ∧ Tidy (plainGap c).after.rest := by
  have spaced : c.takeWhile (· == ' ') = (c.rest.takeWhile (· == ' '), c.dropWhile (· == ' ')) := rfl
  have noSpace : startsWith (· == ' ') (c.dropWhile (· == ' ')).rest = false := by
    rw [rest_dropWhile]
    exact startsWith_dropWhile _ _
  have same : landing (c.dropWhile (· == ' ')) = landing c ∧ crosses (c.dropWhile (· == ' ')) = crosses c :=
    landing_congr (by rw [dropWhile_of_not noSpace])
  have tidy' : Tidy (c.dropWhile (· == ' ')).rest := by
    rw [rest_dropWhile]
    exact tidy.dropSpaces
  rw [← same.1, ← same.2]
  generalize c.dropWhile (· == ' ') = d at spaced noSpace tidy' ⊢
  cases here : d.rest with
  | nil =>
      have read : plainGap c = ⟨c.rest.takeWhile (· == ' '), d, false⟩ := by
        rw [plainGap, spaced]
        simp only [lineBreak_of_not (c := d) (by rw [here]; rfl)]
      rw [read]
      exact ⟨rfl, Bool.false_or _, by rw [here]; rfl, tidy'⟩
  | cons ch rest =>
      rw [here] at tidy' noSpace
      rcases tidy'.head with rfl | rfl | stop
      · cases noSpace
      · have next : d.next.rest = rest := by rw [rest_next, here, List.tail_cons]
        have tidyNext : Tidy d.next.rest := next.symm ▸ tidy'.tail rfl
        obtain ⟨bs, c', read, landed, tidyAfter, stops⟩ := exists_blankLines (d.next.rest.length + 1) tidyNext
        have read : plainGap c = ⟨folded ['\n'] bs, c', true⟩ := by
          rw [plainGap, spaced]
          simp [lineBreak_of_newline here, atDocumentMark_of_tidy tidyNext, read]
        rw [read, (landing_of_newline here).1, (landing_of_newline here).2]
        exact ⟨landed, Bool.true_or _, stops (Nat.lt_succ_self _), tidyAfter⟩
      · obtain ⟨noSpace, noBreak⟩ := solid_of_stop stop
        have read : plainGap c = ⟨c.rest.takeWhile (· == ' '), d, false⟩ := by
          rw [plainGap, spaced]
          simp only [lineBreak_of_not (c := d) (by rwa [here])]
        rw [read]
        refine ⟨rfl, Bool.false_or _, ?_, here ▸ tidy'⟩
        rw [here]
        simp only [startsWith, isFill, Bool.or_eq_false_iff, beq_eq_false_iff_ne]
        exact ⟨noSpace, by rintro rfl; cases noBreak⟩

/-! ### Plain scalars -/

/-- The characters of a word are read up to where a plain scalar cannot go on. -/
theorem plainWord_append {word rest : List Char} (solid : ∀ c ∈ word, isWhite c = false)
    (noColon : word.getLast? ≠ some ':') (stop : plainWord false rest = []) :
    plainWord false (word ++ rest) = word := by
  induction word with
  | nil => exact stop
  | cons c word ih =>
      have colon : (c == ':' && endsKey false (word ++ rest)) = false := by
        cases word with
        | nil =>
            have : c ≠ ':' := by simpa using noColon
            simp [this]
        | cons d word =>
            have : isWhite d = false := solid d (by simp)
            simp [endsKey, endsOr, this]
      rw [List.cons_append, plainWord, solid c List.mem_cons_self, colon]
      simp only [Bool.false_and, Bool.or_self, Bool.false_eq_true, if_false]
      congr 1
      refine ih (fun d mem => solid d (List.mem_cons_of_mem _ mem)) ?_
      cases word with
      | nil => simp
      | cons d word => rwa [List.getLast?_cons_cons] at noColon

theorem plainWords_of_end {indent : Int} (fuel : Nat) (value : List Char) {gap : ScalarText}
    (stop : gap.after.rest = []) :
    plainWords false indent fuel value gap = ⟨value, gap.after, gap.crossedLine⟩ := by
  cases fuel with
  | zero => rfl
  | succ fuel => simp [plainWords, stop, plainWord]

/-- A plain scalar of one word: the space behind the word is taken as well. -/
theorem plain_of_one {indent : Int} {c : Cursor} {ch : Char} {word rest : List Char} (here : c.rest = ch :: rest)
    (noComment : ch ≠ '#') (read : plainWord false (ch :: rest) = ch :: word) {gap : ScalarText}
    (taken : plainGap (c.skip (word.length + 1)) = gap)
    (ends : gap.value = [] ∨ gap.after.peek? = some '#' ∨ (gap.after.column : Int) < indent ∨ gap.after.rest = []) :
    plain false indent c = ⟨ch :: word, gap.after, gap.crossedLine⟩ := by
  rw [plain, plainWords]
  simp only [here]
  split
  · rename_i comment
    exact absurd (List.cons.inj comment).1 noComment
  · simp only [read, List.nil_append, List.length_cons, taken]
    split
    · rfl
    · rename_i more
      refine plainWords_of_end _ _ ?_
      rcases ends with noGap | comment | left | stop
      · exact absurd (.inl noGap) more
      · exact absurd (.inr (.inl comment)) more
      · exact absurd (.inr (.inr (by simpa using left))) more
      · exact stop

theorem plainGap_of_stop {c : Cursor} (stop : startsWith (fun ch => ch == ' ' || isBreak ch) c.rest = false) :
    plainGap c = ⟨[], c, false⟩ := by
  cases here : c.rest with
  | nil =>
      simp only [plainGap, takeWhile, here, List.takeWhile_nil, List.length_nil, skip]
      rw [lineBreak_of_not (by rw [here]; rfl)]
  | cons ch rest =>
      simp only [here, startsWith, Bool.or_eq_false_iff] at stop
      simp only [plainGap, takeWhile, here, List.takeWhile_cons, stop.1, Bool.false_eq_true, if_false, List.length_nil,
        skip]
      rw [lineBreak_of_not (by rw [here]; exact stop.2)]

/-- A key is read up to its colon. -/
theorem plain_name (indent : Int) {c : Cursor} (name : Outline.Name) {rest : List Char}
    (here : c.rest = name.chars ++ ':' :: rest) (ends : endsOr isWhite rest = true) :
    plain false indent c = ⟨name.chars, c.skip name.chars.length, false⟩ := by
  have named : ∀ ch ∈ name.chars, isNameChar ch = true := List.all_eq_true.mp name.inAlphabet
  have noColon : name.chars.getLast? ≠ some ':' := fun last =>
    ne_of_isNameChar (named _ (List.mem_of_getLast? last)) rfl rfl
  have colon : plainWord false (':' :: rest) = [] := by
    simp [plainWord, endsKey, ends]
  have read := plainWord_append (fun ch mem => isWhite_of_isNameChar (named ch mem)) noColon colon
  have after : (c.skip name.chars.length).rest = ':' :: rest := by rw [rest_skip, here, List.drop_left]
  have gap := plainGap_of_stop (c := c.skip name.chars.length) (by rw [after]; rfl)
  obtain ⟨ch, word, same, letter⟩ := name.exists_letter
  rw [same] at here read gap ⊢
  exact plain_of_one here (ne_of_isAlpha letter rfl) read gap (.inl rfl)

/-- A word is read as itself, and the space behind it that is taken does not change the landing. -/
theorem plain_word {indent : Int} {c : Cursor} {word rest : List Char} (isWord : Outline.isWord word = true)
    (here : c.rest = word ++ rest) (ends : endsOr isFill rest = true) (tidy : Tidy rest)
    (left : startsWith Char.isAlpha (landing (c.skip word.length)).rest = true →
      ((landing (c.skip word.length)).column : Int) < indent) :
    ∃ after crossed, plain false indent c = ⟨word, after, crossed⟩ ∧
      landing after = landing (c.skip word.length) ∧
      (crossed || crosses after) = crosses (c.skip word.length) ∧ Tidy after.rest := by
  cases word with
  | nil => cases isWord
  | cons ch word =>
      simp only [Outline.isWord, Bool.and_eq_true, List.all_eq_true, bne_iff_ne, ne_eq] at isWord
      obtain ⟨⟨starts, solid⟩, noColon⟩ := isWord
      have noComment : ch ≠ '#' := by
        rintro rfl
        simp [startsPlain, isIndicator] at starts
      have stop : plainWord false rest = [] := by
        cases rest with
        | nil => rfl
        | cons d rest =>
            simp only [endsOr, isFill, Bool.or_eq_true, beq_iff_eq] at ends
            rcases ends with rfl | rfl <;> rfl
      have read := plainWord_append (fun d mem => isWhite_of_not_isBlank (by simpa using solid d mem)) noColon stop
      have after : (c.skip (ch :: word).length).rest = rest := by rw [rest_skip, here, List.drop_left]
      obtain ⟨landed, crossed, noFill, tidy'⟩ := landing_plainGap (after.symm ▸ tidy)
      refine ⟨_, _, plain_of_one here noComment read rfl ?_, landed, crossed, tidy'⟩
      -- the gap ends with the text, at a comment, or at the key of a line that stands to the left
      generalize plainGap (c.skip (ch :: word).length) = gap at landed noFill tidy' ⊢
      cases stopAt : gap.after.rest with
      | nil => exact .inr (.inr (.inr rfl))
      | cons d more =>
          rw [stopAt] at tidy' noFill
          simp only [startsWith, isFill, Bool.or_eq_false_iff, beq_eq_false_iff_ne] at noFill
          rcases tidy'.head with space | newline | rfl | letter
          · exact absurd space noFill.1
          · exact absurd newline noFill.2
          · exact .inr (.inl (by rw [peek?, stopAt]; rfl))
          · refine .inr (.inr (.inl ?_))
            have here' : landing gap.after = gap.after := by
              refine (landing_of_stop ?_).1
              simp [stopAt, endsOr, ne_of_isAlpha letter, isBreak_of_isAlpha letter]
            rw [← landed, here'] at left
            exact left (by rw [stopAt]; exact letter)

/-! ### Texts in quotes -/

/-- Whether a character is space inside quotes. -/
def isGap (c : Char) : Bool := c == ' ' || c == '\t'

/-- What cannot end a text in quotes. -/
structure Quotable (c : Char) : Prop where
  noQuote : c ≠ '"'
  noEscape : c ≠ '\\'
  noBreak : isBreak c = false

theorem quotable_of_mem {chars : List Char} (isQuotable : Outline.isQuotable chars = true) {c : Char}
    (mem : c ∈ chars) : Quotable c := by
  have allowed := List.all_eq_true.mp isQuotable c mem
  simp only [Bool.and_eq_true, bne_iff_ne, ne_eq, Bool.not_eq_true'] at allowed
  exact ⟨allowed.1.1, allowed.1.2, allowed.2⟩

/-- Space inside quotes is read as itself as long as the line goes on. -/
theorem quotedGap_of_append {c : Cursor} {gap : List Char} {ch : Char} {rest : List Char}
    (allGap : ∀ d ∈ gap, isGap d = true) (here : c.rest = gap ++ ch :: rest) (noGap : isGap ch = false)
    (noBreak : isBreak ch = false) : quotedGap c = .ok (gap, c.skip gap.length) := by
  have taken : c.rest.takeWhile isGap = gap := by
    rw [here, List.takeWhile_append_of_pos allGap, List.takeWhile_cons_of_neg (by rw [noGap]; simp), List.append_nil]
  have after : (c.skip gap.length).rest = ch :: rest := by rw [rest_skip, here, List.drop_left]
  have spaced : (c.takeWhile fun d => d == ' ' || d == '\t') = (gap, c.skip gap.length) := by
    change (c.rest.takeWhile isGap, c.skip (c.rest.takeWhile isGap).length) = _
    rw [taken]
  rw [quotedGap, spaced]
  simp only [after]
  rw [lineBreak_of_not (by rw [after]; exact noBreak)]

/-- A text is some space and what comes after it. -/
theorem exists_split_gap (chars : List Char) :
    ∃ gap more, chars = gap ++ more ∧ (∀ c ∈ gap, isGap c = true) ∧ startsWith isGap more = false := by
  refine ⟨chars.takeWhile isGap, chars.dropWhile isGap, List.takeWhile_append_dropWhile.symm, ?_,
    startsWith_dropWhile _ _⟩
  exact List.all_eq_true.mp List.all_takeWhile

theorem doubleQuoted_text (fuel : Nat) {c : Cursor} {chars rest : List Char}
    (isQuotable : Outline.isQuotable chars = true) (here : c.rest = chars ++ '"' :: rest)
    (enough : chars.length < fuel) : doubleQuoted fuel c = .ok (chars, c.skip (chars.length + 1)) := by
  induction fuel generalizing c chars with
  | zero => exact absurd enough (Nat.not_lt_zero _)
  | succ fuel ih =>
      cases chars with
      | nil => simp [doubleQuoted, here, skip]
      | cons ch chars =>
          obtain ⟨noQuote, noEscape, noBreak⟩ := quotable_of_mem isQuotable List.mem_cons_self
          have tail : Outline.isQuotable chars = true := (Bool.and_eq_true _ _ ▸ isQuotable).2
          cases white : isWhite ch with
          | false =>
              have next : c.next.rest = chars ++ '"' :: rest := by rw [rest_next, here]; rfl
              have read := ih tail next (Nat.lt_of_succ_lt_succ enough)
              simp [doubleQuoted, here, noEscape, white, read, Except.map, skip]
          | true =>
              have gapFirst : isGap ch = true := by
                simp only [isWhite, isSpaceOrBreak, noBreak, Bool.or_false, Bool.or_eq_true, beq_iff_eq] at white
                rcases white with rfl | rfl <;> rfl
              -- all the space up to the next solid character is read in one step, so the hypothesis is used behind it
              obtain ⟨gap, more, split, allGap, stop⟩ := exists_split_gap chars
              have isQuotable' : Outline.isQuotable more = true := by
                rw [split, Outline.isQuotable, List.all_append, Bool.and_eq_true] at tail
                exact tail.2
              have after : c.rest = (ch :: gap) ++ (more ++ '"' :: rest) := by
                rw [here, split, List.cons_append, List.cons_append, List.append_assoc]
              have gapRead : quotedGap c = .ok (ch :: gap, c.skip (ch :: gap).length) := by
                have allGap' : ∀ d ∈ ch :: gap, isGap d = true := List.forall_mem_cons.mpr ⟨gapFirst, allGap⟩
                cases more with
                | nil => exact quotedGap_of_append allGap' after rfl rfl
                | cons d more =>
                    exact quotedGap_of_append allGap' after stop
                      (quotable_of_mem isQuotable' List.mem_cons_self).noBreak
              have next : (c.skip (ch :: gap).length).rest = more ++ '"' :: rest := by
                rw [rest_skip, after, List.drop_left]
              have fewer : more.length < fuel := by
                rw [split, List.length_cons, List.length_append] at enough
                omega
              have read := ih isQuotable' next fewer
              have width : (ch :: chars).length + 1 = (ch :: gap).length + (more.length + 1) := by
                rw [split, List.length_cons, List.length_cons, List.length_append]
                omega
              rw [← skip_add, ← width] at read
              simp only [List.length_cons] at read gapRead ⊢
              simp [doubleQuoted, here, noEscape, white, gapRead, bind, Except.bind, pure, Except.pure, read, split]

/-- A text in quotes is read as itself. -/
theorem quoted_text {c : Cursor} {chars rest : List Char} (isQuotable : Outline.isQuotable chars = true)
    (here : c.rest = '"' :: (chars ++ '"' :: rest)) :
    quoted true c = .ok ⟨chars, c.skip (chars.length + 2), false⟩ := by
  have next : c.next.rest = chars ++ '"' :: rest := by rw [rest_next, here, List.tail_cons]
  have enough : chars.length < c.rest.length + 1 := by
    simp only [here, List.length_cons, List.length_append]
    omega
  simp only [quoted, if_true, doubleQuoted_text _ isQuotable next enough]
  rfl

end EditHistory.Yaml.Scalar
