import EditHistory.Proofs.Yaml.Scalar

/-!
# The tokens of an outline

An outline is cut into the tokens that its lines say it should be cut into.  Between two lines only the position, the
columns of the open blocks and the tokens so far matter; a line takes such a state to another one.

## Main definitions

* `Outline.At` — the position is at the first key of some lines
* `Lexer.resting` — the state of the lexer between two lines

## Main statements

* `Outline.at_landing_text`, `Outline.at_landing_after` — notes are passed over
* `Lexer.step_key`, `Lexer.step_colon`, `Lexer.step_value` — what one step reads
* `Token.scan_text` — the tokens of an outline
-/

namespace EditHistory.Yaml

open Cursor Lexer

namespace Outline

/-! ### From line to line -/

/-- The position is at the first key of the lines, or at the end if there is none. -/
def At (c : Cursor) : List Line → Prop
  | [] => c.rest = []
  | .note _ :: ls => At c ls
  | .key indent e :: ls => c.rest = e.name.chars ++ ':' :: (e.afterColon ++ after ls) ∧ c.column = indent

theorem endsOr_after {p : Char → Bool} (newline : p '\n' = true) (ls : List Line) : endsOr p (after ls) = true := by
  cases ls with
  | nil => rfl
  | cons l ls => exact newline

theorem skip_spaces {c : Cursor} {n : Nat} {rest : List Char} (here : c.rest = spaces n ++ rest) :
    c.skip n = ⟨rest, c.index + n, c.line, c.column + n⟩ := by
  have skipped := skip_of_ordinary here fun ch mem => by
    rw [List.eq_of_mem_replicate mem]
    decide
  rwa [spaces, List.length_replicate] at skipped

theorem at_landing_name {c : Cursor} {e : Entry} {indent : Nat} {ls : List Line}
    (here : c.rest = spaces indent ++ (e.name.chars ++ ':' :: (e.afterColon ++ after ls))) (fresh : c.column = 0) :
    At (landing c) (.key indent e :: ls) := by
  have skipped := skip_spaces here
  obtain ⟨ch, cs, chars, letter⟩ := e.name.exists_letter
  have stops : landing (c.skip indent) = c.skip indent := by
    refine (landing_of_stop ?_).1
    rw [skipped]
    simp [chars, endsOr, ne_of_isAlpha letter, isBreak_of_isAlpha letter]
  rw [(landing_of_spaces here).1, stops, skipped]
  exact ⟨rfl, by rw [fresh, Nat.zero_add]⟩

/-- Both at the start of the lines and at the end of the line before them the landing is the first key. -/
theorem at_landing (ls : List Line) :
    (∀ c : Cursor, c.rest = text ls → c.column = 0 → At (landing c) ls) ∧
      ∀ c : Cursor, c.rest = after ls → At (landing c) ls ∧ (ls ≠ [] → crosses c = true) := by
  have behind {ls : List Line} (front : ∀ c : Cursor, c.rest = text ls → c.column = 0 → At (landing c) ls)
      (c : Cursor) (here : c.rest = after ls) : At (landing c) ls ∧ (ls ≠ [] → crosses c = true) := by
    cases ls with
    | nil =>
        refine ⟨?_, fun some => absurd rfl some⟩
        have stops : landing c = c := (landing_of_stop (by rw [here]; rfl)).1
        rw [stops]
        exact here
    | cons l ls =>
        have moved : c.next = ⟨text (l :: ls), c.index + 1, c.line + 1, 0⟩ := by
          simp [next, here, after_cons, isBreak]
        obtain ⟨same, crossed⟩ := landing_of_newline (here.trans (after_cons l ls))
        rw [same]
        exact ⟨front c.next (by rw [moved]) (by rw [moved]), fun _ => crossed⟩
  induction ls with
  | nil =>
      have front (c : Cursor) (here : c.rest = text []) (_ : c.column = 0) : At (landing c) [] := by
        have stops : landing c = c := (landing_of_stop (by rw [here]; rfl)).1
        rw [stops]
        exact here
      exact ⟨front, behind front⟩
  | cons l ls ih =>
      have front (c : Cursor) (here : c.rest = text (l :: ls)) (fresh : c.column = 0) :
          At (landing c) (l :: ls) := by
        rw [text_cons] at here
        cases l with
        | note n =>
            cases n with
            | blank width =>
                have skipped := skip_spaces here
                rw [(landing_of_spaces here).1]
                exact (ih.2 _ (by rw [skipped])).1
            | comment indent r =>
                have here : c.rest = spaces indent ++ '#' :: (r.chars ++ after ls) := by
                  rw [here, Line.text, Note.text, List.append_assoc, List.cons_append]
                have skipped := skip_spaces here
                have passed := landing_of_comment (c := c.skip indent) (by rw [skipped]) r.onOneLine
                  (endsOr_after rfl ls)
                rw [(landing_of_spaces here).1, passed.1]
                refine (ih.2 _ ?_).1
                rw [rest_skip, skipped, List.drop_succ_cons, List.drop_left]
        | key indent e =>
            refine at_landing_name ?_ fresh
            rw [here, Line.text, List.append_assoc, List.append_assoc, List.cons_append]
      exact ⟨front, behind front⟩

theorem at_landing_text {ls : List Line} {c : Cursor} (here : c.rest = text ls) (fresh : c.column = 0) :
    At (landing c) ls :=
  (at_landing ls).1 c here fresh

theorem at_landing_after {ls : List Line} {c : Cursor} (here : c.rest = after ls) :
    At (landing c) ls ∧ (ls ≠ [] → crosses c = true) :=
  (at_landing ls).2 c here

/-- A comment at the end of the line before the lines does not matter. -/
theorem at_landing_remark (e : Entry) {ls : List Line} {c : Cursor} (here : c.rest = e.remarkText ++ after ls) :
    At (landing c) ls ∧ (ls ≠ [] → crosses c = true) := by
  unfold Entry.remarkText at here
  cases remark : e.remark with
  | none =>
      rw [remark] at here
      exact at_landing_after here
  | some r =>
      have here : c.rest = spaces (r.1 + 1) ++ '#' :: (r.2.chars ++ after ls) := by
        rw [here, remark, Option.elim_some, List.append_assoc, List.cons_append]
      have skipped := skip_spaces here
      have spaced := landing_of_spaces here
      have passed := landing_of_comment (c := c.skip (r.1 + 1)) (by rw [skipped]) r.2.onOneLine (endsOr_after rfl ls)
      rw [spaced.1, spaced.2, passed.1, passed.2]
      refine at_landing_after ?_
      rw [rest_skip, skipped, List.drop_succ_cons, List.drop_left]

/-! ### What follows a key or a value -/

theorem tidy_of_spaces (n : Nat) {cs : List Char} (tidy : Tidy cs) : Tidy (spaces n ++ cs) := by
  induction n with
  | zero => exact tidy
  | succ n ih => exact ih

theorem tidy_after (ls : List Line) : Tidy (after ls) := by
  induction ls with
  | nil => rfl
  | cons l ls ih =>
      refine (?_ : Tidy (l.text ++ after ls))
      cases l with
      | note n =>
          cases n with
          | blank width => exact tidy_of_spaces width ih
          | comment indent r =>
              rw [Line.text, Note.text, List.append_assoc]
              exact tidy_of_spaces indent rfl
      | key indent e =>
          obtain ⟨ch, cs, chars, letter⟩ := e.name.exists_letter
          rw [Line.text, List.append_assoc, chars]
          exact tidy_of_spaces indent (.of_letter letter _)

theorem tidy_text (ls : List Line) : Tidy (text ls) := by
  cases ls with
  | nil => rfl
  | cons l ls => exact Tidy.tail (after_cons l ls ▸ tidy_after (l :: ls)) rfl

theorem tidy_remark (e : Entry) (ls : List Line) : Tidy (e.remarkText ++ after ls) := by
  unfold Entry.remarkText
  cases e.remark with
  | none => exact tidy_after ls
  | some r =>
      rw [Option.elim_some, List.append_assoc]
      exact tidy_of_spaces _ rfl

theorem endsOr_remark {p : Char → Bool} (space : p ' ' = true) (newline : p '\n' = true) (e : Entry)
    (ls : List Line) : endsOr p (e.remarkText ++ after ls) = true := by
  unfold Entry.remarkText
  cases e.remark with
  | none => exact endsOr_after newline ls
  | some r => exact space

theorem endsOr_afterColon (e : Entry) (ls : List Line) : endsOr isWhite (e.afterColon ++ after ls) = true := by
  unfold Entry.afterColon Entry.valueText
  cases e.value with
  | none => exact endsOr_remark rfl rfl e ls
  | some v => rfl

end Outline

namespace Lexer

open Outline

/-! ### The state between two lines -/

/-- The column of the innermost block and those of the blocks around it; the outermost block is left of the text. -/
def blocks : List Nat → Int × List Int
  | [] => (-1, [])
  | k :: ks => (k, (blocks ks).1 :: (blocks ks).2)

/-- A state outside of brackets: the position, the columns of the open blocks, whether a key may start, the candidates
for keys, and the tokens so far, the last one first. -/
def resting (c : Cursor) (columns : List Nat) (keyAllowed : Bool) (candidates : List (Nat × Candidate))
    (ts : List Token) : Lexer :=
  { cursor := c, flow := 0, indent := (blocks columns).1, indents := (blocks columns).2, keyAllowed, candidates,
    tokens := ts, finished := false }

theorem toNextToken_resting {c : Cursor} (noMark : c.peek? ≠ some '\uFEFF') (columns : List Nat) (keyAllowed : Bool)
    (candidates : List (Nat × Candidate)) (ts : List Token) :
    (resting c columns keyAllowed candidates ts).toNextToken =
      resting (landing c) columns (keyAllowed || crosses c) candidates ts :=
  toNextToken_eq rfl noMark

theorem unwindTo_resting (column : Nat) (c : Cursor) (columns : List Nat) (keyAllowed : Bool)
    (candidates : List (Nat × Candidate)) (ts : List Token) :
    unwindTo column (blocks columns).2 (resting c columns keyAllowed candidates ts) =
      resting c (kept column columns) keyAllowed candidates
        (List.replicate (ended column columns) .blockEnd ++ ts) := by
  induction columns generalizing ts with
  | nil => rfl
  | cons k ks ih =>
      by_cases right : column < k
      · have step : unwindTo column (blocks (k :: ks)).2 (resting c (k :: ks) keyAllowed candidates ts) =
            unwindTo column (blocks ks).2 (resting c ks keyAllowed candidates (.blockEnd :: ts)) := by
          simp only [blocks, unwindTo, resting, Int.ofNat_lt, right, if_true, push]
        rw [step, ih, kept, kept, ended, ended, List.dropWhile_cons_of_pos (by simpa using right),
          List.takeWhile_cons_of_pos (by simpa using right), List.length_cons, List.replicate_succ',
          List.append_assoc]
        rfl
      · have step : unwindTo column (blocks (k :: ks)).2 (resting c (k :: ks) keyAllowed candidates ts) =
            resting c (k :: ks) keyAllowed candidates ts := by
          simp only [blocks, unwindTo, resting, Int.ofNat_lt, right, if_false]
        rw [step, kept, ended, List.dropWhile_cons_of_neg (by simpa using right),
          List.takeWhile_cons_of_neg (by simpa using right)]
        rfl

theorem unwindTo_end (c : Cursor) (columns : List Nat) (keyAllowed : Bool)
    (candidates : List (Nat × Candidate)) (ts : List Token) :
    unwindTo (-1) (blocks columns).2 (resting c columns keyAllowed candidates ts) =
      resting c [] keyAllowed candidates (List.replicate columns.length .blockEnd ++ ts) := by
  induction columns generalizing ts with
  | nil => rfl
  | cons k ks ih =>
      have right : (-1 : Int) < k := by omega
      have step : unwindTo (-1) (blocks (k :: ks)).2 (resting c (k :: ks) keyAllowed candidates ts) =
          unwindTo (-1) (blocks ks).2 (resting c ks keyAllowed candidates (.blockEnd :: ts)) := by
        simp only [blocks, unwindTo, resting, right, if_true, push]
      rw [step, ih, List.length_cons, List.replicate_succ', List.append_assoc]
      rfl

/-! ### What a token starts with -/

/-- What can start a plain scalar starts one, unless it is at the start of a line. -/
theorem dispatch_plain {l : Lexer} {ch : Char} {rest : List Char} (outside : l.flow = 0)
    (here : l.cursor.rest = ch :: rest) (starts : startsPlain false ch rest = true)
    (inside : l.cursor.column ≠ 0 ∨ ch.isAlpha = true) : l.dispatch = l.plain := by
  have noMark (d : Char) (other : d.isAlpha = false) : (ch == d && l.cursor.column == 0) = false := by
    rcases inside with inside | letter
    · simp [inside]
    · simp [ne_of_isAlpha letter other]
  have starts' := starts
  simp only [startsPlain, Bool.or_eq_true, Bool.not_eq_true', Bool.or_eq_false_iff, Bool.and_eq_true, Bool.not_false,
    beq_iff_eq, true_and] at starts'
  rcases starts' with ⟨-, noIndicator⟩ | ⟨goesOn, rfl | rfl | rfl⟩
  · have dash := noMark '-' rfl
    have dot := noMark '.' rfl
    simp only [isIndicator, Bool.or_eq_false_iff] at noIndicator
    obtain ⟨⟨⟨⟨⟨noBrace, noBrace'⟩, noQuote⟩, noQuote'⟩, -⟩, noOther⟩ := noIndicator
    simp at noOther
    simp [dispatch, here, outside, dash, dot, starts, noBrace, noBrace', noQuote, noQuote', noOther]
  · have dash := noMark '-' rfl
    simp at dash
    simp [dispatch, here, outside, dash, goesOn, starts]
  · simp [dispatch, here, outside, goesOn, starts]
  · simp [dispatch, here, outside, goesOn, starts]

theorem dispatch_colon {l : Lexer} {rest : List Char} (outside : l.flow = 0) (here : l.cursor.rest = ':' :: rest)
    (ends : endsOr isWhite rest = true) : l.dispatch = l.value := by
  simp [dispatch, here, outside, ends]

theorem dispatch_quoted {l : Lexer} {rest : List Char} (here : l.cursor.rest = '"' :: rest) :
    l.dispatch = l.quoted true := by
  simp [dispatch, here]

theorem dispatch_end {l : Lexer} (here : l.cursor.rest = []) : l.dispatch = l.finish := by
  simp [dispatch, here]

/-! ### Blocks to the left -/

theorem kept_kept (k : Nat) (columns : List Nat) : kept k (kept k columns) = kept k columns := by
  induction columns with
  | nil => rfl
  | cons m ms ih =>
      by_cases right : k < m
      · rw [kept, kept, List.dropWhile_cons_of_pos (by simpa using right)]
        exact ih
      · rw [kept, kept, List.dropWhile_cons_of_neg (by simpa using right),
          List.dropWhile_cons_of_neg (by simpa using right)]

/-- Blocks that a key does not end are not ended further to the right either. -/
theorem kept_of_le {k m : Nat} {columns : List Nat} (left : kept k columns = columns) (le : k ≤ m) :
    kept m columns = columns ∧ ended m columns = 0 := by
  cases columns with
  | nil => exact ⟨rfl, rfl⟩
  | cons j js =>
      have notRight : ¬k < j := by
        intro right
        rw [kept, List.dropWhile_cons_of_pos (by simpa using right)] at left
        have shorter : (js.dropWhile (k < ·)).length ≤ js.length := (List.dropWhile_suffix _).length_le
        rw [left, List.length_cons] at shorter
        omega
      have notRight' : ¬m < j := by omega
      exact ⟨List.dropWhile_cons_of_neg (by simpa using notRight'),
        by rw [ended, List.takeWhile_cons_of_neg (by simpa using notRight'), List.length_nil]⟩

/-- A key opens a block unless the innermost block is at its column. -/
theorem blocks_lt_iff {k : Nat} {columns : List Nat} (left : kept k columns = columns) :
    (blocks columns).1 < (k : Int) ↔ ¬columns.head? = some k := by
  cases columns with
  | nil =>
      simp only [blocks, List.head?_nil, reduceCtorEq, not_false_eq_true, iff_true]
      omega
  | cons j js =>
      have notRight : ¬k < j := by
        intro right
        have none := (kept_of_le left (Nat.le_refl k)).2
        rw [ended, List.takeWhile_cons_of_pos (by simpa using right)] at none
        cases none
      simp only [blocks, Int.ofNat_lt, List.head?_cons, Option.some.injEq]
      omega

theorem kept_opened (k : Nat) (columns : List Nat) : kept k (opened k columns) = opened k columns := by
  unfold opened
  split
  · exact kept_kept k columns
  · rw [kept, List.dropWhile_cons_of_neg (by simp)]

/-- The innermost block after a key is the block of the key. -/
theorem blocks_opened (k : Nat) (columns : List Nat) : (blocks (opened k columns)).1 = k := by
  unfold opened
  split
  · rename_i first
    obtain ⟨js, same⟩ := List.head?_eq_some_iff.mp first
    rw [same, blocks]
  · rfl

theorem opened_kept (k : Nat) (columns : List Nat) : opened k (kept k columns) = opened k columns := by
  rw [opened, opened, kept_kept]

theorem opening_kept (k : Nat) (columns : List Nat) : opening k (kept k columns) = opening k columns := by
  rw [opening, opening, kept_kept]

theorem opening_reverse (k : Nat) (columns : List Nat) : (opening k columns).reverse = opening k columns := by
  unfold opening
  split <;> rfl

theorem ended_add_length_kept (k : Nat) (columns : List Nat) :
    ended k columns + (kept k columns).length = columns.length := by
  rw [ended, kept, ← List.length_append, List.takeWhile_append_dropWhile]

/-! ### Steps -/

/-- A step from a state without stale candidates. -/
theorem step_resting {c : Cursor} (noMark : c.peek? ≠ some '\uFEFF') (columns : List Nat) (keyAllowed : Bool)
    {candidates : List (Nat × Candidate)} (ts : List Token)
    (current : ∀ p ∈ candidates, p.2.line = (landing c).line ∧ (landing c).index ≤ p.2.index + 1024) :
    step (resting c columns keyAllowed candidates ts) =
      (resting (landing c) (kept (landing c).column columns) (keyAllowed || crosses c) candidates
        (List.replicate (ended (landing c).column columns) .blockEnd ++ ts)).dispatch := by
  -- a candidate is dropped, or is an error, only when its line is over or its text too long
  have fresh : ∀ p ∈ candidates, (p.2.line != (landing c).line || p.2.index + 1024 < (landing c).index) = false := by
    intro p mem
    obtain ⟨line, index⟩ := current p mem
    simp [line, Nat.not_lt.mpr index]
  have same : (resting (landing c) columns (keyAllowed || crosses c) candidates ts).dropStale =
      .ok (resting (landing c) columns (keyAllowed || crosses c) candidates ts) := by
    unfold dropStale
    rw [if_neg]
    · congr 2
      exact List.filter_eq_self.mpr fun p mem => by
        simp only [resting, Bool.not_eq_true']
        exact fresh p mem
    · simp only [resting, List.any_eq_true, Bool.and_eq_true, not_exists, not_and]
      intro p mem stale
      exact absurd ((fresh p mem).symm.trans stale) Bool.false_ne_true
  rw [step, toNextToken_resting noMark, same]
  exact congrArg dispatch (unwindTo_resting _ _ _ _ _ _)

/-- The candidate for a key at a position. -/
def candidateAt (c : Cursor) (columns : List Nat) (ts : List Token) : Nat × Candidate :=
  (0, ⟨ts.length, (blocks columns).1 == c.column, c.index, c.line, c.column⟩)

theorem dispatch_name {c : Cursor} {columns : List Nat} {ts : List Token} (name : Name) {rest : List Char}
    (here : c.rest = name.chars ++ ':' :: rest) (ends : endsOr isWhite rest = true) :
    (resting c columns true [] ts).dispatch =
      .ok (resting (c.skip name.chars.length) columns false [candidateAt c columns ts]
        (.scalar name.chars true :: ts)) := by
  obtain ⟨ch, cs, chars, letter⟩ := name.exists_letter
  have starts : startsPlain false ch (cs ++ ':' :: rest) = true := by
    simp [startsPlain, isWhite_of_isAlpha letter, isIndicator_of_isAlpha letter]
  have text : (resting c columns true [] ts).cursor.rest = ch :: (cs ++ ':' :: rest) := by
    rw [← List.cons_append, ← chars]
    exact here
  rw [dispatch_plain rfl text starts (.inr letter)]
  have read := Scalar.plain_name ((blocks columns).1 + 1) name here ends
  simp [plain, addCandidate, resting, dropCandidate, Except.map, pushScalar, push, read, candidateAt]

/-- The first step on a line with a key reads the key, after the ends of the blocks to its right. -/
theorem step_key {c : Cursor} {indent : Nat} {e : Entry} {ls : List Line} {keyAllowed : Bool}
    (noMark : c.peek? ≠ some '\uFEFF') (here : At (landing c) (.key indent e :: ls))
    (allowed : (keyAllowed || crosses c) = true) (columns : List Nat) (ts : List Token) :
    step (resting c columns keyAllowed [] ts) =
      .ok (resting ((landing c).skip e.name.chars.length) (kept indent columns) false
        [candidateAt (landing c) (kept indent columns) (List.replicate (ended indent columns) .blockEnd ++ ts)]
        (.scalar e.name.chars true :: (List.replicate (ended indent columns) .blockEnd ++ ts))) := by
  rw [step_resting noMark columns keyAllowed ts (fun p mem => absurd mem List.not_mem_nil), here.2, allowed]
  exact dispatch_name e.name here.1 (endsOr_afterColon e ls)

/-- A colon puts the marks of a key before the token that it follows. -/
theorem dispatch_value {c d : Cursor} {indent : Nat} {columns : List Nat} {ts : List Token} {t : Token}
    {rest : List Char} (here : d.rest = ':' :: rest) (ends : endsOr isWhite rest = true) (column : c.column = indent)
    (left : kept indent columns = columns) :
    (resting d columns false [candidateAt c columns ts] (t :: ts)).dispatch =
      .ok (resting (d.skip 1) (opened indent columns) false []
        (.value :: t :: .key :: (opening indent columns ++ ts))) := by
  rw [dispatch_colon rfl here ends]
  have found : (resting d columns false [candidateAt c columns ts] (t :: ts)).value =
      .ok ((resting d columns false [candidateAt c columns ts] (t :: ts)).valueAfter (candidateAt c columns ts).2) := rfl
  rw [found]
  -- the marks go where the candidate stands, before the tokens read since; the first key of a block opens it as well
  by_cases first : columns.head? = some indent
  · have inside : ¬(blocks columns).1 < (indent : Int) := fun outer => (blocks_lt_iff left).mp outer first
    simp [valueAfter, resting, candidateAt, insertAt, indentTo, pushOver, column, inside, opened, opening, left, first]
  · have outer : (blocks columns).1 < (indent : Int) := (blocks_lt_iff left).mpr first
    have later : ts.length + 1 + 1 - ts.length = 2 := by omega
    simp [valueAfter, resting, candidateAt, insertAt, indentTo, pushOver, column, outer, opened, opening, left, first,
      blocks, later]

/-- The position after a key. -/
theorem skip_name {c : Cursor} (name : Name) {rest : List Char} (here : c.rest = name.chars ++ rest) :
    c.skip name.chars.length =
      ⟨rest, c.index + name.chars.length, c.line, c.column + name.chars.length⟩ :=
  skip_of_ordinary here fun ch mem => by
    have named : isNameChar ch = true := List.all_eq_true.mp name.inAlphabet ch mem
    have white := isWhite_of_isNameChar named
    simp only [isWhite, isSpaceOrBreak, Bool.or_eq_false_iff] at white
    exact ⟨white.2.2, ne_of_isNameChar named rfl⟩

/-- The second step on a line with a key reads the colon. -/
theorem step_colon {c : Cursor} {indent : Nat} {e : Entry} {ls : List Line} (here : At c (.key indent e :: ls))
    {columns : List Nat} (left : kept indent columns = columns) (ts : List Token) (t : Token) :
    step (resting (c.skip e.name.chars.length) columns false [candidateAt c columns ts] (t :: ts)) =
      .ok (resting (c.skip (e.name.chars.length + 1)) (opened indent columns) false []
        (.value :: t :: .key :: (opening indent columns ++ ts))) := by
  have skipped := skip_name e.name here.1
  have stops : landing (c.skip e.name.chars.length) = c.skip e.name.chars.length ∧
      crosses (c.skip e.name.chars.length) = false := landing_of_stop (by rw [skipped]; rfl)
  obtain ⟨same, none⟩ := kept_of_le (m := (c.skip e.name.chars.length).column) left (by
    rw [skipped, ← here.2]
    exact Nat.le_add_right _ _)
  rw [step_resting, stops.1, stops.2, same, none]
  · rw [skip_add]
    exact dispatch_value (by rw [skipped]) (endsOr_afterColon e ls) here.2 left
  · rw [peek?, skipped]
    simp
  · intro p mem
    obtain rfl := List.mem_singleton.mp mem
    have short := e.name.short
    rw [stops.1, skipped]
    exact ⟨rfl, Nat.add_le_add_left short _⟩

/-- Where a letter stands at the first key, the key has the column of the position. -/
theorem firstColumn?_of_at {c : Cursor} {ls : List Line} (here : At c ls)
    (letter : startsWith Char.isAlpha c.rest = true) : firstColumn? ls = some c.column := by
  induction ls with
  | nil =>
      rw [show c.rest = [] from here] at letter
      cases letter
  | cons l ls ih =>
      cases l with
      | note n => exact ih here
      | key indent e => rw [firstColumn?, here.2]

theorem startsPlain_append {ch : Char} {cs rest : List Char} (starts : startsPlain false ch cs = true) :
    startsPlain false ch (cs ++ rest) = true := by
  cases cs with
  | nil =>
      have alone : (!(isWhite ch || isIndicator ch)) = true := by simpa [startsPlain, endsOr] using starts
      rw [startsPlain, alone, Bool.true_or]
  | cons d cs => exact starts

/-- What starts a plain scalar is neither space nor the mark of a comment. -/
theorem stop_of_startsPlain {ch : Char} {cs : List Char} (starts : startsPlain false ch cs = true) :
    (ch != ' ' && ch != '#' && !isBreak ch) = true := by
  simp only [startsPlain, Bool.or_eq_true, Bool.not_eq_true', Bool.or_eq_false_iff, Bool.and_eq_true, Bool.not_false,
    beq_iff_eq, true_and] at starts
  rcases starts with ⟨solid, noIndicator⟩ | ⟨-, rfl | rfl | rfl⟩
  · simp only [isWhite, isSpaceOrBreak, Bool.or_eq_false_iff, beq_eq_false_iff_ne] at solid
    have noComment : ch ≠ '#' := by
      rintro rfl
      cases noIndicator
    simp [solid, noComment]
  · rfl
  · rfl
  · rfl

/-- The third step on a line with a value reads it. -/
theorem exists_step_value {c : Cursor} {indent width : Nat} {v : Outline.Value} {e : Entry} {ls : List Line}
    (here : c.rest = spaces (width + 1) ++ (v.text ++ (e.remarkText ++ after ls))) {columns : List Nat}
    (left : kept indent columns = columns) (inside : (blocks columns).1 = indent) (right : indent ≤ c.column)
    (steady : ∀ k ∈ firstColumn? ls, k ≤ indent) (ts : List Token) :
    ∃ d crossed, step (resting c columns false [] ts) = .ok (resting d columns crossed [] (v.token :: ts)) ∧
      d.peek? ≠ some '\uFEFF' ∧ At (landing d) ls ∧ (ls ≠ [] → (crossed || crosses d) = true) ∧
      (landing d).rest.length < (landing c).rest.length := by
  have skipped := skip_spaces here
  have spaced := landing_of_spaces here
  obtain ⟨same, none⟩ := kept_of_le (m := (c.skip (width + 1)).column) left (by
    rw [skipped]
    exact Nat.le_trans right (Nat.le_add_right _ _))
  have noMark : c.peek? ≠ some '\uFEFF' := by
    rw [peek?, here]
    simp [spaces, List.replicate_succ]
  have start (stops : endsOr (fun ch => ch != ' ' && ch != '#' && !isBreak ch) (c.skip (width + 1)).rest = true) :
      step (resting c columns false [] ts) = (resting (c.skip (width + 1)) columns false [] ts).dispatch ∧
        landing c = c.skip (width + 1) := by
    have stops := landing_of_stop stops
    rw [step_resting noMark columns false ts (fun p mem => absurd mem List.not_mem_nil), spaced.1, spaced.2, stops.1,
      stops.2, same, none]
    exact ⟨rfl, rfl⟩
  have column : (c.skip (width + 1)).column ≠ 0 := by
    rw [skipped]
    exact Nat.succ_ne_zero _
  have rest : (c.skip (width + 1)).rest = v.text ++ (e.remarkText ++ after ls) := by rw [skipped]
  cases v with
  | word chars isWord =>
      have behind : ((c.skip (width + 1)).skip chars.length).rest = e.remarkText ++ after ls := by
        rw [rest_skip, rest, Outline.Value.text, List.drop_left]
      obtain ⟨lands, crossed⟩ := at_landing_remark e behind
      -- the word does not go on: the next key, if one follows, is not to the right of this one
      have leftOf (letter : startsWith Char.isAlpha (landing ((c.skip (width + 1)).skip chars.length)).rest = true) :
          ((landing ((c.skip (width + 1)).skip chars.length)).column : Int) < (blocks columns).1 + 1 := by
        rw [inside]
        exact Int.lt_add_one_of_le (Int.ofNat_le.mpr (steady _ (firstColumn?_of_at lands letter)))
      obtain ⟨d, crossedGap, read, landed, crossedAll, tidy⟩ :=
        Scalar.plain_word isWord rest (endsOr_remark rfl rfl e ls) (tidy_remark e ls) leftOf
      cases chars with
      | nil => cases isWord
      | cons ch chars =>
          simp only [Outline.isWord, Bool.and_eq_true] at isWord
          have starts : startsPlain false ch (chars ++ (e.remarkText ++ after ls)) = true :=
            startsPlain_append isWord.1.1
          obtain ⟨stepped, started⟩ := start (by rw [rest]; exact stop_of_startsPlain starts)
          have shorter : (landing d).rest.length < (landing c).rest.length := by
            have le := length_rest_landing_le ((c.skip (width + 1)).skip (ch :: chars).length)
            rw [landed, started, rest]
            rw [behind] at le
            simp only [Outline.Value.text, List.length_append, List.length_cons] at le ⊢
            omega
          refine ⟨d, crossedGap, ?_, tidy.noMark, landed ▸ lands, fun more => crossedAll.trans (crossed more), shorter⟩
          rw [stepped, dispatch_plain rfl rest starts (.inl column)]
          simp [plain, addCandidate, resting, Except.map, pushScalar, push, read, Outline.Value.token]
  | quoted chars isQuotable =>
      have rest : (c.skip (width + 1)).rest = '"' :: (chars ++ '"' :: (e.remarkText ++ after ls)) := by
        simp only [rest, Outline.Value.text, List.cons_append, List.append_assoc, List.nil_append]
      have read := Scalar.quoted_text isQuotable rest
      have behind : ((c.skip (width + 1)).skip (chars.length + 2)).rest = e.remarkText ++ after ls := by
        rw [rest_skip, rest]
        simp
      obtain ⟨lands, crossed⟩ := at_landing_remark e behind
      obtain ⟨stepped, started⟩ := start (by rw [rest]; rfl)
      have shorter : (landing ((c.skip (width + 1)).skip (chars.length + 2))).rest.length <
          (landing c).rest.length := by
        have le := length_rest_landing_le ((c.skip (width + 1)).skip (chars.length + 2))
        rw [started, rest]
        rw [behind] at le
        simp only [List.length_append, List.length_cons] at le ⊢
        omega
      refine ⟨_, false, ?_, (behind.symm ▸ tidy_remark e ls).noMark, lands, crossed, shorter⟩
      rw [stepped, dispatch_quoted rest]
      simp [Lexer.quoted, addCandidate, resting, pushScalar, push, read, Outline.Value.token, bind, Except.bind, pure,
        Except.pure]

/-! ### Runs -/

/-- With enough fuel a run from a state ends with the tokens. -/
def Scans (l : Lexer) (ts : List Token) : Prop :=
  ∀ fuel, (landing l.cursor).rest.length + 2 ≤ fuel → ∃ last, run fuel l = .ok last ∧ last.tokens.reverse = ts

theorem scans_of_step {l next : Lexer} {ts : List Token} (goesOn : l.finished = false) (stepped : step l = .ok next)
    (shorter : (landing next.cursor).rest.length < (landing l.cursor).rest.length) (scans : Scans next ts) :
    Scans l ts := by
  intro fuel enough
  obtain ⟨fuel, rfl⟩ := Nat.exists_eq_succ_of_ne_zero (Nat.ne_of_gt (Nat.lt_of_lt_of_le (Nat.succ_pos _) enough))
  obtain ⟨last, ran, read⟩ := scans fuel (by omega)
  refine ⟨last, ?_, read⟩
  rw [run, goesOn, stepped]
  exact ran

/-- At the end of the text the open blocks are ended. -/
theorem scans_of_end {c : Cursor} (noMark : c.peek? ≠ some '\uFEFF') (stop : (landing c).rest = [])
    (columns : List Nat) (keyAllowed : Bool) (ts : List Token) :
    Scans (resting c columns keyAllowed [] ts) (ts.reverse ++ List.replicate columns.length .blockEnd) := by
  have popped : (resting (landing c) (kept (landing c).column columns) (keyAllowed || crosses c) []
      (List.replicate (ended (landing c).column columns) .blockEnd ++ ts)).unwind (-1) =
        resting (landing c) [] (keyAllowed || crosses c) [] (List.replicate columns.length .blockEnd ++ ts) := by
    refine (unwindTo_end _ _ _ _ _).trans ?_
    rw [← List.append_assoc, List.replicate_append_replicate, Nat.add_comm, ended_add_length_kept]
  obtain ⟨last, stepped, done, read⟩ : ∃ last, step (resting c columns keyAllowed [] ts) = .ok last ∧
      last.finished = true ∧ last.tokens = List.replicate columns.length .blockEnd ++ ts := by
    rw [step_resting noMark columns keyAllowed ts (fun p mem => absurd mem List.not_mem_nil), dispatch_end stop, finish,
      popped]
    exact ⟨_, rfl, rfl, rfl⟩
  intro fuel enough
  obtain ⟨fuel, rfl⟩ : ∃ n, fuel = n + 2 := ⟨fuel - 2, by omega⟩
  refine ⟨last, ?_, by rw [read, List.reverse_append, List.reverse_replicate]⟩
  have goesOn : (resting c columns keyAllowed [] ts).finished = false := rfl
  rw [run, goesOn, stepped]
  simp only [Bool.false_eq_true, if_false, Except.bind, run, done, if_true]

/-- The tokens of a key and its colon, in the order in which they are kept. -/
def keyTokens (indent : Nat) (e : Entry) (columns : List Nat) (ts : List Token) : List Token :=
  .value :: .scalar e.name.chars true :: .key ::
    (opening indent columns ++ (List.replicate (ended indent columns) .blockEnd ++ ts))

theorem reverse_tokensIn_key (indent : Nat) (e : Entry) (ls : List Line) (columns : List Nat) (ts : List Token) :
    ts.reverse ++ tokensIn columns (.key indent e :: ls) =
      (keyTokens indent e columns ts).reverse ++ (e.valueTokens ++ tokensIn (opened indent columns) ls) := by
  simp [tokensIn, keyTokens, opening_reverse]

/-- **From a state between two lines the tokens of the lines that follow are read.** -/
theorem scans_resting (ls : List Line) {c : Cursor} (keyAllowed : Bool) (noMark : c.peek? ≠ some '\uFEFF')
    (lands : At (landing c) ls) (allowed : ls ≠ [] → (keyAllowed || crosses c) = true) (steady : Steady ls)
    (columns : List Nat) (ts : List Token) :
    Scans (resting c columns keyAllowed [] ts) (ts.reverse ++ tokensIn columns ls) := by
  -- by induction on the lines: a line with a key takes two or three steps, for the key, its colon and its value, and
  -- each of them leaves less text behind the landing
  induction ls generalizing c keyAllowed columns ts with
  | nil => exact scans_of_end noMark lands columns keyAllowed ts
  | cons l ls ih =>
      cases l with
      | note n => exact ih keyAllowed noMark lands (fun _ => allowed (List.cons_ne_nil _ _)) steady columns ts
      | key indent e =>
          have keyRead := step_key noMark lands (allowed (List.cons_ne_nil _ _)) columns ts
          have colonRead := step_colon lands (kept_kept indent columns)
            (List.replicate (ended indent columns) .blockEnd ++ ts) (.scalar e.name.chars true)
          rw [opened_kept, opening_kept] at colonRead
          have nameFirst : 0 < e.name.chars.length := by
            obtain ⟨ch, cs, chars, -⟩ := e.name.exists_letter
            rw [chars]
            exact Nat.succ_pos _
          have named := skip_name e.name lands.1
          have passed : ((landing c).skip (e.name.chars.length + 1)).rest = e.afterColon ++ after ls := by
            rw [skip_add, rest_skip, named, List.drop_succ_cons, List.drop_zero]
          have atColon : (landing ((landing c).skip e.name.chars.length)).rest =
              ':' :: (e.afterColon ++ after ls) := by
            rw [(landing_of_stop (by rw [named]; rfl)).1, named]
          refine scans_of_step rfl keyRead ?_ (scans_of_step rfl colonRead ?_ ?_)
          · simp only [resting, atColon, lands.1, List.length_append, List.length_cons]
            omega
          · refine Nat.lt_of_le_of_lt (length_rest_landing_le _) ?_
            simp only [resting, passed, atColon, List.length_cons]
            omega
          · rw [reverse_tokensIn_key]
            cases value : e.value with
            | none =>
                have rest : ((landing c).skip (e.name.chars.length + 1)).rest = e.remarkText ++ after ls := by
                  rw [passed, Entry.afterColon, Entry.valueText, value]
                  rfl
                obtain ⟨lands', crossed⟩ := at_landing_remark e rest
                have scans := ih false (rest.symm ▸ tidy_remark e ls).noMark lands' crossed steady.2
                  (opened indent columns) (keyTokens indent e columns ts)
                rwa [Entry.valueTokens, value]
            | some v =>
                have rest : ((landing c).skip (e.name.chars.length + 1)).rest =
                    spaces (v.1 + 1) ++ (v.2.text ++ (e.remarkText ++ after ls)) := by
                  rw [passed, Entry.afterColon, Entry.valueText, value]
                  simp
                have right : indent ≤ ((landing c).skip (e.name.chars.length + 1)).column := by
                  rw [skip_add, named, ← lands.2]
                  exact Nat.le_trans (Nat.le_add_right _ _) (Nat.le_succ _)
                obtain ⟨d, crossed, valueRead, noMark', lands', allowed', shorter⟩ :=
                  exists_step_value rest (kept_opened indent columns) (blocks_opened indent columns) right
                    (steady.1 (by rw [value]; rfl)) (keyTokens indent e columns ts)
                refine scans_of_step rfl valueRead shorter ?_
                have scans := ih _ noMark' lands' allowed' steady.2 (opened indent columns)
                  (v.2.token :: keyTokens indent e columns ts)
                rw [List.reverse_cons, List.append_assoc] at scans
                rwa [Entry.valueTokens, value]

end Lexer

/-- **The text of an outline is cut into the tokens of its lines.** -/
theorem Token.scan_text (ls : List Outline.Line) (steady : Outline.Steady ls) :
    Token.scan (Outline.text ls) = .ok (Outline.tokens ls) := by
  have scans := scans_resting ls (c := .start (Outline.text ls)) true (Outline.tidy_text ls).noMark
    (Outline.at_landing_text rfl rfl) (fun _ => Bool.true_or _) steady [] []
  obtain ⟨last, ran, read⟩ := scans ((Outline.text ls).length + 2)
    (Nat.add_le_add_right (length_rest_landing_le _) 2)
  rw [scan, show Lexer.start (Outline.text ls) = resting (.start (Outline.text ls)) [] true [] [] from rfl, ran,
    Except.map, read]
  rfl

end EditHistory.Yaml
