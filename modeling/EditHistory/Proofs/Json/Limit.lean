import EditHistory.Json.Guard
import EditHistory.Proofs.Json.Reader

/-!
# Integers that are too long

The reader refuses a text for its form or for an integer of more digits than are converted.  For the latter the digits
really stand in the text: each function of the reader goes on with an end of what it was given, so the integer that it
stops at is a part of the whole text.

## Main definitions

* `HasLongInteger` — a text with more digits in a row than are converted
* `ReadsEnd` — a reading that leaves an end of its text and refuses for the length of an integer only if there is one

## Main statements

* `readsEnd_value` — every value is read in this way
* `hasLongInteger_of_parse` — what a refusal for the length says about the text
-/

namespace EditHistory.Json

open EditHistory.Text

/-- Whether more digits stand in a row than are converted. -/
def HasLongInteger (cs : List Char) : Prop :=
  ∃ run, run <:+: cs ∧ (∀ c ∈ run, (asciiDigit? c).isSome) ∧ Number.digitLimit < run.length

theorem HasLongInteger.of_part {cs cs' : List Char} (long : HasLongInteger cs) (part : cs <:+: cs') :
    HasLongInteger cs' := by
  obtain ⟨run, inside, digits, more⟩ := long
  exact ⟨run, inside.trans part, digits, more⟩

/-- A reading that, if it succeeds, leaves an end of its text, and that refuses the length of an integer only if there
is one that is too long. -/
structure ReadsEnd {α : Type} (cs : List Char) (x : Except Stop (α × List Char)) : Prop where
  suffix : ∀ a rest, x = .ok (a, rest) → rest <:+ cs
  long : ∀ stop, x = .error stop → stop.fault.isSyntactic = false → HasLongInteger cs

section

variable {α β : Type} {cs : List Char}

theorem ReadsEnd.ok {a : α} {rest : List Char} (suffix : rest <:+ cs) : ReadsEnd cs (.ok (a, rest)) where
  suffix := by
    rintro _ _ ⟨⟩
    exact suffix
  long := nofun

theorem ReadsEnd.syntactic {fault : Fault} {left : Nat} (syntactic : fault.isSyntactic = true) :
    ReadsEnd cs (.error ⟨fault, left⟩ : Except Stop (α × List Char)) where
  suffix := nofun
  long := by
    rintro _ ⟨⟩ blamed
    rw [syntactic] at blamed
    cases blamed

theorem ReadsEnd.of_suffix {cs' : List Char} {x : Except Stop (α × List Char)} (reads : ReadsEnd cs x)
    (suffix : cs <:+ cs') : ReadsEnd cs' x where
  suffix a rest read := (reads.suffix a rest read).trans suffix
  long stop stopped blamed := (reads.long stop stopped blamed).of_part suffix.isInfix

/-- A reading continued by another one on what it leaves. -/
theorem ReadsEnd.bind {x : Except Stop (α × List Char)} {f : α × List Char → Except Stop (β × List Char)}
    (reads : ReadsEnd cs x) (next : ∀ a rest, rest <:+ cs → ReadsEnd cs (f (a, rest))) : ReadsEnd cs (x >>= f) := by
  cases x with
  | error stop => exact ⟨nofun, fun _ same blamed => reads.long stop rfl (Except.error.inj same ▸ blamed)⟩
  | ok read => exact next read.1 read.2 (reads.suffix read.1 read.2 rfl)

end

theorem skipSpace_suffix (cs : List Char) : skipSpace cs <:+ cs :=
  List.dropWhile_suffix isSpace

theorem suffix_of_skipSpace {cs rest : List Char} {c : Char} (skipped : skipSpace cs = c :: rest) : rest <:+ cs :=
  (List.suffix_cons c rest).trans (skipped ▸ skipSpace_suffix cs)

/-! ### Texts -/

theorem hex4?_suffix {cs rest : List Char} {n : Nat} (read : hex4? cs = some (n, rest)) : rest <:+ cs := by
  obtain ⟨a, b, c, d, rfl, -⟩ := exists_of_hex4? read
  exact ⟨[a, b, c, d], rfl⟩

theorem readsEnd_unicodeEscape? (cs : List Char) : ReadsEnd cs (unicodeEscape? cs) := by
  unfold unicodeEscape?
  split
  · exact .syntactic rfl
  · rename_i n rest read
    have suffix := hex4?_suffix read
    split
    · exact .syntactic rfl
    · split
      · split
        · rename_i more _
          split
          · exact .ok suffix
          · split
            · exact .syntactic rfl
            · rename_i m rest' second
              have suffix' := hex4?_suffix second
              split
              · have escape : rest' <:+ '\\' :: 'u' :: more :=
                  suffix'.trans ((more.suffix_cons 'u').trans (List.suffix_cons '\\' _))
                exact .ok (escape.trans suffix)
              · exact .ok suffix
        · exact .ok suffix
      · exact .ok suffix

theorem readsEnd_string (start fuel : Nat) (cs : List Char) : ReadsEnd cs (string start fuel cs) := by
  induction fuel generalizing cs with
  | zero => exact .syntactic rfl
  | succ fuel ih =>
      cases cs with
      | nil => exact .syntactic rfl
      | cons c cs =>
          -- What follows is read in the same way, and its characters get one more in front.
          have goesOn (d : Char) {rest : List Char} (suffix : rest <:+ c :: cs) :
              ReadsEnd (c :: cs) (string start fuel rest >>= fun read => .ok (d :: read.1, read.2)) :=
            ((ih rest).of_suffix suffix).bind fun ds rest suffix => .ok suffix
          unfold string
          split
          · exact .ok (cs.suffix_cons c)
          · split
            · split
              · exact .syntactic rfl
              · rename_i rest
                have within : rest <:+ c :: 'u' :: rest := (rest.suffix_cons 'u').trans (List.suffix_cons c _)
                exact ((readsEnd_unicodeEscape? rest).of_suffix within).bind fun d more suffix => goesOn d suffix
              · rename_i e rest _
                split
                · exact .syntactic rfl
                · exact goesOn _ ((rest.suffix_cons e).trans (List.suffix_cons c _))
            · split
              · exact .syntactic rfl
              · exact goesOn c (cs.suffix_cons c)

/-! ### Numbers -/

/-- The digits that are taken stand at the front. -/
theorem takeDigits_eq_append (cs : List Char) :
    ∃ run, cs = run ++ (Number.takeDigits cs).2 ∧ (∀ c ∈ run, (asciiDigit? c).isSome) ∧
      run.length = (Number.takeDigits cs).1.length := by
  induction cs with
  | nil => exact ⟨[], rfl, by simp, rfl⟩
  | cons c cs ih =>
      obtain ⟨run, split, digits, length⟩ := ih
      unfold Number.takeDigits
      cases digit : asciiDigit? c with
      | none => exact ⟨[], rfl, by simp, rfl⟩
      | some d =>
          refine ⟨c :: run, by rw [List.cons_append, ← split], ?_, congrArg (· + 1) length⟩
          exact List.forall_mem_cons.mpr ⟨by rw [digit]; rfl, digits⟩

theorem takeDigits_suffix (cs : List Char) : (Number.takeDigits cs).2 <:+ cs := by
  obtain ⟨run, split, -⟩ := takeDigits_eq_append cs
  exact ⟨run, split.symm⟩

/-- The digits of the integer part stand at the front of what follows them. -/
theorem wholeDigits?_eq_append {cs rest : List Char} {ds : List Nat} (read : wholeDigits? cs = some (ds, rest)) :
    ∃ run, cs = run ++ rest ∧ (∀ c ∈ run, (asciiDigit? c).isSome) ∧ run.length = ds.length := by
  unfold wholeDigits? at read
  split at read
  · obtain ⟨rfl, rfl⟩ := Prod.mk.inj (Option.some.inj read)
    exact ⟨['0'], rfl, List.forall_mem_singleton.mpr rfl, rfl⟩
  · obtain ⟨run, split, digits, length⟩ := takeDigits_eq_append cs
    rcases taken : Number.takeDigits cs with ⟨_ | ⟨d, more⟩, after⟩
    · rw [taken] at read
      cases read
    · rw [taken] at read split length
      obtain ⟨rfl, rfl⟩ := Prod.mk.inj (Option.some.inj read)
      exact ⟨run, split, digits, length⟩

theorem fraction_suffix (cs : List Char) : (fraction cs).2 <:+ cs := by
  unfold fraction
  split
  · rename_i after
    have suffix := takeDigits_suffix after
    split
    · exact List.suffix_rfl
    · rename_i digits rest _ taken
      rw [taken] at suffix
      exact suffix.trans (after.suffix_cons '.')
  · exact List.suffix_rfl

theorem takeSign_suffix (cs : List Char) : (Number.takeSign cs).2 <:+ cs := by
  unfold Number.takeSign
  split
  · exact List.suffix_cons _ _
  · exact List.suffix_cons _ _
  · exact List.suffix_rfl

theorem exponent?_suffix {cs rest : List Char} {e : Int} (read : exponent? cs = some (e, rest)) : rest <:+ cs := by
  unfold exponent? at read
  split at read
  · rename_i c after
    split at read
    · have suffix := (takeDigits_suffix (Number.takeSign after).2).trans (takeSign_suffix after)
      rcases taken : Number.takeDigits (Number.takeSign after).2 with ⟨_ | ⟨d, digits⟩, more⟩
      · simp only [taken] at read
        cases read
      · simp only [taken] at read suffix
        obtain ⟨-, rfl⟩ := Prod.mk.inj (Option.some.inj read)
        exact suffix.trans (after.suffix_cons c)
    · cases read
  · cases read

/-- What a number leaves is an end of the text, and an integer is refused only if its digits are too many. -/
theorem number?_suffix {cs rest : List Char} {v : Except Fault Value} (read : number? cs = some (v, rest)) :
    rest <:+ cs ∧ ∀ fault, v = .error fault → HasLongInteger cs := by
  obtain ⟨body, whole, after, sign, digits, scale, refused⟩ := exists_of_number? read
  obtain ⟨run, split, isDigit, length⟩ := wholeDigits?_eq_append digits
  have unsigned : run ++ after <:+ cs := by
    rw [← split]
    rcases sign with rfl | rfl
    · exact List.suffix_rfl
    · exact List.suffix_cons _ _
  have afterwards : (fraction after).2 <:+ cs :=
    (fraction_suffix after).trans ((List.suffix_append run after).trans unsigned)
  refine ⟨?_, fun fault blamed => ⟨run, ?_, isDigit, length ▸ (refused fault blamed).2⟩⟩
  · rcases scale with rfl | ⟨e, scale⟩
    · exact afterwards
    · exact (exponent?_suffix scale).trans afterwards
  · exact (run.prefix_append after).isInfix.trans unsigned.isInfix

theorem dropMark?_suffix {mark cs rest : List Char} (dropped : dropMark? mark cs = some rest) : rest <:+ cs := by
  induction mark generalizing cs with
  | nil => exact Option.some.inj dropped ▸ List.suffix_rfl
  | cons m mark ih =>
      cases cs with
      | nil => cases dropped
      | cons c cs =>
          unfold dropMark? at dropped
          split at dropped
          · exact (ih dropped).trans (cs.suffix_cons c)
          · cases dropped

theorem readsEnd_atom (cs : List Char) : ReadsEnd cs (atom cs) := by
  unfold atom
  split
  · rename_i read found
    obtain ⟨⟨name, v⟩, -, dropped⟩ := List.exists_of_findSome?_eq_some found
    obtain ⟨rest, marked, rfl⟩ := Option.map_eq_some_iff.mp dropped
    exact .ok (dropMark?_suffix marked)
  · split
    · rename_i read
      exact .ok (number?_suffix read).1
    · rename_i fault rest read
      exact ⟨nofun, fun _ _ _ => (number?_suffix read).2 fault rfl⟩
    · exact .syntactic rfl

/-! ### Values -/

mutual

/-- **What a value leaves is an end of its text**, and it is refused for the length of an integer only if there is one
that is too long. -/
theorem readsEnd_value : ∀ (fuel : Nat) (cs : List Char), ReadsEnd cs (value fuel cs)
  | 0, cs => .syntactic rfl
  | fuel + 1, cs => by
      unfold value
      split
      · rename_i rest
        exact ((readsEnd_string _ _ rest).of_suffix (rest.suffix_cons _)).bind fun s more suffix => .ok suffix
      · rename_i rest
        have opened : skipSpace rest <:+ '[' :: rest := (skipSpace_suffix rest).trans (rest.suffix_cons _)
        split
        · rename_i more closed
          exact .ok ((suffix_of_skipSpace closed).trans (rest.suffix_cons _))
        · exact ((readsEnd_items fuel _).of_suffix opened).bind fun items more suffix => .ok suffix
      · rename_i rest
        have opened : skipSpace rest <:+ '\x7b' :: rest := (skipSpace_suffix rest).trans (rest.suffix_cons _)
        split
        · rename_i more closed
          exact .ok ((suffix_of_skipSpace closed).trans (rest.suffix_cons _))
        · exact ((readsEnd_fields fuel _ _).of_suffix opened).bind fun fields more suffix => .ok suffix
      · exact readsEnd_atom _

theorem readsEnd_items : ∀ (fuel : Nat) (cs : List Char), ReadsEnd cs (items fuel cs)
  | 0, cs => .syntactic rfl
  | fuel + 1, cs => by
      unfold items
      refine (readsEnd_value fuel cs).bind fun v rest suffix => ?_
      simp only
      split
      · rename_i more closed
        exact .ok ((suffix_of_skipSpace closed).trans suffix)
      · rename_i more comma
        have next := (skipSpace_suffix more).trans ((suffix_of_skipSpace comma).trans suffix)
        exact ((readsEnd_items fuel _).of_suffix next).bind fun vs after suffix => .ok suffix
      · exact .syntactic rfl

theorem readsEnd_fields : ∀ (fuel : Nat) (done : List (String × Value)) (cs : List Char),
    ReadsEnd cs (fields fuel done cs)
  | 0, done, cs => .syntactic rfl
  | fuel + 1, done, cs => by
      unfold fields
      split
      · rename_i rest
        refine ((readsEnd_string _ _ rest).of_suffix (rest.suffix_cons _)).bind fun key more suffix => ?_
        simp only
        split
        · rename_i after colon
          have field := (skipSpace_suffix after).trans ((suffix_of_skipSpace colon).trans suffix)
          refine ((readsEnd_value fuel _).of_suffix field).bind fun v last suffix => ?_
          simp only
          split
          · rename_i final closed
            exact .ok ((suffix_of_skipSpace closed).trans suffix)
          · rename_i final comma
            have next := (skipSpace_suffix final).trans ((suffix_of_skipSpace comma).trans suffix)
            exact (readsEnd_fields fuel _ _).of_suffix next
          · exact .syntactic rfl
        · exact .syntactic rfl
      · exact .syntactic rfl

end

/-! ### A whole text -/

/-- **A text that is refused for the length of an integer** has one that is too long. -/
theorem hasLongInteger_of_parse {cs : List Char} {e : Error} (refused : parse cs = .error e)
    (blamed : e.fault.isSyntactic = false) : HasLongInteger cs := by
  unfold parse at refused
  split at refused
  · obtain rfl := Except.error.inj refused
    cases blamed
  · unfold parseUnmarked at refused
    simp only at refused
    cases read : value (2 * cs.length + 2) (skipSpace cs) with
    | error stop =>
        rw [read] at refused
        obtain rfl := Except.error.inj refused
        exact ((readsEnd_value _ _).long stop read blamed).of_part (skipSpace_suffix cs).isInfix
    | ok found =>
        rw [read] at refused
        cases left : skipSpace found.2 with
        | nil =>
            simp only [bind, Except.bind, left] at refused
            cases refused
        | cons c more =>
            simp only [bind, Except.bind, left] at refused
            obtain rfl := Except.error.inj refused
            cases blamed

/-- The text behind a guard is an end of the whole. -/
theorem dropGuard_suffix (cs : List Char) : dropGuard cs <:+ cs := by
  unfold dropGuard
  split
  · rename_i rest dropped
    have blanks (cs : List Char) : trimStart cs <:+ cs := List.dropWhile_suffix isBlank
    exact (blanks rest).trans ((dropMark?_suffix dropped).trans (blanks cs))
  · exact List.suffix_rfl

end EditHistory.Json
