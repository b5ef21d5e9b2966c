import EditHistory.Proofs.Json.Grammar
import EditHistory.Proofs.Json.Limit
import EditHistory.Proofs.Json.Writer
import EditHistory.Proofs.Results
import EditHistory.Proofs.Text.Blank

/-!
# The texts that are accepted as JSON

The reader accepts the texts of the grammar and no others; only an integer that is too long to be converted makes it
refuse a text of the grammar.

That a text of the grammar is read is an induction on how the grammar derives it.  The grammar lets digits end wherever
it pleases, while the reader takes as many as there are; both leave the same because what follows a number in a text can
never belong to it, and every lemma about numbers has this as a condition on the rest.  That what is read is in the
grammar is an induction on the fuel, along the functions of the reader.

## Main definitions

* `Takes` — a reading that leaves what it should, or meets an integer that is too long

## Main statements

* `SpansValue.takes_value`, `yields_value` — a value at the front of a text
* `parse_of_isText`, `isText_of_parse` — a whole text
* `exists_parse_iff_isText` — the texts without long integers that are accepted
-/

namespace EditHistory.Json

open EditHistory.Text Number

variable {c : Char} {cs rest : List Char}

/-! ### Spaces -/

theorem spansSpaces_skipSpace (cs : List Char) : SpansSpaces cs (skipSpace cs) := by
  induction cs with
  | nil => exact .none []
  | cons c cs ih =>
      unfold skipSpace at ih ⊢
      by_cases space : isSpace c = true
      · rw [List.dropWhile_cons_of_pos space]
        exact .next space ih
      · rw [List.dropWhile_cons_of_neg space]
        exact .none _

/-- No space belongs to a number. -/
theorem SpansSpaces.endsNumber (spaces : SpansSpaces cs rest) (ends : EndsNumber rest) : EndsNumber cs := by
  cases spaces with
  | none => exact ends
  | next space more =>
      rintro _ ⟨⟩
      simp only [isSpace, Bool.or_eq_true, decide_eq_true_eq] at space
      rcases space with ((rfl | rfl) | rfl) | rfl <;> decide

/-! ### Strings -/

theorem exists_hex4? {a b c d : Char} (digits : ∀ x ∈ [a, b, c, d], (hexDigit? x).isSome) (rest : List Char) :
    ∃ n, hex4? (a :: b :: c :: d :: rest) = some (n, rest) := by
  simp only [List.forall_mem_cons, List.not_mem_nil, false_imp_iff, implies_true, and_true,
    Option.isSome_iff_exists] at digits
  obtain ⟨⟨k, first⟩, ⟨l, second⟩, ⟨m, third⟩, ⟨n, fourth⟩⟩ := digits
  refine ⟨((k * 16 + l) * 16 + m) * 16 + n, ?_⟩
  simp only [hex4?, first, second, third, fourth, Option.bind_eq_bind, Option.bind_some, Option.pure_def]

theorem SpansString.ne_nil (string : SpansString cs rest) : cs ≠ [] := by
  cases string <;> exact List.cons_ne_nil _ _

/-- What follows an escape in a string is the string still, also behind the second escape of a pair. -/
theorem SpansString.unicodeEscape? {a b c d : Char} (digits : ∀ x ∈ [a, b, c, d], (hexDigit? x).isSome)
    (more : SpansString cs rest) :
    ∃ x cs', unicodeEscape? (a :: b :: c :: d :: cs) = .ok (x, cs') ∧ SpansString cs' rest := by
  obtain ⟨n, first⟩ := exists_hex4? digits cs
  rw [Json.unicodeEscape?, first]
  simp only [if_neg more.ne_nil]
  split
  · split
    · rename_i behind
      split
      · exact ⟨_, _, rfl, more⟩
      · cases more with
        | plain notQuote notBackslash => exact absurd rfl notBackslash
        | escape known => exact absurd known (by decide)
        | unicode digits' more' =>
            obtain ⟨m, second⟩ := exists_hex4? digits' _
            rw [second]
            simp only
            split
            · exact ⟨_, _, rfl, more'⟩
            · exact ⟨_, _, rfl, .unicode digits' more'⟩
    · exact ⟨_, _, rfl, more⟩
  · exact ⟨_, _, rfl, more⟩

/-- The letters that may be escaped are those that stand for a character. -/
theorem mem_escapes_iff : c ∈ escapes ↔ ∃ d, simpleEscape? c = some d := by
  constructor
  · intro known
    simp only [escapes, List.mem_cons, List.not_mem_nil, or_false] at known
    rcases known with rfl | rfl | rfl | rfl | rfl | rfl | rfl | rfl <;> exact ⟨_, rfl⟩
  · rintro ⟨d, letter⟩
    unfold simpleEscape? at letter
    split at letter <;> first | decide | cases letter

/-- **Every string of the grammar is read.** -/
theorem SpansString.exists_string (spans : SpansString cs rest) (start : Nat) {fuel : Nat}
    (enough : cs.length < fuel) : ∃ ds, string start fuel cs = .ok (ds, rest) := by
  -- Not on the derivation: a pair of escapes is two of its steps, but one of the reader.
  induction fuel generalizing cs with
  | zero => exact absurd enough (Nat.not_lt_zero _)
  | succ fuel ih =>
      cases spans with
      | close => exact ⟨[], rfl⟩
      | plain notQuote notBackslash notControl more =>
          obtain ⟨ds, read⟩ := ih more (Nat.lt_of_succ_lt_succ enough)
          exact ⟨_, by rw [string_plain notQuote notBackslash notControl, read]; rfl⟩
      | escape known more =>
          simp only [List.length_cons] at enough
          obtain ⟨ds, read⟩ := ih more (by omega)
          obtain ⟨d, letter⟩ := mem_escapes_iff.mp known
          exact ⟨_, by rw [string_letter letter, read]; rfl⟩
      | @unicode a b c d cs _ digits more =>
          obtain ⟨x, cs', escape, more'⟩ := more.unicodeEscape? digits
          have less := consumes_unicodeEscape? _ x cs' escape
          simp only [List.length_cons] at enough less
          obtain ⟨ds, read⟩ := ih more' (by omega)
          refine ⟨x :: ds, ?_⟩
          rw [string, if_neg (by decide), if_pos rfl]
          simp only [escape, bind, Except.bind, read]
          rfl

/-! ### Numbers -/

theorem SpansDigits.exists_takeDigits (digits : SpansDigits cs rest) (ends : EndsDigits rest) :
    ∃ d ds, takeDigits cs = (d :: ds, rest) := by
  induction digits with
  | last digit =>
      obtain ⟨d, some⟩ := Option.isSome_iff_exists.mp digit
      exact ⟨d, [], by rw [takeDigits, some, takeDigits_of_endsDigits ends]⟩
  | next digit more ih =>
      obtain ⟨d, some⟩ := Option.isSome_iff_exists.mp digit
      obtain ⟨e, es, taken⟩ := ih ends
      exact ⟨d, e :: es, by rw [takeDigits, some, taken]⟩

theorem SpansExponent.endsDigits (mark : SpansExponent cs rest) (ends : EndsNumber rest) : EndsDigits cs := by
  cases mark with
  | none => exact ends.digits
  | mark known => exact endsDigits_cons (by rcases known with rfl | rfl <;> decide) _

theorem SpansFraction.endsDigits (point : SpansFraction cs rest) (ends : EndsDigits rest) : EndsDigits cs := by
  cases point with
  | none => exact ends
  | point digits => exact endsDigits_cons (by decide) _

theorem SpansWhole.exists_wholeDigits? (whole : SpansWhole cs rest) (ends : EndsDigits rest) :
    ∃ ds, wholeDigits? cs = some (ds, rest) := by
  cases whole with
  | zero => exact ⟨[0], rfl⟩
  | digits notZero digits =>
      obtain ⟨d, ds, taken⟩ := digits.exists_takeDigits ends
      refine ⟨d :: ds, ?_⟩
      rw [wholeDigits?.eq_2 _ fun _ same => notZero (List.cons.inj same).1, taken]

theorem SpansFraction.exists_fraction (point : SpansFraction cs rest) (ends : EndsDigits rest)
    (pointless : ∀ more, rest ≠ '.' :: more) : ∃ ds, fraction cs = (ds, rest) := by
  cases point with
  | none => exact ⟨[], fraction.eq_2 _ fun more same => pointless more same⟩
  | point digits =>
      obtain ⟨d, ds, taken⟩ := digits.exists_takeDigits ends
      exact ⟨d :: ds, by rw [fraction, taken]⟩

theorem SpansSign.takeSign_eq {digits : List Char} (sign : SpansSign cs digits) (starts : StartsDigits digits) :
    (takeSign cs).2 = digits := by
  cases sign with
  | none =>
      obtain ⟨c, more, rfl, digit⟩ := starts
      unfold takeSign
      split
      · rename_i same
        obtain rfl := (List.cons.inj same).1
        cases digit
      · rename_i same
        obtain rfl := (List.cons.inj same).1
        cases digit
      · rfl
  | sign known => rcases known with rfl | rfl <;> rfl

theorem SpansDigits.startsDigits (digits : SpansDigits cs rest) : StartsDigits cs := by
  cases digits <;> exact ⟨_, _, rfl, by assumption⟩

/-- An exponent that is there is taken. -/
theorem SpansExponent.exponent?_eq (mark : SpansExponent cs rest) (ends : EndsNumber rest) :
    exponent? cs = .none ∧ cs = rest ∨ ∃ e, exponent? cs = some (e, rest) := by
  cases mark with
  | none => exact Or.inl ⟨exponent?_of_endsNumber ends, rfl⟩
  | @mark c cs digits _ known sign spans =>
      obtain ⟨d, ds, taken⟩ := spans.exists_takeDigits ends.digits
      have body := sign.takeSign_eq spans.startsDigits
      refine Or.inr ⟨signed (takeSign cs).1 (ofDigits (d :: ds)), ?_⟩
      simp only [exponent?, if_pos known, body, taken]

theorem SpansExponent.ne_point (mark : SpansExponent cs rest) (ends : EndsNumber rest) (more : List Char) :
    cs ≠ '.' :: more := by
  rintro rfl
  cases mark with
  | none => exact absurd rfl (ends '.' rfl).2.1
  | mark known => exact absurd known (by decide)

theorem SpansMagnitude.startsDigits (magnitude : SpansMagnitude cs rest) : StartsDigits cs :=
  magnitude.head

/-- **Every number of the grammar is read**, whatever becomes of it. -/
theorem SpansMagnitude.exists_number? (negative : Bool) (magnitude : SpansMagnitude cs rest) (ends : EndsNumber rest) :
    ∃ v, number? (withSign negative cs) = some (v, rest) := by
  rw [number?_withSign negative magnitude.startsDigits]
  obtain ⟨whole, point, mark⟩ := magnitude
  have marked := mark.endsDigits ends
  obtain ⟨ds, read⟩ := whole.exists_wholeDigits? (point.endsDigits marked)
  obtain ⟨frac, split⟩ := point.exists_fraction marked (mark.ne_point ends)
  rw [read]
  simp only [Option.map_some, split]
  rcases mark.exponent?_eq ends with ⟨none, rfl⟩ | ⟨e, some⟩
  · rw [none]
    simp only
    split
    · split <;> exact ⟨_, rfl⟩
    · exact ⟨_, rfl⟩
  · rw [some]
    exact ⟨_, rfl⟩

/-! ### Values -/

/-- A reading that leaves what it should, or meets an integer that is too long. -/
def Takes {α : Type} (x : Except Stop (α × List Char)) (rest : List Char) : Prop :=
  (∃ a, x = .ok (a, rest)) ∨ ∃ stop, x = .error stop ∧ stop.fault.isSyntactic = false

theorem Takes.ok {α : Type} (a : α) (rest : List Char) : Takes (.ok (a, rest)) rest :=
  Or.inl ⟨a, rfl⟩

theorem Takes.bind {α β : Type} {x : Except Stop (α × List Char)} {f : α × List Char → Except Stop (β × List Char)}
    {last : List Char} (takes : Takes x rest) (next : ∀ a, x = .ok (a, rest) → Takes (f (a, rest)) last) :
    Takes (x >>= f) last := by
  rcases takes with ⟨a, rfl⟩ | ⟨stop, rfl, blamed⟩
  · exact next a rfl
  · exact Or.inr ⟨stop, rfl, blamed⟩

/-- A number is refused for nothing but the length of an integer. -/
theorem fault_of_number? {fault : Fault} (read : number? cs = some (.error fault, rest)) :
    fault.isSyntactic = false := by
  obtain ⟨-, whole, -, -, -, -, refused⟩ := exists_of_number? read
  rw [(refused fault rfl).1]
  rfl

theorem takes_atom_withSign (negative : Bool) (magnitude : SpansMagnitude cs rest) (ends : EndsNumber rest) :
    Takes (atom (withSign negative cs)) rest := by
  obtain ⟨fault | v, read⟩ := magnitude.exists_number? negative ends
  · rw [atom, literals_of_startsDigits magnitude.startsDigits, read]
    exact Or.inr ⟨_, rfl, fault_of_number? read⟩
  · rw [atom, literals_of_startsDigits magnitude.startsDigits, read]
    exact .ok v rest

theorem takes_value_of_startsAtom {fuel : Nat} (starts : ∃ c more, cs = c :: more ∧ StartsAtom c)
    (takes : Takes (atom cs) rest) : Takes (value (fuel + 1) cs) rest := by
  obtain ⟨c, more, rfl, starts⟩ := starts
  rw [value_of_startsAtom starts]
  exact takes

theorem takes_value_of_name {name : List Char} {v : Value} (known : (name, v) ∈ literals) (fuel : Nat)
    (rest : List Char) : Takes (value (fuel + 1) (name ++ rest)) rest := by
  simp only [literals, List.mem_cons, Prod.mk.injEq, List.not_mem_nil, or_false] at known
  rcases known with ⟨rfl, rfl⟩ | ⟨rfl, rfl⟩ | ⟨rfl, rfl⟩ | ⟨rfl, rfl⟩ | ⟨rfl, rfl⟩ | ⟨rfl, rfl⟩ <;> exact .ok _ rest

theorem SpansNumber.takes_value (number : SpansNumber cs rest) (ends : EndsNumber rest) (fuel : Nat) :
    Takes (value (fuel + 1) cs) rest := by
  cases number with
  | plain magnitude =>
      exact takes_value_of_startsAtom (startsAtom_withSign false magnitude.startsDigits)
        (takes_atom_withSign false magnitude ends)
  | minus magnitude =>
      exact takes_value_of_startsAtom (startsAtom_withSign true magnitude.startsDigits)
        (takes_atom_withSign true magnitude ends)

/-- A mark behind spaces is where the reader goes on. -/
theorem SpansSpaces.skipSpace_mark (spaces : SpansSpaces cs (c :: rest)) (solid : isSpace c = false) :
    skipSpace cs = c :: rest :=
  spaces.skipSpace_eq.trans (skipSpace_solid solid rest)

theorem SpansSpaces.endsNumber_mark (spaces : SpansSpaces cs (c :: rest))
    (mark : asciiDigit? c = .none ∧ c ≠ '.' ∧ c ≠ 'e' ∧ c ≠ 'E') : EndsNumber cs := by
  refine spaces.endsNumber ?_
  rintro _ ⟨⟩
  exact mark

theorem SpansSpaces.length_le (spaces : SpansSpaces cs rest) : rest.length ≤ cs.length := by
  induction spaces with
  | none => exact Nat.le_refl _
  | next space more ih => exact Nat.le_succ_of_le ih

theorem SpansItems.canStart (items : SpansItems cs rest) : ∃ c more, cs = c :: more ∧ CanStart c ∧ c ≠ ']' := by
  cases items with
  | last value => exact value.canStart
  | next value => exact value.canStart

theorem SpansItems.skipSpace_eq (items : SpansItems cs rest) : skipSpace cs = cs := by
  obtain ⟨c, more, rfl, start, -⟩ := items.canStart
  exact start.skipSpace_eq more

theorem SpansFields.exists_quote (fields : SpansFields cs rest) : ∃ more, cs = '"' :: more := by
  cases fields with
  | last field =>
      obtain ⟨key, -⟩ := field
      exact ⟨_, rfl⟩
  | next field =>
      obtain ⟨key, -⟩ := field
      exact ⟨_, rfl⟩

theorem SpansFields.skipSpace_eq (fields : SpansFields cs rest) : skipSpace cs = cs := by
  obtain ⟨more, rfl⟩ := fields.exists_quote
  exact skipSpace_solid (by decide) more

/-- How the fields of an object go on behind one of them.  The reader has no function for a single field, so the lemma
about one takes what is known of the others as a condition on this. -/
def fieldsBehind (fuel : Nat) (done : List (String × Value)) (cs : List Char) :
    Except Stop (List (String × Value) × List Char) :=
  match skipSpace cs with
  | '\x7d' :: rest => .ok (done, rest)
  | ',' :: rest => fields fuel done (skipSpace rest)
  | rest => stopAt .expectingComma rest

mutual

/-- **Every value of the grammar is read**, if what follows does not go on with a number. -/
theorem SpansValue.takes_value : ∀ {cs rest : List Char}, SpansValue cs rest → EndsNumber rest → ∀ fuel,
    2 * cs.length + 1 ≤ fuel → Takes (value fuel cs) rest
  | _, _, _, _, 0, enough => by omega
  | _, _, .name known rest, _, fuel + 1, _ => takes_value_of_name known fuel rest
  | _, _, .number number, ends, fuel + 1, _ => number.takes_value ends fuel
  | _, rest, .string string, _, fuel + 1, _ => by
      obtain ⟨ds, read⟩ := string.exists_string _ (Nat.lt_succ_self _)
      rw [value, read]
      exact .ok _ rest
  | _, rest, .emptyList close, _, fuel + 1, _ => by
      rw [value, close.skipSpace_mark (by decide)]
      exact .ok _ rest
  | _, rest, .list spaces items, _, fuel + 1, enough => by
      have le := spaces.length_le
      rw [List.length_cons] at enough
      have front := spaces.skipSpace_eq.trans items.skipSpace_eq
      have takes := items.takes_items fuel (by omega)
      obtain ⟨c, more, rfl, -, filled⟩ := items.canStart
      rw [value_list front filled]
      exact takes.bind fun vs _ => .ok _ rest
  | _, rest, .emptyObject close, _, fuel + 1, _ => by
      rw [value, close.skipSpace_mark (by decide)]
      exact .ok _ rest
  | _, rest, .object spaces fields, _, fuel + 1, enough => by
      have le := spaces.length_le
      rw [List.length_cons] at enough
      have front := spaces.skipSpace_eq.trans fields.skipSpace_eq
      have takes := fields.takes_fields fuel (by omega) []
      obtain ⟨more, rfl⟩ := fields.exists_quote
      rw [value_object front (by decide)]
      exact takes.bind fun vs _ => .ok _ rest

theorem SpansItems.takes_items : ∀ {cs rest : List Char}, SpansItems cs rest → ∀ fuel,
    2 * cs.length + 2 ≤ fuel → Takes (items fuel cs) rest
  | _, _, _, 0, enough => by omega
  | _, rest, .last value close, fuel + 1, enough => by
      unfold items
      refine (value.takes_value (close.endsNumber_mark (by decide)) fuel (by omega)).bind fun v _ => ?_
      simp only [close.skipSpace_mark (by decide)]
      exact .ok _ rest
  | _, rest, .next value comma spaces more, fuel + 1, enough => by
      unfold items
      refine (value.takes_value (comma.endsNumber_mark (by decide)) fuel (by omega)).bind fun v read => ?_
      have less := consumes_value _ _ _ _ read
      have le := comma.length_le
      have le' := spaces.length_le
      rw [List.length_cons] at le
      simp only [comma.skipSpace_mark (by decide), spaces.skipSpace_eq, more.skipSpace_eq]
      exact (more.takes_items fuel (by omega)).bind fun vs _ => .ok _ rest

theorem SpansFields.takes_fields : ∀ {cs rest : List Char}, SpansFields cs rest → ∀ fuel,
    2 * cs.length + 2 ≤ fuel → ∀ done, Takes (fields fuel done cs) rest
  | _, _, _, 0, enough, _ => by omega
  | _, rest, .last field close, fuel + 1, enough, done => by
      refine field.takes_fields (close.endsNumber_mark (by decide)) fuel (by omega) done fun done' _ => ?_
      rw [fieldsBehind, close.skipSpace_mark (by decide)]
      exact .ok _ rest
  | _, rest, .next field comma spaces more, fuel + 1, enough, done => by
      refine field.takes_fields (comma.endsNumber_mark (by decide)) fuel (by omega) done fun done' less => ?_
      have le := comma.length_le
      have le' := spaces.length_le
      rw [List.length_cons] at le
      rw [fieldsBehind, comma.skipSpace_mark (by decide)]
      simp only [spaces.skipSpace_eq, more.skipSpace_eq]
      exact more.takes_fields fuel (by omega) done'

theorem SpansField.takes_fields : ∀ {cs behind : List Char}, SpansField cs behind → EndsNumber behind → ∀ fuel,
    2 * cs.length ≤ fuel → ∀ done {last : List Char},
    (∀ done', behind.length < cs.length → Takes (fieldsBehind fuel done' behind) last) →
    Takes (fields (fuel + 1) done cs) last
  | _, _, @SpansField.field cs _ _ _ _ key colon spaces value, ends, fuel, enough, done, last, goesOn => by
      obtain ⟨ds, name⟩ := key.exists_string (cs.length + 1) (Nat.lt_succ_self _)
      have less := consumes_string _ _ _ _ _ name
      have le := colon.length_le
      have le' := spaces.length_le
      rw [List.length_cons] at le enough
      unfold fields
      simp only [List.length_cons, name, bind, Except.bind, colon.skipSpace_mark (by decide), spaces.skipSpace_eq,
        value.skipSpace_eq]
      refine (value.takes_value ends fuel (by omega)).bind fun v read => ?_
      have less' := consumes_value _ _ _ _ read
      exact goesOn _ (by rw [List.length_cons]; omega)

end

/-! ### What is read is in the grammar -/

/-- What is a string behind an escape is one with the escape, also behind a pair of them. -/
theorem yields_unicodeEscape? (cs : List Char) :
    Yields (unicodeEscape? cs) (fun read => ∀ rest, SpansString read.2 rest → SpansString ('\\' :: 'u' :: cs) rest)
      fun _ => True := by
  unfold unicodeEscape?
  split
  · exact trivial
  · rename_i n behind first
    obtain ⟨a, b, c, d, rfl, digits⟩ := exists_of_hex4? first
    have single : ∀ rest, SpansString behind rest → SpansString ('\\' :: 'u' :: a :: b :: c :: d :: behind) rest :=
      fun rest string => .unicode digits string
    split
    · exact trivial
    · split
      · split
        · split
          · exact single
          · split
            · exact trivial
            · rename_i m behind' second
              obtain ⟨a', b', c', d', rfl, digits'⟩ := exists_of_hex4? second
              split
              · exact fun rest string => single rest (.unicode digits' string)
              · exact single
        · exact single
      · exact single

theorem yields_string (start fuel : Nat) (cs : List Char) :
    Yields (string start fuel cs) (fun read => SpansString cs read.2) fun _ => True := by
  induction fuel generalizing cs with
  | zero => exact trivial
  | succ fuel ih =>
      cases cs with
      | nil => exact trivial
      | cons c cs =>
          unfold string
          split
          · rename_i quote
            subst quote
            exact .close cs
          · rename_i notQuote
            split
            · rename_i backslash
              subst backslash
              split
              · exact trivial
              · rename_i rest
                refine (yields_unicodeEscape? rest).bind fun escape spans => ?_
                exact (ih escape.2).bind fun read string => spans read.2 string
              · rename_i e rest _
                split
                · exact trivial
                · rename_i letter
                  exact (ih rest).bind fun read string => .escape (mem_escapes_iff.mpr ⟨_, letter⟩) string
            · rename_i notBackslash
              split
              · exact trivial
              · rename_i notControl
                exact (ih cs).bind fun read string =>
                  .plain notQuote notBackslash (Nat.le_of_not_lt notControl) string

theorem eq_of_takeDigits_nil (taken : takeDigits cs = ([], rest)) : cs = rest := by
  cases cs with
  | nil => exact (Prod.mk.inj taken).2
  | cons c cs =>
      unfold takeDigits at taken
      split at taken
      · cases taken
      · exact (Prod.mk.inj taken).2

theorem spansDigits_of_takeDigits {d : Nat} {ds : List Nat} (taken : takeDigits cs = (d :: ds, rest)) :
    SpansDigits cs rest := by
  induction cs generalizing d ds with
  | nil => cases taken
  | cons c cs ih =>
      unfold takeDigits at taken
      split at taken
      · rename_i some
        have digit : (asciiDigit? c).isSome := Option.isSome_iff_exists.mpr ⟨_, some⟩
        rcases later : takeDigits cs with ⟨_ | ⟨e, es⟩, after⟩
        · rw [later] at taken
          obtain ⟨-, rfl⟩ := Prod.mk.inj taken
          rw [eq_of_takeDigits_nil later]
          exact .last digit _
        · rw [later] at taken
          obtain ⟨-, rfl⟩ := Prod.mk.inj taken
          exact .next digit (ih later)
      · cases taken

theorem spansWhole_of_wholeDigits? {ds : List Nat} (read : wholeDigits? cs = some (ds, rest)) : SpansWhole cs rest := by
  unfold wholeDigits? at read
  split at read
  · obtain ⟨-, rfl⟩ := Prod.mk.inj (Option.some.inj read)
    exact .zero _
  · rename_i notZero
    rcases taken : takeDigits cs with ⟨_ | ⟨d, ds'⟩, after⟩
    · rw [taken] at read
      cases read
    · rw [taken] at read
      obtain ⟨-, rfl⟩ := Prod.mk.inj (Option.some.inj read)
      have digits := spansDigits_of_takeDigits taken
      obtain ⟨c, more, rfl, -⟩ := digits.startsDigits
      exact .digits (fun zero => notZero more (congrArg (· :: more) zero)) digits

theorem spansFraction_fraction (cs : List Char) : SpansFraction cs (fraction cs).2 := by
  unfold fraction
  split
  · rename_i after
    rcases taken : takeDigits after with ⟨_ | ⟨d, ds⟩, more⟩
    · exact .none _
    · exact .point (spansDigits_of_takeDigits taken)
  · exact .none _

theorem spansSign_takeSign (cs : List Char) : SpansSign cs (takeSign cs).2 := by
  unfold takeSign
  split
  · exact .sign (Or.inr rfl) _
  · exact .sign (Or.inl rfl) _
  · exact .none _

theorem spansExponent_of_exponent? {e : Int} (read : exponent? cs = some (e, rest)) : SpansExponent cs rest := by
  unfold exponent? at read
  split at read
  · rename_i c after
    split at read
    · rename_i known
      rcases taken : takeDigits (takeSign after).2 with ⟨_ | ⟨d, ds⟩, more⟩
      · simp only [taken] at read
        cases read
      · simp only [taken] at read
        obtain ⟨-, rfl⟩ := Prod.mk.inj (Option.some.inj read)
        exact .mark known (spansSign_takeSign after) (spansDigits_of_takeDigits taken)
    · cases read
  · cases read

theorem spansNumber_of_number? {v : Except Fault Value} (read : number? cs = some (v, rest)) : SpansNumber cs rest := by
  obtain ⟨body, whole, after, sign, digits, scale, -⟩ := exists_of_number? read
  have mark : SpansExponent (fraction after).2 rest := by
    rcases scale with rfl | ⟨e, scale⟩
    · exact .none _
    · exact spansExponent_of_exponent? scale
  have magnitude := SpansMagnitude.parts (spansWhole_of_wholeDigits? digits) (spansFraction_fraction after) mark
  rcases sign with rfl | rfl
  · exact .plain magnitude
  · exact .minus magnitude

theorem yields_atom (cs : List Char) : Yields (atom cs) (fun read => SpansValue cs read.2) fun _ => True := by
  unfold atom
  split
  · rename_i found
    obtain ⟨⟨name, v⟩, known, dropped⟩ := List.exists_of_findSome?_eq_some found
    obtain ⟨rest, marked, rfl⟩ := Option.map_eq_some_iff.mp dropped
    obtain rfl := dropMark?_eq_some_iff.mp marked
    exact .name known rest
  · split
    · rename_i number
      exact .number (spansNumber_of_number? number)
    · exact trivial
    · exact trivial

/-- What stands behind spaces. -/
theorem spansSpaces_of_skipSpace (skipped : skipSpace cs = rest) : SpansSpaces cs rest :=
  skipped ▸ spansSpaces_skipSpace cs

mutual

/-- **What is read as a value is one.** -/
theorem yields_value : ∀ (fuel : Nat) (cs : List Char),
    Yields (value fuel cs) (fun read => SpansValue cs read.2) fun _ => True
  | 0, cs => trivial
  | fuel + 1, cs => by
      unfold value
      split
      · rename_i rest
        exact (yields_string _ _ rest).bind fun read string => .string string
      · rename_i rest
        split
        · rename_i close
          exact .emptyList (spansSpaces_of_skipSpace close)
        · exact (yields_items fuel _).bind fun read items => .list (spansSpaces_skipSpace rest) items
      · rename_i rest
        split
        · rename_i close
          exact .emptyObject (spansSpaces_of_skipSpace close)
        · exact (yields_fields fuel _ _).bind fun read fields => .object (spansSpaces_skipSpace rest) fields
      · exact yields_atom _

theorem yields_items : ∀ (fuel : Nat) (cs : List Char),
    Yields (items fuel cs) (fun read => SpansItems cs read.2) fun _ => True
  | 0, cs => trivial
  | fuel + 1, cs => by
      unfold items
      refine (yields_value fuel cs).bind fun ⟨v, behind⟩ value => ?_
      simp only
      split
      · rename_i close
        exact .last value (spansSpaces_of_skipSpace close)
      · rename_i more comma
        exact (yields_items fuel _).bind fun later items =>
          .next value (spansSpaces_of_skipSpace comma) (spansSpaces_skipSpace more) items
      · exact trivial

theorem yields_fields : ∀ (fuel : Nat) (done : List (String × Value)) (cs : List Char),
    Yields (fields fuel done cs) (fun read => SpansFields cs read.2) fun _ => True
  | 0, done, cs => trivial
  | fuel + 1, done, cs => by
      unfold fields
      split
      · rename_i rest
        refine (yields_string _ _ rest).bind fun ⟨key, behind⟩ name => ?_
        simp only
        split
        · rename_i after colon
          refine (yields_value fuel _).bind fun ⟨v, last⟩ value => ?_
          have field : SpansField ('"' :: rest) last :=
            .field name (spansSpaces_of_skipSpace colon) (spansSpaces_skipSpace after) value
          simp only
          split
          · rename_i close
            exact .last field (spansSpaces_of_skipSpace close)
          · rename_i more comma
            exact (yields_fields fuel _ _).mono
              (fun later fields => .next field (spansSpaces_of_skipSpace comma) (spansSpaces_skipSpace more) fields)
              fun _ _ => trivial
          · exact trivial
        · exact trivial
      · exact trivial

end

/-! ### Whole texts -/

/-- What a successful reading has read: the value itself starts right after the spaces, and only spaces follow. -/
theorem exists_value_of_parse {cs : List Char} {v : Value} (valid : parse cs = .ok v) :
    ∃ rest, value (2 * cs.length + 2) (skipSpace cs) = .ok (v, rest) ∧ skipSpace rest = [] := by
  unfold parse at valid
  split at valid
  · cases valid
  · unfold parseUnmarked at valid
    simp only at valid
    cases read : value (2 * cs.length + 2) (skipSpace cs) with
    | error stop =>
        rw [read] at valid
        cases valid
    | ok found =>
        obtain ⟨w, rest⟩ := found
        rw [read] at valid
        cases left : skipSpace rest with
        | nil =>
            simp only [bind, Except.bind, left, pure, Except.pure, Except.ok.injEq] at valid
            exact ⟨rest, by rw [valid], left⟩
        | cons c more =>
            simp only [bind, Except.bind, left] at valid
            cases valid

/-- Behind spaces, too, no mark of the byte order leads what can be read. -/
theorem unmarked_of_skipSpace {cs rest : List Char} {c : Char} (skipped : skipSpace cs = c :: rest)
    (start : CanStart c) : cs.head? ≠ some '\uFEFF' := by
  intro marked
  obtain ⟨more, rfl⟩ := List.head?_eq_some_iff.mp marked
  exact start.notMark (List.cons.inj skipped).1.symm

/-- **A JSON text is accepted**, unless one of its integers is too long. -/
theorem parse_of_isText (valid : IsText cs) :
    (∃ v, parse cs = .ok v) ∨ ∃ e, parse cs = .error e ∧ e.fault.isSyntactic = false := by
  obtain ⟨c, more, skipped, start⟩ := valid.canStart
  obtain ⟨inner, behind, spaces, spans, trailing⟩ := valid
  have front : skipSpace cs = inner := spaces.skipSpace_eq.trans spans.skipSpace_eq
  have le := spaces.length_le
  rw [parse, if_neg (unmarked_of_skipSpace skipped start), parseUnmarked]
  rcases spans.takes_value (trailing.endsNumber endsNumber_nil) (2 * cs.length + 2) (by omega) with
    ⟨v, read⟩ | ⟨stop, read, blamed⟩
  · have left : skipSpace behind = [] := trailing.skipSpace_eq
    refine Or.inl ⟨v, ?_⟩
    simp only [front, read, bind, Except.bind, left]
    rfl
  · refine Or.inr ⟨.locate stop.fault cs (cs.length - stop.left), ?_, blamed⟩
    simp only [front, read, bind, Except.bind]

/-- **What is accepted is a JSON text.** -/
theorem isText_of_parse {v : Value} (accepted : parse cs = .ok v) : IsText cs := by
  obtain ⟨behind, read, left⟩ := exists_value_of_parse accepted
  have spans := yields_value (2 * cs.length + 2) (skipSpace cs)
  rw [read] at spans
  exact ⟨_, _, spansSpaces_skipSpace cs, spans, spansSpaces_of_skipSpace left⟩

/-- **The texts that are accepted** are the JSON texts, as far as no integer is too long. -/
theorem exists_parse_iff_isText (short : ¬HasLongInteger cs) : (∃ v, parse cs = .ok v) ↔ IsText cs := by
  refine ⟨fun ⟨v, accepted⟩ => isText_of_parse accepted, fun valid => ?_⟩
  rcases parse_of_isText valid with accepted | ⟨e, refused, blamed⟩
  · exact accepted
  · exact absurd (hasLongInteger_of_parse refused blamed) short

end EditHistory.Json
