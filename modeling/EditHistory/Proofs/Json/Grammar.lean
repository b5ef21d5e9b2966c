import EditHistory.Json.Reader
import EditHistory.Proofs.Text.Lines

/-!
# The grammar of JSON

What a JSON text is, told without a reader.  Every part of the grammar relates a text that starts with this part to what
is left behind it, so that parts follow one another without being cut out of the text.  As the reader does, the grammar
has three names of doubles beyond the standard; and like the standard it sets no limit to the digits of an integer.

A text may be changed where the grammar has spaces only.  Line ends are such a place: none stands inside a string, so a
JSON text remains one when its line ends are unified.

## Main definitions

* `SpansSpaces`, `SpansString`, `SpansNumber`, `SpansValue` — the parts of the grammar
* `IsText` — a JSON text
* `CanStart` — what the first character of a value is not

## Main statements

* `IsText.unifyLineEnds` — line ends may be unified
* `SpansValue.canStart`, `IsText.canStart` — how a value and a text start
-/

namespace EditHistory.Json

open EditHistory.Text

/-! ### Parts of a text -/

/-- Any number of spaces. -/
inductive SpansSpaces : List Char → List Char → Prop
  | none (rest : List Char) : SpansSpaces rest rest
  | next {c : Char} {cs rest : List Char} (space : isSpace c = true) (more : SpansSpaces cs rest) :
      SpansSpaces (c :: cs) rest

/-- The letters that may be escaped by a backslash alone. -/
def escapes : List Char := ['"', '\\', '/', 'b', 'f', 'n', 'r', 't']

/-- The characters of a string behind its opening quote, the closing quote included. -/
inductive SpansString : List Char → List Char → Prop
  | close (rest : List Char) : SpansString ('"' :: rest) rest
  | plain {c : Char} {cs rest : List Char} (notQuote : c ≠ '"') (notBackslash : c ≠ '\\')
      (notControl : 0x20 ≤ c.toNat) (more : SpansString cs rest) : SpansString (c :: cs) rest
  | escape {c : Char} {cs rest : List Char} (known : c ∈ escapes) (more : SpansString cs rest) :
      SpansString ('\\' :: c :: cs) rest
  | unicode {a b c d : Char} {cs rest : List Char} (digits : ∀ x ∈ [a, b, c, d], (hexDigit? x).isSome)
      (more : SpansString cs rest) : SpansString ('\\' :: 'u' :: a :: b :: c :: d :: cs) rest

/-- Digits, at least one. -/
inductive SpansDigits : List Char → List Char → Prop
  | last {c : Char} (digit : (asciiDigit? c).isSome) (rest : List Char) : SpansDigits (c :: rest) rest
  | next {c : Char} {cs rest : List Char} (digit : (asciiDigit? c).isSome) (more : SpansDigits cs rest) :
      SpansDigits (c :: cs) rest

/-- The integer part of a number: a zero alone, or digits that do not start with one. -/
inductive SpansWhole : List Char → List Char → Prop
  | zero (rest : List Char) : SpansWhole ('0' :: rest) rest
  | digits {c : Char} {cs rest : List Char} (notZero : c ≠ '0') (digits : SpansDigits (c :: cs) rest) :
      SpansWhole (c :: cs) rest

/-- The fraction of a number, if it has one. -/
inductive SpansFraction : List Char → List Char → Prop
  | none (rest : List Char) : SpansFraction rest rest
  | point {cs rest : List Char} (digits : SpansDigits cs rest) : SpansFraction ('.' :: cs) rest

/-- The sign of an exponent, if it has one. -/
inductive SpansSign : List Char → List Char → Prop
  | none (rest : List Char) : SpansSign rest rest
  | sign {c : Char} (known : c = '+' ∨ c = '-') (rest : List Char) : SpansSign (c :: rest) rest

/-- The exponent of a number, if it has one. -/
inductive SpansExponent : List Char → List Char → Prop
  | none (rest : List Char) : SpansExponent rest rest
  | mark {c : Char} {cs digits rest : List Char} (known : c = 'e' ∨ c = 'E') (sign : SpansSign cs digits)
      (digits : SpansDigits digits rest) : SpansExponent (c :: cs) rest

/-- A number without a sign. -/
inductive SpansMagnitude : List Char → List Char → Prop
  | parts {cs fraction exponent rest : List Char} (whole : SpansWhole cs fraction)
      (point : SpansFraction fraction exponent) (mark : SpansExponent exponent rest) : SpansMagnitude cs rest

/-- A number. -/
inductive SpansNumber : List Char → List Char → Prop
  | plain {cs rest : List Char} (magnitude : SpansMagnitude cs rest) : SpansNumber cs rest
  | minus {cs rest : List Char} (magnitude : SpansMagnitude cs rest) : SpansNumber ('-' :: cs) rest

mutual

/-- **A value.** -/
inductive SpansValue : List Char → List Char → Prop
  | name {name : List Char} {v : Value} (known : (name, v) ∈ literals) (rest : List Char) :
      SpansValue (name ++ rest) rest
  | number {cs rest : List Char} (number : SpansNumber cs rest) : SpansValue cs rest
  | string {cs rest : List Char} (string : SpansString cs rest) : SpansValue ('"' :: cs) rest
  | emptyList {cs rest : List Char} (spaces : SpansSpaces cs (']' :: rest)) : SpansValue ('[' :: cs) rest
  | list {cs inner rest : List Char} (spaces : SpansSpaces cs inner) (items : SpansItems inner rest) :
      SpansValue ('[' :: cs) rest
  | emptyObject {cs rest : List Char} (spaces : SpansSpaces cs ('\x7d' :: rest)) : SpansValue ('\x7b' :: cs) rest
  | object {cs inner rest : List Char} (spaces : SpansSpaces cs inner) (fields : SpansFields inner rest) :
      SpansValue ('\x7b' :: cs) rest

/-- The items of a list, at least one, the closing bracket included. -/
inductive SpansItems : List Char → List Char → Prop
  | last {cs behind rest : List Char} (value : SpansValue cs behind) (close : SpansSpaces behind (']' :: rest)) :
      SpansItems cs rest
  | next {cs behind after items rest : List Char} (value : SpansValue cs behind)
      (comma : SpansSpaces behind (',' :: after)) (spaces : SpansSpaces after items) (more : SpansItems items rest) :
      SpansItems cs rest

/-- The fields of an object, at least one, the closing brace included. -/
inductive SpansFields : List Char → List Char → Prop
  | last {cs behind rest : List Char} (field : SpansField cs behind) (close : SpansSpaces behind ('\x7d' :: rest)) :
      SpansFields cs rest
  | next {cs behind after fields rest : List Char} (field : SpansField cs behind)
      (comma : SpansSpaces behind (',' :: after)) (spaces : SpansSpaces after fields) (more : SpansFields fields rest) :
      SpansFields cs rest

/-- One field of an object. -/
inductive SpansField : List Char → List Char → Prop
  | field {cs name after value rest : List Char} (key : SpansString cs name)
      (colon : SpansSpaces name (':' :: after)) (spaces : SpansSpaces after value) (value : SpansValue value rest) :
      SpansField ('"' :: cs) rest

end

/-- **A JSON text**: a value with spaces around it. -/
def IsText (cs : List Char) : Prop :=
  ∃ value behind, SpansSpaces cs value ∧ SpansValue value behind ∧ SpansSpaces behind []

/-! ### How a value starts -/

/-- A character that is neither blank nor the start of the guard nor the mark of the byte order. -/
structure CanStart (c : Char) : Prop where
  solid : isBlank c = false
  notGuard : c ≠ ')'
  notMark : c ≠ '\uFEFF'

instance (c : Char) : Decidable (CanStart c) :=
  decidable_of_iff (isBlank c = false ∧ c ≠ ')' ∧ c ≠ '\uFEFF')
    ⟨fun ⟨solid, notGuard, notMark⟩ => ⟨solid, notGuard, notMark⟩,
      fun ⟨solid, notGuard, notMark⟩ => ⟨solid, notGuard, notMark⟩⟩

theorem canStart_of_digit {c : Char} {d : Nat} (digit : asciiDigit? c = some d) : CanStart c := by
  unfold asciiDigit? at digit
  split at digit
  · rename_i range
    refine ⟨?_, ?_, ?_⟩
    · simp only [isBlank, Bool.or_eq_false_iff, Bool.and_eq_false_iff, decide_eq_false_iff_not, beq_eq_false_iff_ne]
      omega
    · rintro rfl
      exact absurd range (by decide)
    · rintro rfl
      exact absurd range (by decide)
  · cases digit

theorem isBlank_of_isSpace {c : Char} (space : isSpace c = true) : isBlank c = true := by
  simp only [isSpace, Bool.or_eq_true, decide_eq_true_eq] at space
  rcases space with ((rfl | rfl) | rfl) | rfl <;> decide

theorem CanStart.skipSpace_eq {c : Char} (start : CanStart c) (cs : List Char) : skipSpace (c :: cs) = c :: cs := by
  refine List.dropWhile_cons_of_neg fun space => ?_
  have blank := isBlank_of_isSpace space
  rw [start.solid] at blank
  cases blank

theorem SpansDigits.head {c : Char} {cs rest : List Char} (digits : SpansDigits (c :: cs) rest) :
    (asciiDigit? c).isSome := by
  cases digits <;> assumption

theorem SpansMagnitude.head {cs rest : List Char} (magnitude : SpansMagnitude cs rest) :
    ∃ c more, cs = c :: more ∧ (asciiDigit? c).isSome := by
  obtain ⟨whole, -, -⟩ := magnitude
  cases whole with
  | zero => exact ⟨'0', _, rfl, rfl⟩
  | digits notZero digits => exact ⟨_, _, rfl, digits.head⟩

/-- A value starts with a character that neither is blank nor starts a guard nor is the mark of the byte order, and that
does not close a list. -/
theorem SpansValue.canStart {cs rest : List Char} (value : SpansValue cs rest) :
    ∃ c more, cs = c :: more ∧ CanStart c ∧ c ≠ ']' := by
  cases value with
  | name known =>
      have named : ∀ p ∈ literals, ∃ c more, p.1 = c :: more ∧ CanStart c ∧ c ≠ ']' := by
        simp only [literals, List.forall_mem_cons, List.not_mem_nil, false_imp_iff, implies_true, and_true]
        exact ⟨⟨_, _, rfl, by decide⟩, ⟨_, _, rfl, by decide⟩, ⟨_, _, rfl, by decide⟩, ⟨_, _, rfl, by decide⟩,
          ⟨_, _, rfl, by decide⟩, ⟨_, _, rfl, by decide⟩⟩
      obtain ⟨c, more, same, starts⟩ := named _ known
      exact ⟨c, more ++ rest, congrArg (· ++ rest) same, starts⟩
  | number number =>
      cases number with
      | plain magnitude =>
          obtain ⟨c, more, same, digit⟩ := magnitude.head
          obtain ⟨d, some⟩ := Option.isSome_iff_exists.mp digit
          refine ⟨c, more, same, canStart_of_digit some, ?_⟩
          rintro rfl
          cases digit
      | minus magnitude => exact ⟨'-', _, rfl, by decide⟩
  | string => exact ⟨'"', _, rfl, by decide⟩
  | emptyList => exact ⟨'[', _, rfl, by decide⟩
  | list => exact ⟨'[', _, rfl, by decide⟩
  | emptyObject => exact ⟨'\x7b', _, rfl, by decide⟩
  | object => exact ⟨'\x7b', _, rfl, by decide⟩

theorem SpansSpaces.skipSpace_eq {cs rest : List Char} (spaces : SpansSpaces cs rest) :
    skipSpace cs = skipSpace rest := by
  induction spaces with
  | none => rfl
  | next space more ih => exact (List.dropWhile_cons_of_pos space).trans ih

theorem SpansValue.skipSpace_eq {cs rest : List Char} (value : SpansValue cs rest) : skipSpace cs = cs := by
  obtain ⟨c, more, rfl, start, -⟩ := value.canStart
  exact start.skipSpace_eq more

/-- What stands in a JSON text behind the spaces that lead it. -/
theorem IsText.canStart {cs : List Char} (valid : IsText cs) : ∃ c rest, skipSpace cs = c :: rest ∧ CanStart c := by
  obtain ⟨value, behind, spaces, spans, -⟩ := valid
  obtain ⟨c, more, same, start, -⟩ := spans.canStart
  exact ⟨c, more, (spaces.skipSpace_eq.trans spans.skipSpace_eq).trans same, start⟩

/-! ### Line ends -/

theorem ne_return_of_digit {c : Char} (digit : (asciiDigit? c).isSome) : c ≠ '\r' := by
  rintro rfl
  cases digit

theorem ne_return_of_hexDigit {c : Char} (digit : (hexDigit? c).isSome) : c ≠ '\r' := by
  rintro rfl
  cases digit

section

variable {c : Char} {cs rest : List Char}

theorem SpansSpaces.unifyLineEnds (spaces : SpansSpaces cs rest) :
    SpansSpaces (unifyLineEnds cs) (unifyLineEnds rest) := by
  induction spaces with
  | none => exact .none _
  | @next c cs rest space more ih =>
      by_cases other : c = '\r'
      · subst other
        rcases unifyLineEnds_return cs with feed | none
        · rw [feed]
          exact .next rfl ih
        · rw [none]
          exact ih
      · rw [unifyLineEnds_cons other]
        exact .next space ih

/-- Spaces up to a character that ends no line. -/
theorem SpansSpaces.unifyLineEnds_to (other : c ≠ '\r') (spaces : SpansSpaces cs (c :: rest)) :
    SpansSpaces (Text.unifyLineEnds cs) (c :: Text.unifyLineEnds rest) :=
  unifyLineEnds_cons other rest ▸ spaces.unifyLineEnds

theorem SpansString.unifyLineEnds (string : SpansString cs rest) :
    SpansString (unifyLineEnds cs) (unifyLineEnds rest) := by
  induction string with
  | close =>
      rw [unifyLineEnds_cons (by decide)]
      exact .close _
  | plain notQuote notBackslash notControl more ih =>
      rw [unifyLineEnds_cons]
      · exact .plain notQuote notBackslash notControl ih
      · rintro rfl
        exact absurd notControl (by decide)
  | escape known more ih =>
      rw [unifyLineEnds_cons (by decide), unifyLineEnds_cons]
      · exact .escape known ih
      · rintro rfl
        exact absurd known (by decide)
  | @unicode a b c d cs rest digits more ih =>
      have unified : '\r' ∉ ['\\', 'u'] ++ [a, b, c, d] := by
        rw [List.mem_append, not_or]
        exact ⟨by decide, fun mem => ne_return_of_hexDigit (digits _ mem) rfl⟩
      have front := unifyLineEnds_append unified cs
      simp only [List.cons_append, List.nil_append] at front
      rw [front]
      exact .unicode digits ih

theorem SpansDigits.unifyLineEnds (digits : SpansDigits cs rest) :
    SpansDigits (unifyLineEnds cs) (unifyLineEnds rest) := by
  induction digits with
  | last digit =>
      rw [unifyLineEnds_cons (ne_return_of_digit digit)]
      exact .last digit _
  | next digit more ih =>
      rw [unifyLineEnds_cons (ne_return_of_digit digit)]
      exact .next digit ih

theorem SpansWhole.unifyLineEnds (whole : SpansWhole cs rest) : SpansWhole (unifyLineEnds cs) (unifyLineEnds rest) := by
  cases whole with
  | zero =>
      rw [unifyLineEnds_cons (by decide)]
      exact .zero _
  | digits notZero digits =>
      have unified := digits.unifyLineEnds
      rw [unifyLineEnds_cons (ne_return_of_digit digits.head)] at unified ⊢
      exact .digits notZero unified

theorem SpansFraction.unifyLineEnds (point : SpansFraction cs rest) :
    SpansFraction (unifyLineEnds cs) (unifyLineEnds rest) := by
  cases point with
  | none => exact .none _
  | point digits =>
      rw [unifyLineEnds_cons (by decide)]
      exact .point digits.unifyLineEnds

theorem SpansSign.unifyLineEnds (sign : SpansSign cs rest) : SpansSign (unifyLineEnds cs) (unifyLineEnds rest) := by
  cases sign with
  | none => exact .none _
  | sign known =>
      rw [unifyLineEnds_cons (by rcases known with rfl | rfl <;> decide)]
      exact .sign known _

theorem SpansExponent.unifyLineEnds (mark : SpansExponent cs rest) :
    SpansExponent (unifyLineEnds cs) (unifyLineEnds rest) := by
  cases mark with
  | none => exact .none _
  | mark known sign digits =>
      rw [unifyLineEnds_cons (by rcases known with rfl | rfl <;> decide)]
      exact .mark known sign.unifyLineEnds digits.unifyLineEnds

theorem SpansMagnitude.unifyLineEnds (magnitude : SpansMagnitude cs rest) :
    SpansMagnitude (unifyLineEnds cs) (unifyLineEnds rest) := by
  obtain ⟨whole, point, mark⟩ := magnitude
  exact .parts whole.unifyLineEnds point.unifyLineEnds mark.unifyLineEnds

theorem SpansNumber.unifyLineEnds (number : SpansNumber cs rest) :
    SpansNumber (unifyLineEnds cs) (unifyLineEnds rest) := by
  cases number with
  | plain magnitude => exact .plain magnitude.unifyLineEnds
  | minus magnitude =>
      rw [unifyLineEnds_cons (by decide)]
      exact .minus magnitude.unifyLineEnds

end

mutual

theorem SpansValue.unifyLineEnds : ∀ {cs rest : List Char}, SpansValue cs rest →
    SpansValue (unifyLineEnds cs) (unifyLineEnds rest)
  | _, _, .name known rest => by
      have unified : ∀ p ∈ literals.map Prod.fst, '\r' ∉ p := by decide
      rw [unifyLineEnds_append (unified _ (List.mem_map_of_mem known))]
      exact .name known _
  | _, _, .number number => .number number.unifyLineEnds
  | _, _, .string string => by
      rw [unifyLineEnds_cons (by decide)]
      exact .string string.unifyLineEnds
  | _, _, .emptyList spaces => by
      rw [unifyLineEnds_cons (by decide)]
      exact .emptyList (spaces.unifyLineEnds_to (by decide))
  | _, _, .list spaces items => by
      rw [unifyLineEnds_cons (by decide)]
      exact .list spaces.unifyLineEnds items.unifyLineEnds
  | _, _, .emptyObject spaces => by
      rw [unifyLineEnds_cons (by decide)]
      exact .emptyObject (spaces.unifyLineEnds_to (by decide))
  | _, _, .object spaces fields => by
      rw [unifyLineEnds_cons (by decide)]
      exact .object spaces.unifyLineEnds fields.unifyLineEnds

theorem SpansItems.unifyLineEnds : ∀ {cs rest : List Char}, SpansItems cs rest →
    SpansItems (unifyLineEnds cs) (unifyLineEnds rest)
  | _, _, .last value close => .last value.unifyLineEnds (close.unifyLineEnds_to (by decide))
  | _, _, .next value comma spaces more =>
      .next value.unifyLineEnds (comma.unifyLineEnds_to (by decide)) spaces.unifyLineEnds more.unifyLineEnds

theorem SpansFields.unifyLineEnds : ∀ {cs rest : List Char}, SpansFields cs rest →
    SpansFields (unifyLineEnds cs) (unifyLineEnds rest)
  | _, _, .last field close => .last field.unifyLineEnds (close.unifyLineEnds_to (by decide))
  | _, _, .next field comma spaces more =>
      .next field.unifyLineEnds (comma.unifyLineEnds_to (by decide)) spaces.unifyLineEnds more.unifyLineEnds

theorem SpansField.unifyLineEnds : ∀ {cs rest : List Char}, SpansField cs rest →
    SpansField (unifyLineEnds cs) (unifyLineEnds rest)
  | _, _, .field key colon spaces value => by
      rw [unifyLineEnds_cons (by decide)]
      exact .field key.unifyLineEnds (colon.unifyLineEnds_to (by decide)) spaces.unifyLineEnds value.unifyLineEnds

end

/-- **A JSON text remains one when its line ends are unified.** -/
theorem IsText.unifyLineEnds {cs : List Char} (valid : IsText cs) : IsText (unifyLineEnds cs) := by
  obtain ⟨value, behind, spaces, spans, trailing⟩ := valid
  exact ⟨_, _, spaces.unifyLineEnds, spans.unifyLineEnds, trailing.unifyLineEnds⟩

end EditHistory.Json
