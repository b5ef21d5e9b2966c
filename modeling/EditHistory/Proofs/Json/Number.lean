import EditHistory.Json.Reader
import EditHistory.Json.Writer
import EditHistory.Proofs.Number.Display

/-!
# Numbers in JSON

A number that is written is read back, if nothing follows that could belong to it: an integer unless it is too long,
and every double, also those that have a name.

## Main definitions

* `EndsNumber` — a text that does not go on with a number
* `StartsDigits` — a text that starts with a digit

## Main statements

* `number?_intText`, `number?_display` — the number at the front
* `atom_intText`, `atom_floatText` — integers and doubles that are written
-/

namespace EditHistory.Json

open EditHistory.Text Number

/-- A text that does not start with anything that could belong to a number before it. -/
def EndsNumber (rest : List Char) : Prop :=
  ∀ c ∈ rest.head?, asciiDigit? c = none ∧ c ≠ '.' ∧ c ≠ 'e' ∧ c ≠ 'E'

/-- A text that does not start with a digit. -/
def EndsDigits (rest : List Char) : Prop :=
  ∀ c ∈ rest.head?, asciiDigit? c = none

/-- A text that starts with a digit. -/
def StartsDigits (cs : List Char) : Prop :=
  ∃ c more, cs = c :: more ∧ (asciiDigit? c).isSome

theorem EndsNumber.digits {rest : List Char} (ends : EndsNumber rest) : EndsDigits rest :=
  fun c head => (ends c head).1

theorem endsNumber_nil : EndsNumber [] := by
  rintro _ ⟨⟩

theorem endsDigits_cons {c : Char} (other : asciiDigit? c = none) (rest : List Char) : EndsDigits (c :: rest) := by
  rintro _ ⟨⟩
  exact other

/-! ### Parts of a number -/

theorem asciiDigit?_digit : ∀ d < 10, asciiDigit? (Char.ofNat (0x30 + d)) = some d := by decide

theorem takeDigits_of_endsDigits {rest : List Char} (ends : EndsDigits rest) : takeDigits rest = ([], rest) := by
  cases rest with
  | nil => rfl
  | cons c rest => rw [takeDigits, ends c rfl]

theorem takeDigits_digitText {ds : List Nat} (small : ∀ d ∈ ds, d < 10) {rest : List Char} (ends : EndsDigits rest) :
    takeDigits (digitText ds ++ rest) = (ds, rest) := by
  induction ds with
  | nil => exact takeDigits_of_endsDigits ends
  | cons d ds ih =>
      obtain ⟨first, later⟩ := List.forall_mem_cons.mp small
      show takeDigits (Char.ofNat (0x30 + d) :: (digitText ds ++ rest)) = (d :: ds, rest)
      rw [takeDigits, asciiDigit?_digit d first, ih later]

theorem wholeDigits?_digitText {ds : List Nat} (whole : IsWhole ds) {rest : List Char} (ends : EndsDigits rest) :
    wholeDigits? (digitText ds ++ rest) = some (ds, rest) := by
  have taken := takeDigits_digitText whole.small ends
  rcases whole.first with rfl | ⟨c, cs, rfl, some⟩
  · rfl
  · have small : c < 10 := whole.small c List.mem_cons_self
    have other : ∀ c < 10, c ≠ 0 → Char.ofNat (0x30 + c) ≠ '0' := by decide
    unfold wholeDigits?
    split
    · rename_i zero
      exact absurd (List.cons.inj zero).1 (other c small some)
    · rw [taken]

theorem fraction_of_endsNumber {rest : List Char} (ends : EndsNumber rest) : fraction rest = ([], rest) := by
  unfold fraction
  split
  · exact absurd rfl (ends '.' rfl).2.1
  · rfl

theorem fraction_digitText {ds : List Nat} (some : ds ≠ []) (small : ∀ d ∈ ds, d < 10) {rest : List Char}
    (ends : EndsDigits rest) : fraction ('.' :: digitText ds ++ rest) = (ds, rest) := by
  rw [List.cons_append, fraction, takeDigits_digitText small ends]
  cases ds with
  | nil => exact absurd rfl some
  | cons d ds => rfl

theorem exponent?_of_endsNumber {rest : List Char} (ends : EndsNumber rest) : exponent? rest = none := by
  cases rest with
  | nil => rfl
  | cons c rest =>
      obtain ⟨-, -, lower, upper⟩ := ends c rfl
      rw [exponent?, if_neg (by simp [lower, upper])]

/-- The digits of an exponent, of which there are at least two. -/
theorem exists_exponentText (e : Int) : ∃ ds, ds ≠ [] ∧ (∀ d ∈ ds, d < 10) ∧ ofDigits ds = e.natAbs ∧
    exponentText e = 'e' :: (if e < 0 then '-' else '+') :: digitText ds := by
  obtain ⟨ds, text, whole, value⟩ := exists_natText e.natAbs
  unfold exponentText
  simp only [text]
  by_cases single : (digitText ds).length < 2
  · rw [if_pos single]
    have zero : ofDigits (0 :: ds) = ofDigits ds := rfl
    exact ⟨0 :: ds, List.cons_ne_nil _ _, List.forall_mem_cons.mpr ⟨by decide, whole.small⟩, zero.trans value, rfl⟩
  · rw [if_neg single]
    exact ⟨ds, whole.ne_nil, whole.small, value, rfl⟩

theorem exponent?_exponentText (e : Int) {rest : List Char} (ends : EndsDigits rest) :
    exponent? (exponentText e ++ rest) = some (e, rest) := by
  obtain ⟨ds, some, small, value, text⟩ := exists_exponentText e
  have taken := takeDigits_digitText small ends
  cases ds with
  | nil => exact absurd rfl some
  | cons d ds =>
      rw [text, List.cons_append, List.cons_append, exponent?, if_pos (Or.inl rfl)]
      by_cases negative : e < 0
      · have minus : signed true e.natAbs = e := by
          rw [signed, if_pos rfl]
          omega
        simp only [if_pos negative, takeSign, taken, value, minus]
      · have plus : signed false e.natAbs = e := by
          rw [signed, if_neg Bool.false_ne_true]
          omega
        simp only [if_neg negative, takeSign, taken, value, plus]

/-! ### Numbers -/

theorem startsDigits_digitText {ds : List Nat} (whole : IsWhole ds) (rest : List Char) :
    StartsDigits (digitText ds ++ rest) := by
  rcases ds with _ | ⟨d, ds⟩
  · exact absurd rfl whole.ne_nil
  · refine ⟨_, _, rfl, ?_⟩
    rw [asciiDigit?_digit d (whole.small d List.mem_cons_self)]
    rfl

/-- The sign of a number is taken first. -/
theorem number?_withSign (negative : Bool) {cs : List Char} (starts : StartsDigits cs) :
    number? (withSign negative cs) =
      (wholeDigits? cs).map fun (whole, rest) =>
        let (frac, rest) := fraction rest
        match exponent? rest with
        | some (e, rest) => (.ok (.float (number?.floatOf negative whole frac e)), rest)
        | none =>
          if frac = [] then
            if digitLimit < whole.length then (.error (.integerTooLong whole.length), rest)
            else (.ok (.int (signed negative (ofDigits whole))), rest)
          else (.ok (.float (number?.floatOf negative whole frac 0)), rest) := by
  cases negative with
  | true => rfl
  | false =>
      obtain ⟨c, cs, rfl, digit⟩ := starts
      have unsigned : c ≠ '-' := by
        rintro rfl
        cases digit
      unfold number?
      simp only [withSign, Bool.false_eq_true, if_false]
      split
      · rename_i minus
        exact absurd (List.cons.inj minus).1 unsigned
      · rfl

/-- A number with a point or an exponent is the double that its digits write. -/
theorem number?_tailText (negative : Bool) {whole frac : List Nat} {scale : Int} {tail rest : List Char}
    (isWhole : IsWhole whole) (tailText : TailText frac scale tail) (ends : EndsNumber rest) :
    number? (withSign negative (digitText whole ++ tail) ++ rest) =
      some (.ok (.float (number?.floatOf negative whole frac scale)), rest) := by
  have behind : withSign negative (digitText whole ++ tail) ++ rest =
      withSign negative (digitText whole ++ (tail ++ rest)) := by
    cases negative <;> simp [withSign]
  have marked (e : Int) (more : List Char) : EndsDigits (exponentText e ++ more) :=
    endsDigits_cons (c := 'e') (by decide) _
  have pointed (ds more : List Char) : EndsDigits ('.' :: ds ++ more) := endsDigits_cons (c := '.') (by decide) _
  rw [behind, number?_withSign negative (startsDigits_digitText isWhole _)]
  cases tailText with
  | fraction some small =>
      rw [wholeDigits?_digitText isWhole (pointed _ rest)]
      simp only [Option.map_some, fraction_digitText some small ends.digits, exponent?_of_endsNumber ends, if_neg some]
  | exponent =>
      have pointless : fraction (exponentText scale ++ rest) = ([], exponentText scale ++ rest) := rfl
      rw [wholeDigits?_digitText isWhole (marked scale rest)]
      simp only [Option.map_some, pointless, exponent?_exponentText scale ends.digits]
  | both some small =>
      rw [List.append_assoc, wholeDigits?_digitText isWhole (pointed _ _)]
      simp only [Option.map_some, fraction_digitText some small (marked scale rest),
        exponent?_exponentText scale ends.digits]

/-- An integer is its sign and the digits of its magnitude. -/
theorem exists_intText (n : Int) (rest : List Char) :
    ∃ ds, natText n.natAbs = digitText ds ∧ IsWhole ds ∧ ofDigits ds = n.natAbs ∧
      intText n ++ rest = withSign (n < 0) (digitText ds ++ rest) := by
  obtain ⟨ds, text, whole, value⟩ := exists_natText n.natAbs
  refine ⟨ds, text, whole, value, ?_⟩
  unfold intText withSign
  rw [text]
  by_cases negative : n < 0
  · rw [if_pos negative, if_pos (decide_eq_true negative)]
    rfl
  · rw [if_neg negative, if_neg (by simpa using negative)]

/-- **An integer** that is written is read back unless it is too long. -/
theorem number?_intText {n : Int} {rest : List Char} (short : (natText n.natAbs).length ≤ digitLimit)
    (ends : EndsNumber rest) : number? (intText n ++ rest) = some (.ok (.int n), rest) := by
  obtain ⟨ds, text, whole, value, sign⟩ := exists_intText n rest
  rw [text, digitText, List.length_map] at short
  have back : signed (n < 0) n.natAbs = n := by
    unfold signed
    by_cases negative : n < 0
    · rw [if_pos (decide_eq_true negative)]
      omega
    · rw [if_neg (by simpa using negative)]
      omega
  rw [sign, number?_withSign _ (startsDigits_digitText whole _), wholeDigits?_digitText whole ends.digits]
  simp only [Option.map_some, fraction_of_endsNumber ends, exponent?_of_endsNumber ends, if_true,
    if_neg (Nat.not_lt.mpr short), value, back]

/-- **A finite double** that is written is read back. -/
theorem number?_display {x : Float} {negative : Bool} {m : Nat} {q : Int} (decoded : parts x = .finite negative m q)
    {rest : List Char} (ends : EndsNumber rest) : number? (display x ++ rest) = some (.ok (.float x), rest) := by
  obtain ⟨whole, frac, scale, tail, text, isWhole, tailText, magnitude⟩ := exists_display decoded
  have same : number?.floatOf negative whole frac scale = x := by
    refine parts_injective ?_
    rw [decoded]
    unfold number?.floatOf
    cases negative with
    | true => exact (parts_neg _).trans (congrArg Parts.negate magnitude)
    | false => exact magnitude
  rw [text, number?_tailText negative isWhole tailText ends, same]

/-! ### Atoms -/

/-- What starts with a digit or a minus and a digit is none of the names. -/
theorem literals_of_startsDigits {negative : Bool} {cs : List Char} (starts : StartsDigits cs) :
    (literals.findSome? fun (name, v) => (dropMark? name (withSign negative cs)).map fun rest => (v, rest)) = none := by
  obtain ⟨c, cs, rfl, digit⟩ := starts
  have other {letter : Char} (plain : asciiDigit? letter = none) : letter ≠ c := by
    rintro rfl
    rw [plain] at digit
    cases digit
  have letters : 'n' ≠ c ∧ 't' ≠ c ∧ 'f' ≠ c ∧ 'N' ≠ c ∧ 'I' ≠ c ∧ '-' ≠ c :=
    ⟨other (by decide), other (by decide), other (by decide), other (by decide), other (by decide), other (by decide)⟩
  cases negative <;> simp [literals, withSign, dropMark?, letters]

/-- An integer that is written is read back as a value. -/
theorem atom_intText {n : Int} {rest : List Char} (short : (natText n.natAbs).length ≤ digitLimit)
    (ends : EndsNumber rest) : atom (intText n ++ rest) = .ok (.int n, rest) := by
  obtain ⟨ds, -, whole, -, sign⟩ := exists_intText n rest
  rw [atom, number?_intText short ends, sign, literals_of_startsDigits (startsDigits_digitText whole _)]

/-- **Every double that is written is read back** as a value. -/
theorem atom_floatText (x : Float) {rest : List Char} (ends : EndsNumber rest) :
    atom (floatText x ++ rest) = .ok (.float x, rest) := by
  unfold floatText
  cases decoded : parts x with
  | nan =>
      have same : (0.0 / 0.0 : Float) = x := parts_injective (Eq.trans (by decide +kernel) decoded.symm)
      rw [← same]
      rfl
  | infinite negative =>
      cases negative with
      | true =>
          have same : (-1.0 / 0.0 : Float) = x := parts_injective (Eq.trans (by decide +kernel) decoded.symm)
          rw [← same]
          rfl
      | false =>
          have same : (1.0 / 0.0 : Float) = x := parts_injective (Eq.trans (by decide +kernel) decoded.symm)
          rw [← same]
          rfl
  | finite negative m q =>
      obtain ⟨whole, frac, scale, tail, text, isWhole, -⟩ := exists_display decoded
      have front : display x ++ rest = withSign negative (digitText whole ++ (tail ++ rest)) := by
        rw [text]
        cases negative <;> simp [withSign]
      simp only
      rw [atom, number?_display decoded ends, front, literals_of_startsDigits (startsDigits_digitText isWhole _)]

end EditHistory.Json
