import EditHistory.Json.Reader

/-!
# Readings of JSON and their fuel

The reader is given fuel because its functions call one another, not because it may stop early: whatever is read takes
at least one character away, so twice the length of the text is more than enough.  Beyond that the fuel does not
matter, and the same text at the end of a longer one is read in the same way.

## Main definitions

* `Consumes` — a reading that leaves less than it was given

## Main statements

* `consumes_value` — every value that is read takes a character away
* `value_eq_of_le` — enough fuel is as good as more
-/

namespace EditHistory.Json

open EditHistory.Text

/-- A reading that, if it succeeds, leaves less than it was given. -/
def Consumes {ε α : Type} (cs : List Char) (x : Except ε (α × List Char)) : Prop :=
  ∀ a rest, x = .ok (a, rest) → rest.length < cs.length

section

variable {ε α β : Type}

theorem Consumes.error (cs : List Char) (e : ε) : Consumes cs (.error e : Except ε (α × List Char)) :=
  nofun

theorem Consumes.ok {cs rest : List Char} {a : α} (less : rest.length < cs.length) :
    Consumes cs (.ok (a, rest) : Except ε (α × List Char)) := by
  rintro _ _ ⟨⟩
  exact less

theorem Consumes.of_le {cs cs' : List Char} {x : Except ε (α × List Char)} (consumes : Consumes cs x)
    (le : cs.length ≤ cs'.length) : Consumes cs' x :=
  fun a rest read => Nat.lt_of_lt_of_le (consumes a rest read) le

/-- A reading continued by another one that leaves no more than it was given. -/
theorem Consumes.bind {cs : List Char} {x : Except ε (α × List Char)} {f : α × List Char → Except ε (β × List Char)}
    (consumes : Consumes cs x) (next : ∀ a rest, rest.length < cs.length → Consumes cs (f (a, rest))) :
    Consumes cs (x >>= f) := by
  cases x with
  | error e => exact Consumes.error cs e
  | ok read => exact next read.1 read.2 (consumes read.1 read.2 rfl)

end

theorem length_skipSpace_le (cs : List Char) : (skipSpace cs).length ≤ cs.length :=
  (List.dropWhile_suffix isSpace).length_le

/-! ### Texts and atoms -/

/-- Four hexadecimal digits that are read stand at the front. -/
theorem exists_of_hex4? {cs rest : List Char} {n : Nat} (read : hex4? cs = some (n, rest)) :
    ∃ a b c d, cs = a :: b :: c :: d :: rest ∧ ∀ x ∈ [a, b, c, d], (hexDigit? x).isSome := by
  match cs with
  | a :: b :: c :: d :: more =>
      simp only [hex4?, Option.bind_eq_bind, Option.bind_eq_some_iff, Option.pure_def, Option.some.injEq,
        Prod.mk.injEq] at read
      obtain ⟨k, first, l, second, m, third, n, fourth, -, rfl⟩ := read
      refine ⟨a, b, c, d, rfl, ?_⟩
      simp [first, second, third, fourth]
  | [] => cases read
  | [_] => cases read
  | [_, _] => cases read
  | [_, _, _] => cases read

theorem length_hex4? {cs rest : List Char} {n : Nat} (read : hex4? cs = some (n, rest)) :
    rest.length < cs.length := by
  obtain ⟨a, b, c, d, rfl, -⟩ := exists_of_hex4? read
  simp only [List.length_cons]
  omega

theorem consumes_unicodeEscape? (cs : List Char) : Consumes cs (unicodeEscape? cs) := by
  unfold unicodeEscape?
  split
  · exact Consumes.error _ _
  · rename_i n rest read
    have less := length_hex4? read
    split
    · exact Consumes.error _ _
    · split
      · split
        · rename_i more
          simp only [List.length_cons] at less
          split
          · exact Consumes.ok (by simpa using less)
          · split
            · exact Consumes.error _ _
            · rename_i m rest' second
              have less' := length_hex4? second
              split
              · exact Consumes.ok (by omega)
              · exact Consumes.ok (by simpa using less)
        · exact Consumes.ok less
      · exact Consumes.ok less

theorem consumes_string (start fuel : Nat) (cs : List Char) : Consumes cs (string start fuel cs) := by
  induction fuel generalizing cs with
  | zero => exact Consumes.error _ _
  | succ fuel ih =>
      cases cs with
      | nil => exact Consumes.error _ _
      | cons c cs =>
          -- What follows is read in the same way, and its characters get one more in front.
          have goesOn (d : Char) {rest : List Char} (le : rest.length ≤ cs.length) :
              Consumes (c :: cs) (string start fuel rest >>= fun read => .ok (d :: read.1, read.2)) := by
            have within : rest.length ≤ (c :: cs).length := Nat.le_succ_of_le le
            exact ((ih rest).of_le within).bind fun ds rest less => Consumes.ok less
          unfold string
          split
          · exact Consumes.ok (Nat.lt_succ_self _)
          · split
            · split
              · exact Consumes.error _ _
              · rename_i rest
                have within : rest.length ≤ (c :: 'u' :: rest).length := by simp only [List.length_cons]; omega
                exact ((consumes_unicodeEscape? rest).of_le within).bind fun d more less =>
                  goesOn d (Nat.le_of_lt_succ less)
              · split
                · exact Consumes.error _ _
                · exact goesOn _ (Nat.le_succ _)
            · split
              · exact Consumes.error _ _
              · exact goesOn _ (Nat.le_refl _)

theorem length_takeDigits_le (cs : List Char) : (Number.takeDigits cs).2.length ≤ cs.length := by
  induction cs with
  | nil => exact Nat.le_refl _
  | cons c cs ih =>
      unfold Number.takeDigits
      split
      · exact Nat.le_succ_of_le ih
      · exact Nat.le_refl _

theorem length_takeDigits_lt {cs : List Char} (digits : (Number.takeDigits cs).1 ≠ []) :
    (Number.takeDigits cs).2.length < cs.length := by
  cases cs with
  | nil => exact absurd rfl digits
  | cons c cs =>
      unfold Number.takeDigits at digits ⊢
      split
      · exact Nat.lt_succ_of_le (length_takeDigits_le cs)
      · rename_i none
        rw [none] at digits
        exact absurd rfl digits

theorem length_wholeDigits? {cs rest : List Char} {ds : List Nat} (read : wholeDigits? cs = some (ds, rest)) :
    rest.length < cs.length := by
  unfold wholeDigits? at read
  split at read
  · obtain ⟨-, rfl⟩ := Prod.mk.inj (Option.some.inj read)
    exact Nat.lt_succ_self _
  · rcases taken : Number.takeDigits cs with ⟨_ | ⟨d, digits⟩, after⟩
    · rw [taken] at read
      cases read
    · rw [taken] at read
      obtain ⟨-, rfl⟩ := Prod.mk.inj (Option.some.inj read)
      have some : (Number.takeDigits cs).1 ≠ [] := by
        rw [taken]
        exact List.cons_ne_nil d digits
      have less := length_takeDigits_lt some
      rw [taken] at less
      exact less

theorem length_fraction_le (cs : List Char) : (fraction cs).2.length ≤ cs.length := by
  unfold fraction
  split
  · rename_i after
    have le := length_takeDigits_le after
    split
    · exact Nat.le_refl _
    · rename_i digits rest _ taken
      rw [taken] at le
      exact Nat.le_succ_of_le le
  · exact Nat.le_refl _

theorem length_exponent?_le {cs rest : List Char} {e : Int} (read : exponent? cs = some (e, rest)) :
    rest.length ≤ cs.length := by
  unfold exponent? at read
  split at read
  · rename_i c after
    split at read
    · have sign : (Number.takeSign after).2.length ≤ after.length := by
        unfold Number.takeSign
        split <;> simp
      have le := length_takeDigits_le (Number.takeSign after).2
      rcases taken : Number.takeDigits (Number.takeSign after).2 with ⟨_ | ⟨d, digits⟩, more⟩
      · simp only [taken] at read
        cases read
      · simp only [taken] at read le
        obtain ⟨-, rfl⟩ := Prod.mk.inj (Option.some.inj read)
        simp only [List.length_cons]
        omega
    · cases read
  · cases read

/-- **The parts of a number that is read**: behind a sign, if there is one, the integer part, then the fraction, then
an exponent, if there is one.  It is refused only as an integer that is too long. -/
theorem exists_of_number? {cs rest : List Char} {v : Except Fault Value} (read : number? cs = some (v, rest)) :
    ∃ body whole after, (cs = body ∨ cs = '-' :: body) ∧ wholeDigits? body = some (whole, after) ∧
      ((fraction after).2 = rest ∨ ∃ e, exponent? (fraction after).2 = some (e, rest)) ∧
      ∀ fault, v = .error fault → fault = .integerTooLong whole.length ∧ Number.digitLimit < whole.length := by
  unfold number? at read
  obtain ⟨⟨whole, after⟩, digits, same⟩ := Option.map_eq_some_iff.mp read
  refine ⟨_, whole, after, ?_, digits, ?_⟩
  · split
    · exact Or.inr rfl
    · exact Or.inl rfl
  · cases scale : exponent? (fraction after).2 with
    | some found =>
        simp only [scale] at same
        obtain ⟨rfl, rfl⟩ := Prod.mk.inj same
        exact ⟨Or.inr ⟨found.1, rfl⟩, nofun⟩
    | none =>
        simp only [scale] at same
        split at same
        · split at same
          · rename_i more
            obtain ⟨rfl, rfl⟩ := Prod.mk.inj same
            refine ⟨Or.inl rfl, ?_⟩
            rintro _ ⟨⟩
            exact ⟨rfl, more⟩
          · obtain ⟨rfl, rfl⟩ := Prod.mk.inj same
            exact ⟨Or.inl rfl, nofun⟩
        · obtain ⟨rfl, rfl⟩ := Prod.mk.inj same
          exact ⟨Or.inl rfl, nofun⟩

theorem length_number? {cs rest : List Char} {v : Except Fault Value} (read : number? cs = some (v, rest)) :
    rest.length < cs.length := by
  obtain ⟨body, whole, after, sign, digits, scale, -⟩ := exists_of_number? read
  have less := length_wholeDigits? digits
  have le := length_fraction_le after
  have shorter : rest.length ≤ (fraction after).2.length := by
    rcases scale with rfl | ⟨e, scale⟩
    · exact Nat.le_refl _
    · exact length_exponent?_le scale
  have signed : body.length ≤ cs.length := by
    rcases sign with rfl | rfl
    · exact Nat.le_refl _
    · exact Nat.le_succ _
  omega

theorem length_dropMark? {mark cs rest : List Char} (dropped : dropMark? mark cs = some rest) :
    rest.length + mark.length = cs.length := by
  induction mark generalizing cs with
  | nil =>
      obtain rfl := Option.some.inj dropped
      rfl
  | cons m mark ih =>
      cases cs with
      | nil => cases dropped
      | cons c cs =>
          unfold dropMark? at dropped
          split at dropped
          · have := ih dropped
            simp only [List.length_cons]
            omega
          · cases dropped

theorem consumes_atom (cs : List Char) : Consumes cs (atom cs) := by
  unfold atom
  split
  · rename_i read found
    rintro a rest ⟨⟩
    obtain ⟨⟨name, v⟩, mem, dropped⟩ := List.exists_of_findSome?_eq_some found
    obtain ⟨rest, dropped, -, rfl⟩ := Option.map_eq_some_iff.mp dropped
    have sum := length_dropMark? dropped
    have named : 0 < name.length := by
      have all : ∀ p ∈ literals, 0 < p.1.length := by decide
      exact all _ mem
    omega
  · split
    · rename_i read
      exact Consumes.ok (length_number? read)
    · exact Consumes.error _ _
    · exact Consumes.error _ _

/-! ### Values -/

mutual

/-- **Every value that is read takes a character away**, whatever the fuel. -/
theorem consumes_value : ∀ (fuel : Nat) (cs : List Char), Consumes cs (value fuel cs)
  | 0, cs => Consumes.error _ _
  | fuel + 1, cs => by
      unfold value
      split
      · rename_i rest
        exact ((consumes_string _ _ rest).of_le (Nat.le_succ _)).bind fun s more less => Consumes.ok less
      · rename_i rest
        have skipped := length_skipSpace_le rest
        split
        · rename_i more closed
          rw [closed] at skipped
          exact Consumes.ok (Nat.lt_succ_of_lt (Nat.lt_of_lt_of_le (Nat.lt_succ_self _) skipped))
        · exact ((consumes_items fuel _).of_le (Nat.le_succ_of_le skipped)).bind fun items more less => Consumes.ok less
      · rename_i rest
        have skipped := length_skipSpace_le rest
        split
        · rename_i more closed
          rw [closed] at skipped
          exact Consumes.ok (Nat.lt_succ_of_lt (Nat.lt_of_lt_of_le (Nat.lt_succ_self _) skipped))
        · exact ((consumes_fields fuel _ _).of_le (Nat.le_succ_of_le skipped)).bind fun fields more less =>
            Consumes.ok less
      · exact consumes_atom _

theorem consumes_items : ∀ (fuel : Nat) (cs : List Char), Consumes cs (items fuel cs)
  | 0, cs => Consumes.error _ _
  | fuel + 1, cs => by
      unfold items
      refine (consumes_value fuel cs).bind fun v rest less => ?_
      have skipped := length_skipSpace_le rest
      simp only
      split
      · rename_i more closed
        rw [closed] at skipped
        exact Consumes.ok (by simp only [List.length_cons] at skipped; omega)
      · rename_i more comma
        rw [comma] at skipped
        have skippedAgain := length_skipSpace_le more
        have within : (skipSpace more).length ≤ cs.length := by
          simp only [List.length_cons] at skipped
          omega
        exact ((consumes_items fuel _).of_le within).bind fun vs after less => Consumes.ok less
      · exact Consumes.error _ _

theorem consumes_fields : ∀ (fuel : Nat) (done : List (String × Value)) (cs : List Char),
    Consumes cs (fields fuel done cs)
  | 0, done, cs => Consumes.error _ _
  | fuel + 1, done, cs => by
      unfold fields
      split
      · rename_i rest
        refine ((consumes_string _ _ rest).of_le (Nat.le_succ _)).bind fun key more less => ?_
        have skipped := length_skipSpace_le more
        simp only
        split
        · rename_i after colon
          rw [colon] at skipped
          have again := length_skipSpace_le after
          simp only [List.length_cons] at skipped
          refine ((consumes_value fuel _).of_le (by omega)).bind fun v last less' => ?_
          have skippedLast := length_skipSpace_le last
          simp only
          split
          · rename_i final closed
            rw [closed] at skippedLast
            exact Consumes.ok (by simp only [List.length_cons] at skippedLast; omega)
          · rename_i final comma
            rw [comma] at skippedLast
            have skippedFinal := length_skipSpace_le final
            simp only [List.length_cons] at skippedLast
            exact (consumes_fields fuel _ _).of_le (by omega)
          · exact Consumes.error _ _
        · exact Consumes.error _ _
      · exact Consumes.error _ _

end

/-! ### Fuel -/

/-- A reading continued in two ways that agree on whatever it can leave. -/
theorem bind_congr_of_consumes {ε α β : Type} {cs : List Char} {x y : Except ε (α × List Char)}
    (consumes : Consumes cs x) (same : y = x) {f g : α × List Char → Except ε β}
    (next : ∀ a rest, rest.length < cs.length → f (a, rest) = g (a, rest)) : y >>= f = x >>= g := by
  subst same
  cases y with
  | error e => rfl
  | ok read => exact next read.1 read.2 (consumes read.1 read.2 rfl)

mutual

/-- One unit more of enough fuel changes nothing. -/
theorem value_succ : ∀ (fuel : Nat) (cs : List Char), 2 * cs.length + 1 ≤ fuel → value (fuel + 1) cs = value fuel cs
  | 0, _, enough => by omega
  | fuel + 1, cs, enough => by
      unfold value
      split
      · rfl
      · rename_i rest
        have skipped := length_skipSpace_le rest
        simp only [List.length_cons] at enough
        split
        · rfl
        · rw [items_succ fuel _ (by omega)]
      · rename_i rest
        have skipped := length_skipSpace_le rest
        simp only [List.length_cons] at enough
        split
        · rfl
        · rw [fields_succ fuel _ _ (by omega)]
      · rfl

theorem items_succ : ∀ (fuel : Nat) (cs : List Char), 2 * cs.length + 2 ≤ fuel → items (fuel + 1) cs = items fuel cs
  | 0, _, enough => by omega
  | fuel + 1, cs, enough => by
      unfold items
      refine bind_congr_of_consumes (consumes_value fuel cs) (value_succ fuel cs (by omega)) fun v rest less => ?_
      have skipped := length_skipSpace_le rest
      simp only
      split
      · rfl
      · rename_i more comma
        rw [comma] at skipped
        simp only [List.length_cons] at skipped
        have skippedAgain := length_skipSpace_le more
        rw [items_succ fuel _ (by omega)]
      · rfl

theorem fields_succ : ∀ (fuel : Nat) (done : List (String × Value)) (cs : List Char),
    2 * cs.length + 2 ≤ fuel → fields (fuel + 1) done cs = fields fuel done cs
  | 0, _, _, enough => by omega
  | fuel + 1, done, cs, enough => by
      unfold fields
      split
      · rename_i rest
        refine bind_congr_of_consumes (consumes_string _ _ rest) rfl fun key more less => ?_
        have skipped := length_skipSpace_le more
        simp only [List.length_cons] at enough ⊢
        split
        · rename_i after colon
          rw [colon] at skipped
          simp only [List.length_cons] at skipped
          have again := length_skipSpace_le after
          refine bind_congr_of_consumes (consumes_value fuel _) (value_succ fuel _ (by omega)) fun v last less' => ?_
          have skippedLast := length_skipSpace_le last
          simp only
          split
          · rfl
          · rename_i final comma
            rw [comma] at skippedLast
            simp only [List.length_cons] at skippedLast
            have skippedFinal := length_skipSpace_le final
            exact fields_succ fuel _ _ (by omega)
          · rfl
        · rfl
      · rfl

end

/-- **Enough fuel is as good as more.** -/
theorem value_eq_of_le {cs : List Char} {fuel more : Nat} (enough : 2 * cs.length + 1 ≤ fuel) (le : fuel ≤ more) :
    value more cs = value fuel cs := by
  induction le with
  | refl => rfl
  | step le ih => rw [value_succ _ cs (Nat.le_trans enough le), ih]

end EditHistory.Json
