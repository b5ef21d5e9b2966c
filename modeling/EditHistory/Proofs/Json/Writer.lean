import EditHistory.Json.Encoded
import EditHistory.Proofs.Json.Number
import EditHistory.Proofs.Json.Reader

/-!
# JSON that is written is read back

A value that is laid out over several lines is read back from its text, whatever characters its texts hold.  The text
itself consists of printable ASCII characters and line feeds only.

## Main definitions

* `IsWritable` — a value whose integers are short enough and whose objects have distinct names

## Main statements

* `string_escaped` — a text inside double quotes
* `value_prettyAt` — a value at the front of a text
* `parse_pretty`, `readEncoded_pretty` — a whole text, and the bytes of one
-/

namespace EditHistory.Json

open EditHistory.Text Number

/-! ### Texts -/

theorem hexDigit?_hexChar : ∀ n < 16, hexDigit? (hexChar n) = some n := by decide

/-- Four hexadecimal digits that are written are read back. -/
theorem hex4?_hexDigits {n : Nat} (below : n < 0x10000) (rest : List Char) :
    hex4? (hexDigits 4 n ++ rest) = some (n, rest) := by
  have digit (k : Nat) : hexDigit? (hexChar (k % 16)) = some (k % 16) := hexDigit?_hexChar _ (Nat.mod_lt k (by decide))
  show hex4? (hexChar (n / 16 / 16 / 16 % 16) :: hexChar (n / 16 / 16 % 16) :: hexChar (n / 16 % 16) ::
    hexChar (n % 16) :: rest) = some (n, rest)
  simp only [hex4?, digit, Option.bind_eq_bind, Option.bind_some, Option.pure_def]
  congr 2
  omega

/-- The numbers of characters; those between are surrogates. -/
theorem toNat_range (c : Char) : c.toNat < 0xd800 ∨ 0xdfff < c.toNat ∧ c.toNat < 0x110000 := c.valid

/-- An escape for a character of the basic plane. -/
theorem unicodeEscape?_basic {c : Char} (basic : c.toNat < 0x10000) {rest : List Char} (more : rest ≠ []) :
    unicodeEscape? (hexDigits 4 c.toNat ++ rest) = .ok (c, rest) := by
  have range := toNat_range c
  have single : scalar c.toNat = c := by
    rw [scalar, if_neg (by omega), Char.ofNat_toNat]
  rw [unicodeEscape?, hex4?_hexDigits basic]
  simp only [if_neg more, if_neg (by omega : ¬ (0xd800 ≤ c.toNat ∧ c.toNat < 0xdc00)), single]

/-- A pair of escapes for a character beyond the basic plane. -/
theorem unicodeEscape?_pair {c : Char} (beyond : 0x10000 ≤ c.toNat) {rest : List Char} (more : rest ≠ []) :
    unicodeEscape? (hexDigits 4 (0xd800 + (c.toNat - 0x10000) / 0x400) ++
      (unitEscape (0xdc00 + (c.toNat - 0x10000) % 0x400) ++ rest)) = .ok (c, rest) := by
  have range := toNat_range c
  obtain ⟨k, number⟩ : ∃ k, c.toNat = 0x10000 + k := ⟨c.toNat - 0x10000, by omega⟩
  have offset : c.toNat - 0x10000 = k := by omega
  have long : ¬ (hexDigits 4 (0xdc00 + k % 0x400) ++ rest).length < 5 := by
    have some := List.length_pos_iff.mpr more
    rw [List.length_append]
    show ¬ 4 + rest.length < 5
    omega
  have both : pair (0xd800 + k / 0x400) (0xdc00 + k % 0x400) = c := by
    have whole : 0x10000 + (0xd800 + k / 0x400 - 0xd800) * 0x400 + (0xdc00 + k % 0x400 - 0xdc00) = c.toNat := by
      omega
    rw [pair, whole, Char.ofNat_toNat]
  rw [offset, unicodeEscape?, hex4?_hexDigits (by omega)]
  simp only [unitEscape, List.cons_append, reduceCtorEq, if_false]
  rw [if_pos (by omega), if_neg long, hex4?_hexDigits (by omega)]
  simp only
  rw [if_pos (by omega), both]

/-- What may stand for a character inside double quotes. -/
inductive Escaped (c : Char) : List Char → Prop
  | letter {e : Char} (simple : simpleEscape? e = some c) : Escaped c ['\\', e]
  | plain (notQuote : c ≠ '"') (notBackslash : c ≠ '\\') (printable : 0x20 ≤ c.toNat ∧ c.toNat < 0x7f) : Escaped c [c]
  | basic (basic : c.toNat < 0x10000) : Escaped c (unitEscape c.toNat)
  | pair (beyond : 0x10000 ≤ c.toNat) : Escaped c (unitEscape (0xd800 + (c.toNat - 0x10000) / 0x400) ++
      unitEscape (0xdc00 + (c.toNat - 0x10000) % 0x400))

theorem escaped_escapeChar (c : Char) : Escaped c (escapeChar c) := by
  have letter {d e : Char} {later : List Char} (simple : simpleEscape? e = some d) (other : c ≠ d → Escaped c later) :
      Escaped c (if c = d then ['\\', e] else later) := by
    split
    · rename_i same
      exact .letter (same ▸ simple)
    · rename_i differ
      exact other differ
  unfold escapeChar
  refine letter rfl fun quote => letter rfl fun backslash => ?_
  refine letter rfl fun _ => letter rfl fun _ => letter rfl fun _ => letter rfl fun _ => letter rfl fun _ => ?_
  split
  · rename_i printable
    exact .plain quote backslash printable
  · split
    · rename_i basic
      exact .basic basic
    · rename_i beyond
      exact .pair (Nat.le_of_not_lt beyond)

theorem string_letter {d e : Char} (simple : simpleEscape? e = some d) (start fuel : Nat) (cs : List Char) :
    string start (fuel + 1) ('\\' :: e :: cs) =
      string start fuel cs >>= fun (ds, rest) => .ok (d :: ds, rest) := by
  unfold simpleEscape? at simple
  split at simple <;> cases simple <;> rfl

theorem string_plain {c : Char} (notQuote : c ≠ '"') (notBackslash : c ≠ '\\') (notControl : 0x20 ≤ c.toNat)
    (start fuel : Nat) (cs : List Char) :
    string start (fuel + 1) (c :: cs) = string start fuel cs >>= fun (ds, rest) => .ok (c :: ds, rest) := by
  rw [string.eq_def]
  simp only [if_neg notQuote, if_neg notBackslash, if_neg (Nat.not_lt.mpr notControl)]
  rfl

/-- One character inside double quotes. -/
theorem Escaped.string_append {c : Char} {text : List Char} (escaped : Escaped c text) (start fuel : Nat)
    {rest : List Char} (more : rest ≠ []) :
    string start (fuel + 1) (text ++ rest) = string start fuel rest >>= fun (ds, rest) => .ok (c :: ds, rest) := by
  cases escaped with
  | letter simple => exact string_letter simple start fuel rest
  | plain notQuote notBackslash printable => exact string_plain notQuote notBackslash printable.1 start fuel rest
  | basic basic =>
      rw [unitEscape, List.cons_append, List.cons_append, string, if_neg (by decide), if_pos rfl]
      simp only [unicodeEscape?_basic basic more]
      rfl
  | pair beyond =>
      rw [unitEscape, List.append_assoc, List.cons_append, List.cons_append, string, if_neg (by decide), if_pos rfl]
      simp only [unicodeEscape?_pair beyond more]
      rfl

/-- **A text inside double quotes** is read back, whatever characters it has. -/
theorem string_escaped {start fuel : Nat} {cs : List Char} (enough : cs.length < fuel) (rest : List Char) :
    string start fuel (cs.flatMap escapeChar ++ '"' :: rest) = .ok (cs, rest) := by
  induction cs generalizing fuel with
  | nil =>
      obtain ⟨fuel, rfl⟩ : ∃ n, fuel = n + 1 := ⟨fuel - 1, by simp at enough; omega⟩
      rfl
  | cons c cs ih =>
      rw [List.length_cons] at enough
      obtain ⟨fuel, rfl⟩ : ∃ n, fuel = n + 1 := ⟨fuel - 1, by omega⟩
      have more : cs.flatMap escapeChar ++ '"' :: rest ≠ [] := by simp
      rw [List.flatMap_cons, List.append_assoc, (escaped_escapeChar c).string_append start fuel more, ih (by omega)]
      rfl

theorem Escaped.ne_nil {c : Char} {text : List Char} (escaped : Escaped c text) : text ≠ [] := by
  cases escaped <;> exact List.cons_ne_nil _ _

theorem length_le_escaped (cs : List Char) : cs.length ≤ (cs.flatMap escapeChar).length := by
  induction cs with
  | nil => exact Nat.le_refl 0
  | cons c cs ih =>
      have some := List.length_pos_iff.mpr (escaped_escapeChar c).ne_nil
      rw [List.flatMap_cons, List.length_append, List.length_cons]
      omega

/-- The text in quotes that stands at the front. -/
theorem quote_append (s : String) (rest : List Char) :
    quote s ++ rest = '"' :: (s.toList.flatMap escapeChar ++ '"' :: rest) := by
  simp [quote]

theorem string_quoted (start : Nat) (s : String) (rest : List Char) :
    string start ((s.toList.flatMap escapeChar ++ '"' :: rest).length + 1)
      (s.toList.flatMap escapeChar ++ '"' :: rest) = .ok (s.toList, rest) := by
  refine string_escaped ?_ rest
  have le := length_le_escaped s.toList
  rw [List.length_append]
  omega

/-! ### Values -/

mutual

/-- A value that can be written so that it is read back: its integers are short enough to be converted, and its objects
have distinct names. -/
def IsWritable : Value → Prop
  | .int n => (natText n.natAbs).length ≤ digitLimit
  | .list items => AreWritable items
  | .object fields => (fields.map Prod.fst).Nodup ∧ FieldsAreWritable fields
  | _ => True

def AreWritable : List Value → Prop
  | [] => True
  | v :: vs => IsWritable v ∧ AreWritable vs

def FieldsAreWritable : List (String × Value) → Prop
  | [] => True
  | (_, v) :: fs => IsWritable v ∧ FieldsAreWritable fs

end

theorem skipSpace_newLine (level : Nat) (cs : List Char) : skipSpace (newLine level ++ cs) = skipSpace cs := by
  refine List.dropWhile_append_of_pos fun c mem => ?_
  rcases List.mem_cons.mp mem with rfl | blank
  · rfl
  · rw [List.eq_of_mem_replicate blank]
    rfl

theorem skipSpace_solid {c : Char} (solid : isSpace c = false) (cs : List Char) : skipSpace (c :: cs) = c :: cs :=
  List.dropWhile_cons_of_neg (by rw [solid]; exact Bool.false_ne_true)

/-- A character that can start a value: no blank, and nothing that ends a list or an object. -/
structure StartsValue (c : Char) : Prop where
  solid : isSpace c = false
  notEnd : c ≠ ']' ∧ c ≠ '\x7d'
  notMark : c ≠ '\uFEFF'

instance (c : Char) : Decidable (StartsValue c) :=
  decidable_of_iff (isSpace c = false ∧ (c ≠ ']' ∧ c ≠ '\x7d') ∧ c ≠ '\uFEFF')
    ⟨fun ⟨solid, notEnd, notMark⟩ => ⟨solid, notEnd, notMark⟩, fun ⟨solid, notEnd, notMark⟩ => ⟨solid, notEnd, notMark⟩⟩

/-- A character that can start a value that is neither a text nor a list nor an object. -/
structure StartsAtom (c : Char) : Prop where
  startsValue : StartsValue c
  notOpening : c ≠ '"' ∧ c ≠ '[' ∧ c ≠ '\x7b'

instance (c : Char) : Decidable (StartsAtom c) :=
  decidable_of_iff (StartsValue c ∧ c ≠ '"' ∧ c ≠ '[' ∧ c ≠ '\x7b')
    ⟨fun ⟨starts, notOpening⟩ => ⟨starts, notOpening⟩, fun ⟨starts, notOpening⟩ => ⟨starts, notOpening⟩⟩

theorem startsAtom_of_digit {c : Char} (digit : (asciiDigit? c).isSome) : StartsAtom c := by
  have other {letter : Char} (plain : asciiDigit? letter = none) : c ≠ letter := by
    rintro rfl
    rw [plain] at digit
    cases digit
  refine ⟨⟨?_, ⟨other (by decide), other (by decide)⟩, other (by decide)⟩, other (by decide), other (by decide),
    other (by decide)⟩
  have blank : c ≠ ' ' ∧ c ≠ '\t' ∧ c ≠ '\n' ∧ c ≠ '\r' :=
    ⟨other (by decide), other (by decide), other (by decide), other (by decide)⟩
  simp [isSpace, blank]

theorem value_of_startsAtom {c : Char} (starts : StartsAtom c) (fuel : Nat) (cs : List Char) :
    value (fuel + 1) (c :: cs) = atom (c :: cs) := by
  obtain ⟨quote, bracket, brace⟩ := starts.notOpening
  unfold value
  split
  · rename_i same
    exact absurd (List.cons.inj same).1 quote
  · rename_i same
    exact absurd (List.cons.inj same).1 bracket
  · rename_i same
    exact absurd (List.cons.inj same).1 brace
  · rfl

theorem startsAtom_withSign (negative : Bool) {cs : List Char} (starts : StartsDigits cs) :
    ∃ c more, withSign negative cs = c :: more ∧ StartsAtom c := by
  cases negative with
  | true => exact ⟨'-', _, rfl, by decide⟩
  | false =>
      obtain ⟨c, more, rfl, digit⟩ := starts
      exact ⟨c, more, rfl, startsAtom_of_digit digit⟩

theorem startsAtom_intText (n : Int) : ∃ c cs, intText n = c :: cs ∧ StartsAtom c := by
  obtain ⟨ds, -, whole, -, sign⟩ := exists_intText n []
  rw [List.append_nil] at sign
  rw [sign]
  exact startsAtom_withSign _ (startsDigits_digitText whole [])

theorem startsAtom_floatText (x : Float) : ∃ c cs, floatText x = c :: cs ∧ StartsAtom c := by
  unfold floatText
  cases decoded : parts x with
  | nan => exact ⟨'N', _, rfl, by decide⟩
  | infinite negative =>
      cases negative with
      | true => exact ⟨'-', _, rfl, by decide⟩
      | false => exact ⟨'I', _, rfl, by decide⟩
  | finite negative m q =>
      obtain ⟨whole, frac, scale, tail, text, isWhole, -⟩ := exists_display decoded
      simp only
      rw [text]
      exact startsAtom_withSign negative (startsDigits_digitText isWhole tail)

/-- How the text of a value starts. -/
theorem startsValue_prettyAt (level : Nat) (v : Value) : ∃ c cs, prettyAt level v = c :: cs ∧ StartsValue c := by
  cases v with
  | null => exact ⟨'n', _, rfl, by decide⟩
  | bool b =>
      cases b with
      | true => exact ⟨'t', _, rfl, by decide⟩
      | false => exact ⟨'f', _, rfl, by decide⟩
  | int n =>
      obtain ⟨c, cs, text, starts⟩ := startsAtom_intText n
      exact ⟨c, cs, by rw [prettyAt, text], starts.startsValue⟩
  | float x =>
      obtain ⟨c, cs, text, starts⟩ := startsAtom_floatText x
      exact ⟨c, cs, by rw [prettyAt, text], starts.startsValue⟩
  | str s => exact ⟨'"', _, by rw [prettyAt, quote]; rfl, by decide⟩
  | list items =>
      cases items with
      | nil => exact ⟨'[', _, by rw [prettyAt], by decide⟩
      | cons v vs => exact ⟨'[', _, by rw [prettyAt]; rfl, by decide⟩
  | object fields =>
      cases fields with
      | nil => exact ⟨'\x7b', _, by rw [prettyAt], by decide⟩
      | cons f fs => exact ⟨'\x7b', _, by rw [prettyAt]; rfl, by decide⟩

theorem skipSpace_prettyAt (level : Nat) (v : Value) (rest : List Char) :
    skipSpace (prettyAt level v ++ rest) = prettyAt level v ++ rest := by
  obtain ⟨c, cs, text, starts⟩ := startsValue_prettyAt level v
  rw [text, List.cons_append, skipSpace_solid starts.solid]

theorem endsNumber_newLine (level : Nat) (rest : List Char) : EndsNumber (newLine level ++ rest) := by
  rintro _ ⟨⟩
  decide

theorem endsNumber_comma (rest : List Char) : EndsNumber (',' :: rest) := by
  rintro _ ⟨⟩
  decide

theorem startsValue_prettyItems (level : Nat) (v : Value) (vs : List Value) (rest : List Char) :
    ∃ c cs, prettyItems level (v :: vs) ++ rest = c :: cs ∧ StartsValue c := by
  obtain ⟨c, cs, text, starts⟩ := startsValue_prettyAt level v
  cases vs with
  | nil => exact ⟨c, cs ++ rest, by rw [prettyItems, text]; rfl, starts⟩
  | cons w vs => exact ⟨c, _, by rw [prettyItems, text]; rfl, starts⟩

theorem startsValue_prettyFields (level : Nat) (f : String × Value) (fs : List (String × Value)) (rest : List Char) :
    ∃ cs, prettyFields level (f :: fs) ++ rest = '"' :: cs := by
  cases fs with
  | nil => exact ⟨_, by rw [prettyFields, quote]; rfl⟩
  | cons g gs => exact ⟨_, by rw [prettyFields, quote]; rfl⟩

/-! ### Steps of the reader -/

section

variable {fuel : Nat} {cs inner rest more : List Char} {c : Char} {v : Value}

theorem value_list (front : skipSpace inner = c :: cs) (filled : c ≠ ']') :
    value (fuel + 1) ('[' :: inner) = items fuel (c :: cs) >>= fun read => .ok (.list read.1, read.2) := by
  rw [value.eq_def]
  simp only [front]
  split
  · rename_i same
    exact absurd (List.cons.inj same).1 filled
  · rfl

theorem value_object (front : skipSpace inner = c :: cs) (filled : c ≠ '\x7d') :
    value (fuel + 1) ('\x7b' :: inner) = fields fuel [] (c :: cs) >>= fun read => .ok (.object read.1, read.2) := by
  rw [value.eq_def]
  simp only [front]
  split
  · rename_i same
    exact absurd (List.cons.inj same).1 filled
  · rfl

theorem items_closed (read : value fuel cs = .ok (v, rest)) (closed : skipSpace rest = ']' :: more) :
    items (fuel + 1) cs = .ok ([v], more) := by
  rw [items.eq_def]
  simp only [read, bind, Except.bind, closed]
  rfl

theorem items_comma (read : value fuel cs = .ok (v, rest)) (comma : skipSpace rest = ',' :: more) {vs : List Value}
    {last : List Char} (later : items fuel (skipSpace more) = .ok (vs, last)) :
    items (fuel + 1) cs = .ok (v :: vs, last) := by
  rw [items.eq_def]
  simp only [read, bind, Except.bind, comma, later]
  rfl

variable {done : List (String × Value)} {key : String} {inside : List Char}

theorem fields_closed (name : inner = quote key ++ ':' :: ' ' :: cs) (solid : skipSpace cs = cs)
    (read : value fuel cs = .ok (v, rest)) (closed : skipSpace rest = '\x7d' :: more) :
    fields (fuel + 1) done inner = .ok (Value.put done key v, more) := by
  rw [name, quote_append, fields.eq_def]
  simp only [string_quoted, bind, Except.bind]
  rw [skipSpace_solid (by decide)]
  simp only
  rw [show skipSpace (' ' :: cs) = skipSpace cs from rfl, solid, read]
  simp only [closed, String.ofList_toList]
  rfl

theorem fields_comma (name : inner = quote key ++ ':' :: ' ' :: cs) (solid : skipSpace cs = cs)
    (read : value fuel cs = .ok (v, rest)) (comma : skipSpace rest = ',' :: more) :
    fields (fuel + 1) done inner = fields fuel (Value.put done key v) (skipSpace more) := by
  rw [name, quote_append, fields.eq_def]
  simp only [string_quoted, bind, Except.bind]
  rw [skipSpace_solid (by decide)]
  simp only
  rw [show skipSpace (' ' :: cs) = skipSpace cs from rfl, solid, read]
  simp only [comma, String.ofList_toList]

end

theorem put_of_notMem {fields : List (String × Value)} {key : String} (new : key ∉ fields.map Prod.fst) (v : Value) :
    Value.put fields key v = fields ++ [(key, v)] := by
  induction fields with
  | nil => rfl
  | cons f fs ih =>
      obtain ⟨k, w⟩ := f
      rw [List.map_cons, List.mem_cons, not_or] at new
      rw [Value.put, if_neg (Ne.symm new.1), ih new.2, List.cons_append]

theorem notMem_of_distinct {done later : List (String × Value)} {key : String} {v : Value}
    (distinct : ((done ++ (key, v) :: later).map Prod.fst).Nodup) : key ∉ done.map Prod.fst := by
  intro mem
  rw [List.map_append, List.map_cons, List.nodup_append] at distinct
  exact distinct.2.2 key mem key List.mem_cons_self rfl

/-! ### The whole value -/

mutual

/-- **A value that is written is read back**, if what follows does not go on with a number. -/
theorem value_prettyAt : ∀ (fuel : Nat) (v : Value) (level : Nat) (rest : List Char), IsWritable v → EndsNumber rest →
    2 * (prettyAt level v ++ rest).length + 1 ≤ fuel → value fuel (prettyAt level v ++ rest) = .ok (v, rest)
  | 0, v, level, rest, writable, ends, enough => by omega
  | fuel + 1, .null, level, rest, writable, ends, enough => rfl
  | fuel + 1, .bool true, level, rest, writable, ends, enough => rfl
  | fuel + 1, .bool false, level, rest, writable, ends, enough => rfl
  | fuel + 1, .int n, level, rest, writable, ends, enough => by
      obtain ⟨c, cs, text, starts⟩ := startsAtom_intText n
      have read := atom_intText writable ends
      rw [prettyAt]
      rw [text, List.cons_append] at read ⊢
      rw [value_of_startsAtom starts, read]
  | fuel + 1, .float x, level, rest, writable, ends, enough => by
      obtain ⟨c, cs, text, starts⟩ := startsAtom_floatText x
      have read := atom_floatText x ends
      rw [prettyAt]
      rw [text, List.cons_append] at read ⊢
      rw [value_of_startsAtom starts, read]
  | fuel + 1, .str s, level, rest, writable, ends, enough => by
      rw [prettyAt, quote_append, value, string_quoted]
      simp only [bind, Except.bind, pure, Except.pure, String.ofList_toList]
  | fuel + 1, .list [], level, rest, writable, ends, enough => rfl
  | fuel + 1, .list (v :: vs), level, rest, writable, ends, enough => by
      have text : prettyAt level (.list (v :: vs)) ++ rest = '[' :: (newLine (level + 1) ++
          (prettyItems (level + 1) (v :: vs) ++ (newLine level ++ ']' :: rest))) := by
        simp only [prettyAt, List.append_assoc, List.cons_append, List.nil_append]
      rw [text] at enough ⊢
      rw [List.length_cons, List.length_append] at enough
      have read := items_prettyItems fuel v vs (level + 1) level rest writable
        (by omega)
      obtain ⟨c, cs, front, starts⟩ :=
        startsValue_prettyItems (level + 1) v vs (newLine level ++ ']' :: rest)
      rw [front] at read ⊢
      rw [value_list (by rw [skipSpace_newLine, skipSpace_solid starts.solid]) starts.notEnd.1, read]
      rfl
  | fuel + 1, .object [], level, rest, writable, ends, enough => rfl
  | fuel + 1, .object (f :: fs), level, rest, writable, ends, enough => by
      have text : prettyAt level (.object (f :: fs)) ++ rest = '\x7b' :: (newLine (level + 1) ++
          (prettyFields (level + 1) (f :: fs) ++ (newLine level ++ '\x7d' :: rest))) := by
        simp only [prettyAt, List.append_assoc, List.cons_append, List.nil_append]
      rw [text] at enough ⊢
      rw [List.length_cons, List.length_append] at enough
      have read := fields_prettyFields fuel [] f fs (level + 1) level rest writable.1
        writable.2 (by omega)
      obtain ⟨cs, front⟩ := startsValue_prettyFields (level + 1) f fs (newLine level ++ '\x7d' :: rest)
      rw [front] at read ⊢
      rw [value_object (by rw [skipSpace_newLine, skipSpace_solid (by decide)]) (by decide), read]
      rfl

theorem items_prettyItems : ∀ (fuel : Nat) (v : Value) (vs : List Value) (level close : Nat) (rest : List Char),
    AreWritable (v :: vs) → 2 * (prettyItems level (v :: vs) ++ (newLine close ++ ']' :: rest)).length + 2 ≤ fuel →
    items fuel (prettyItems level (v :: vs) ++ (newLine close ++ ']' :: rest)) = .ok (v :: vs, rest)
  | 0, v, vs, level, close, rest, writable, enough => by omega
  | fuel + 1, v, [], level, close, rest, writable, enough => by
      rw [prettyItems] at enough ⊢
      have read := value_prettyAt fuel v level _ writable.1 (endsNumber_newLine close (']' :: rest))
        (by omega)
      exact items_closed read (by rw [skipSpace_newLine, skipSpace_solid (by decide)])
  | fuel + 1, v, w :: vs, level, close, rest, writable, enough => by
      have text : prettyItems level (v :: w :: vs) ++ (newLine close ++ ']' :: rest) = prettyAt level v ++ (',' ::
          (newLine level ++ (prettyItems level (w :: vs) ++ (newLine close ++ ']' :: rest)))) := by
        simp only [prettyItems, List.append_assoc, List.cons_append]
      rw [text] at enough ⊢
      have read := value_prettyAt fuel v level _ writable.1
        (endsNumber_comma (newLine level ++ (prettyItems level (w :: vs) ++ (newLine close ++ ']' :: rest))))
        (by omega)
      rw [List.length_append, List.length_cons, List.length_append] at enough
      have later := items_prettyItems fuel w vs level close rest writable.2
        (by omega)
      obtain ⟨c, cs, front, starts⟩ := startsValue_prettyItems level w vs (newLine close ++ ']' :: rest)
      refine items_comma read (skipSpace_solid (by decide) _) ?_
      rw [skipSpace_newLine]
      rw [front] at later ⊢
      rw [skipSpace_solid starts.solid, later]

theorem fields_prettyFields : ∀ (fuel : Nat) (done : List (String × Value)) (f : String × Value)
    (fs : List (String × Value)) (level close : Nat) (rest : List Char), ((done ++ f :: fs).map Prod.fst).Nodup →
    FieldsAreWritable (f :: fs) →
    2 * (prettyFields level (f :: fs) ++ (newLine close ++ '\x7d' :: rest)).length + 2 ≤ fuel →
    fields fuel done (prettyFields level (f :: fs) ++ (newLine close ++ '\x7d' :: rest)) = .ok (done ++ f :: fs, rest)
  | 0, done, f, fs, level, close, rest, distinct, writable, enough => by omega
  | fuel + 1, done, (k, v), [], level, close, rest, distinct, writable, enough => by
      have text : prettyFields level [(k, v)] ++ (newLine close ++ '\x7d' :: rest) = quote k ++ ':' :: ' ' ::
          (prettyAt level v ++ (newLine close ++ '\x7d' :: rest)) := by
        simp only [prettyFields, List.append_assoc, List.cons_append]
      rw [text] at enough ⊢
      rw [List.length_append, List.length_cons, List.length_cons] at enough
      have read := value_prettyAt fuel v level _ writable.1 (endsNumber_newLine close ('\x7d' :: rest))
        (by omega)
      have new : k ∉ done.map Prod.fst := notMem_of_distinct distinct
      rw [fields_closed rfl (skipSpace_prettyAt level v _) read
        (by rw [skipSpace_newLine, skipSpace_solid (by decide)]), put_of_notMem new]
  | fuel + 1, done, (k, v), g :: gs, level, close, rest, distinct, writable, enough => by
      have text : prettyFields level ((k, v) :: g :: gs) ++ (newLine close ++ '\x7d' :: rest) = quote k ++ ':' :: ' ' ::
          (prettyAt level v ++ (',' :: (newLine level ++ (prettyFields level (g :: gs) ++
            (newLine close ++ '\x7d' :: rest))))) := by
        simp only [prettyFields, List.append_assoc, List.cons_append]
      rw [text] at enough ⊢
      rw [List.length_append, List.length_cons, List.length_cons] at enough
      have read := value_prettyAt fuel v level _ writable.1
        (endsNumber_comma (newLine level ++ (prettyFields level (g :: gs) ++ (newLine close ++ '\x7d' :: rest))))
        (by omega)
      have new : k ∉ done.map Prod.fst := notMem_of_distinct distinct
      rw [List.length_append, List.length_cons, List.length_append] at enough
      have later := fields_prettyFields fuel (done ++ [(k, v)]) g gs level close rest
        (by rw [List.append_assoc]; exact distinct) writable.2 (by omega)
      obtain ⟨cs, front⟩ := startsValue_prettyFields level g gs (newLine close ++ '\x7d' :: rest)
      rw [fields_comma rfl (skipSpace_prettyAt level v _) read (skipSpace_solid (by decide) _), put_of_notMem new,
        skipSpace_newLine]
      rw [front] at later ⊢
      rw [skipSpace_solid (by decide), later, List.append_assoc]
      rfl

end

/-- **A value that is laid out is read back** from its text. -/
theorem parse_pretty {v : Value} (writable : IsWritable v) : parse (pretty v) = .ok v := by
  obtain ⟨c, cs, text, starts⟩ := startsValue_prettyAt 0 v
  have read := value_prettyAt _ v 0 [] writable endsNumber_nil (Nat.le_succ _)
  have unmarked : (c :: cs).head? ≠ some '\uFEFF' := fun marked => starts.notMark (Option.some.inj marked)
  rw [List.append_nil, text] at read
  rw [pretty, text, parse, if_neg unmarked, parseUnmarked]
  simp only [skipSpace_solid starts.solid, read, bind, Except.bind]
  rfl

theorem unified_unitEscape (n : Nat) : '\r' ∉ unitEscape n := by
  have digit (k : Nat) : '\r' ≠ hexChar (k % 16) := by
    have all : ∀ k < 16, '\r' ≠ hexChar k := by decide
    exact all _ (Nat.mod_lt k (by decide))
  simp [unitEscape, hexDigits, digit]

theorem Escaped.unified {c : Char} {text : List Char} (escaped : Escaped c text) : '\r' ∉ text := by
  cases escaped with
  | letter simple =>
      rintro (_ | ⟨_, _ | ⟨_, ⟨⟩⟩⟩)
      cases simple
  | plain notQuote notBackslash printable =>
      intro mem
      obtain rfl := List.mem_singleton.mp mem
      exact absurd printable.1 (by decide)
  | basic basic => exact unified_unitEscape _
  | pair beyond => exact fun mem => (List.mem_append.mp mem).elim (unified_unitEscape _) (unified_unitEscape _)

theorem unified_quote (s : String) : '\r' ∉ quote s := by
  simp [quote, (escaped_escapeChar _).unified]

theorem unified_digitText {ds : List Nat} (small : ∀ d ∈ ds, d < 10) : '\r' ∉ digitText ds := by
  intro mem
  obtain ⟨d, mem, same⟩ := List.mem_map.mp mem
  have all : ∀ d < 10, Char.ofNat (0x30 + d) ≠ '\r' := by decide
  exact all d (small d mem) same

theorem unified_exponentText (e : Int) : '\r' ∉ exponentText e := by
  obtain ⟨ds, -, small, -, text⟩ := exists_exponentText e
  have digits := unified_digitText small
  rw [text]
  split <;> simp [digits]

theorem unified_intText (n : Int) : '\r' ∉ intText n := by
  intro mem
  rcases mem_intText mem with same | digit
  · cases same
  · exact absurd digit.1 (by decide)

theorem unified_floatText (x : Float) : '\r' ∉ floatText x := by
  unfold floatText
  cases decoded : parts x with
  | nan => simp
  | infinite negative => cases negative <;> simp [withSign]
  | finite negative m q =>
      obtain ⟨whole, frac, scale, tail, text, isWhole, tailText, -⟩ := exists_display decoded
      have before := unified_digitText isWhole.small
      have after : '\r' ∉ tail := by
        cases tailText with
        | fraction some small => simp [unified_digitText small]
        | exponent => exact unified_exponentText _
        | both some small => simp [unified_digitText small, unified_exponentText]
      simp only
      rw [text]
      cases negative <;> simp [withSign, before, after]

theorem unified_newLine (level : Nat) : '\r' ∉ newLine level := by
  simp [newLine]

mutual

/-- The text of a value has no carriage returns. -/
theorem unified_prettyAt : ∀ (v : Value) (level : Nat), '\r' ∉ prettyAt level v
  | .null, level => by simp [prettyAt]
  | .bool true, level => by simp [prettyAt]
  | .bool false, level => by simp [prettyAt]
  | .int n, level => by
      rw [prettyAt]
      exact unified_intText n
  | .float x, level => by
      rw [prettyAt]
      exact unified_floatText x
  | .str s, level => by
      rw [prettyAt]
      exact unified_quote s
  | .list [], level => by simp [prettyAt]
  | .list (v :: vs), level => by
      rw [prettyAt]
      simp [unified_newLine, unified_prettyItems (v :: vs)]
  | .object [], level => by simp [prettyAt]
  | .object (f :: fs), level => by
      rw [prettyAt]
      simp [unified_newLine, unified_prettyFields (f :: fs)]

theorem unified_prettyItems : ∀ (vs : List Value) (level : Nat), '\r' ∉ prettyItems level vs
  | [], level => by simp [prettyItems]
  | [v], level => by
      rw [prettyItems]
      exact unified_prettyAt v level
  | v :: w :: vs, level => by
      rw [prettyItems]
      simp [unified_newLine, unified_prettyAt v, unified_prettyItems (w :: vs)]

theorem unified_prettyFields : ∀ (fs : List (String × Value)) (level : Nat), '\r' ∉ prettyFields level fs
  | [], level => by simp [prettyFields]
  | [(k, v)], level => by
      rw [prettyFields]
      simp [unified_quote, unified_prettyAt v]
  | (k, v) :: g :: gs, level => by
      rw [prettyFields]
      simp [unified_quote, unified_newLine, unified_prettyAt v, unified_prettyFields (g :: gs)]

end

theorem unified_pretty (v : Value) : '\r' ∉ pretty v := unified_prettyAt v 0

end EditHistory.Json
