import EditHistory.Proofs.Text.Letters
import EditHistory.Proofs.Text.Utf8
import EditHistory.Proofs.Web.Location
import EditHistory.Web.Form
import Mathlib.Data.List.Basic

/-!
# Forms and back

What a form holds is read back from its text, whatever the names and values are: inside a name or a value none of the
characters is left that have a meaning between them.  Only pairs without a value are lost.

## Main definitions

* `Form.isSafe` — the characters that stand in a name or a value that is written

## Main statements

* `Form.decode_encode` — a text that is written is read back
* `Form.read_render` — pairs that are written are read back
-/

namespace EditHistory

namespace Text

theorem splitOn_of_not_mem {sep : Char} {cs : List Char} (absent : sep ∉ cs) : splitOn sep cs = [cs] := by
  induction cs with
  | nil => rfl
  | cons c cs ih =>
      obtain ⟨differs, later⟩ := List.ne_and_not_mem_of_not_mem_cons absent
      rw [splitOn, if_neg differs.symm, ih later]

theorem splitOn_append_cons {sep : Char} {cs : List Char} (absent : sep ∉ cs) (rest : List Char) :
    splitOn sep (cs ++ sep :: rest) = cs :: splitOn sep rest := by
  induction cs with
  | nil => rw [List.nil_append, splitOn, if_pos rfl]
  | cons c cs ih =>
      obtain ⟨differs, later⟩ := List.ne_and_not_mem_of_not_mem_cons absent
      rw [List.cons_append, splitOn, if_neg differs.symm, ih later]

theorem cutAt_append_cons {sep : Char} {cs : List Char} (absent : sep ∉ cs) (rest : List Char) :
    cutAt sep (cs ++ sep :: rest) = (cs, some rest) := by
  induction cs with
  | nil => rw [List.nil_append, cutAt, if_pos rfl]
  | cons c cs ih =>
      obtain ⟨differs, later⟩ := List.ne_and_not_mem_of_not_mem_cons absent
      rw [List.cons_append, cutAt, if_neg differs.symm, ih later]

theorem hexDigit?_upperHexChar : ∀ n < 16, hexDigit? (upperHexChar n) = some n := by decide

end Text

namespace Web.Form

open EditHistory.Text

/-! ### The characters of a written text -/

/-- Whether a character may stand in a name or a value that is written: it stands for itself, for a space, or at the
front of an escape. -/
def isSafe (c : Char) : Bool :=
  isPlain c || c == '+' || c == '%'

theorem ne_of_isSafe {c d : Char} (safe : isSafe c = true) (other : isSafe d = false) : c ≠ d := by
  rintro rfl
  rw [other] at safe
  cases safe

theorem toNat_of_isPlain {c : Char} (plain : isPlain c = true) : 0x20 < c.toNat ∧ c.toNat < 0x80 := by
  simp only [isPlain, Bool.or_eq_true, beq_iff_eq] at plain
  rcases plain with (((alphanum | rfl) | rfl) | rfl) | rfl
  · have := toNat_of_isAlphanum alphanum
    omega
  all_goals decide

theorem toNat_of_isSafe {c : Char} (safe : isSafe c = true) : 0x20 < c.toNat ∧ c.toNat < 0x80 := by
  simp only [isSafe, Bool.or_eq_true, beq_iff_eq] at safe
  rcases safe with (plain | rfl) | rfl
  · exact toNat_of_isPlain plain
  all_goals decide

theorem isPlain_upperHexChar : ∀ n < 16, isPlain (upperHexChar n) = true := by decide

theorem isSafe_of_mem_escapeByte {b : UInt8} {c : Char} (mem : c ∈ escapeByte b) : isSafe c = true := by
  have byte : b.toNat < 256 := b.toNat_lt
  have digit (n : Nat) (small : n < 16) : isSafe (upperHexChar n) = true := by
    rw [isSafe, isPlain_upperHexChar n small]
    rfl
  simp only [escapeByte, List.mem_cons, List.not_mem_nil, or_false] at mem
  rcases mem with rfl | rfl | rfl
  · rfl
  · exact digit _ (by omega)
  · exact digit _ (by omega)

theorem isSafe_of_mem_encode {cs : List Char} {c : Char} (mem : c ∈ encode cs) : isSafe c = true := by
  obtain ⟨d, -, mem⟩ := List.mem_flatMap.mp mem
  unfold encodeChar at mem
  split at mem
  · rename_i plain
    rw [List.mem_singleton.mp mem, isSafe, plain]
    rfl
  · split at mem
    · rw [List.mem_singleton.mp mem]
      rfl
    · obtain ⟨b, -, mem⟩ := List.mem_flatMap.mp mem
      exact isSafe_of_mem_escapeByte mem

theorem not_mem_encode {d : Char} (other : isSafe d = false) (cs : List Char) : d ∉ encode cs :=
  fun mem => ne_of_isSafe (isSafe_of_mem_encode mem) other rfl

theorem encode_eq_nil_iff {cs : List Char} : encode cs = [] ↔ cs = [] := by
  constructor
  · intro none
    cases cs with
    | nil => rfl
    | cons c cs =>
        obtain ⟨b, bs, bytes, -⟩ := decodeStep_utf8Char c
        have some : encodeChar c = [] := List.flatMap_eq_nil_iff.mp none c List.mem_cons_self
        unfold encodeChar at some
        rw [bytes, List.flatMap_cons] at some
        split at some
        · cases some
        · split at some <;> cases some
  · rintro rfl
    rfl

/-! ### A text -/

/-- The character that a plus sign stands for, and any other as it is. -/
private def spaced (c : Char) : Char := if c = '+' then ' ' else c

theorem unescape_cons {c : Char} (unescaped : c ≠ '%') (rest : List Char) :
    unescape (c :: rest) = UInt8.ofNat c.toNat :: unescape rest := by
  rw [unescape.eq_def]
  split
  · rename_i nothing
    cases nothing
  · rename_i escape
    exact absurd (List.cons.inj escape).1 unescaped
  · rename_i same
    obtain ⟨rfl, rfl⟩ := List.cons.inj same
    rfl

theorem map_spaced_escapeByte (b : UInt8) : (escapeByte b).map spaced = escapeByte b := by
  have byte : b.toNat < 256 := b.toNat_lt
  have digit (n : Nat) (small : n < 16) : spaced (upperHexChar n) = upperHexChar n := by
    refine if_neg fun plus => ?_
    have plain := isPlain_upperHexChar n small
    rw [plus] at plain
    cases plain
  simp only [escapeByte, List.map_cons, List.map_nil]
  rw [digit _ (by omega), digit _ (by omega)]
  rfl

theorem unescape_escapeByte (b : UInt8) (rest : List Char) :
    unescape (escapeByte b ++ rest) = b :: unescape rest := by
  have byte : b.toNat < 256 := b.toNat_lt
  have whole : UInt8.ofNat (16 * (b.toNat / 16) + b.toNat % 16) = b := by
    rw [Nat.div_add_mod]
    exact UInt8.ofNat_toNat
  simp only [escapeByte, List.cons_append, List.nil_append, unescape,
    hexDigit?_upperHexChar (b.toNat / 16) (by omega), hexDigit?_upperHexChar (b.toNat % 16) (by omega), whole]

theorem unescape_escapeBytes (bs : List UInt8) (rest : List Char) :
    unescape ((bs.flatMap escapeByte).map spaced ++ rest) = bs ++ unescape rest := by
  induction bs with
  | nil => rfl
  | cons b bs ih =>
      rw [List.flatMap_cons, List.map_append, map_spaced_escapeByte, List.append_assoc, unescape_escapeByte, ih,
        List.cons_append]

/-- A character that is written stands for its bytes. -/
theorem unescape_encodeChar (c : Char) (rest : List Char) :
    unescape ((encodeChar c).map spaced ++ rest) = utf8Char c ++ unescape rest := by
  unfold encodeChar
  split
  · rename_i plain
    have ascii := (toNat_of_isPlain plain).2
    have single : spaced c = c := if_neg fun plus => by
      rw [plus] at plain
      cases plain
    have unescaped : c ≠ '%' := by
      rintro rfl
      cases plain
    have bytes : utf8Char c = [UInt8.ofNat c.toNat] := if_pos ascii
    rw [List.map_singleton, single, List.singleton_append, unescape_cons unescaped, bytes]
    rfl
  · split
    · rename_i space
      rw [space]
      exact unescape_cons (by decide) rest
    · exact unescape_escapeBytes (utf8Char c) rest

theorem unescape_encode (cs : List Char) : unescape ((encode cs).map spaced) = utf8 cs := by
  induction cs with
  | nil => rfl
  | cons c cs ih =>
      rw [encode, List.flatMap_cons, List.map_append, unescape_encodeChar, utf8, List.flatMap_cons]
      exact congrArg _ ih

/-- Characters of ASCII are all part of one run. -/
theorem decodeRuns_of_ascii {cs : List Char} (ascii : ∀ c ∈ cs, c.toNat < 0x80) (run : List Char) :
    decodeRuns run cs = decodeUtf8Lossy (unescape (run.reverse ++ cs)) := by
  induction cs generalizing run with
  | nil => rw [decodeRuns, List.append_nil]
  | cons c cs ih =>
      rw [decodeRuns, if_pos (ascii c List.mem_cons_self), ih fun d mem => ascii d (List.mem_cons_of_mem c mem),
        List.reverse_cons, List.append_assoc, List.singleton_append]

/-- **A text that is written is read back**, whatever its characters are. -/
theorem decode_encode (cs : List Char) : decode (encode cs) = cs := by
  have ascii : ∀ c ∈ (encode cs).map spaced, c.toNat < 0x80 := by
    intro c mem
    obtain ⟨d, written, rfl⟩ := List.mem_map.mp mem
    unfold spaced
    split
    · decide
    · exact (toNat_of_isSafe (isSafe_of_mem_encode written)).2
  calc decode (encode cs)
      = decodeUtf8Lossy (unescape ((encode cs).map spaced)) := decodeRuns_of_ascii ascii []
    _ = decodeUtf8Lossy (utf8 cs) := by rw [unescape_encode]
    _ = cs := decodeUtf8Lossy_utf8 cs

/-- Different texts are written differently. -/
theorem encode_injective : Function.Injective encode :=
  Function.LeftInverse.injective decode_encode

/-! ### Pairs -/

theorem encodePair_injective : Function.Injective encodePair := by
  intro p q same
  have cut := congrArg (cutAt '=') same
  rw [encodePair, encodePair, cutAt_append_cons (not_mem_encode rfl p.1), cutAt_append_cons (not_mem_encode rfl q.1)]
    at cut
  obtain ⟨name, value⟩ := Prod.mk.inj cut
  exact Prod.ext (encode_injective name) (encode_injective (Option.some.inj value))

theorem not_mem_encodePair (p : List Char × List Char) {d : Char} (other : isSafe d = false) (notEqual : d ≠ '=') :
    d ∉ encodePair p := by
  intro mem
  rcases List.mem_append.mp mem with mem | mem
  · exact not_mem_encode other p.1 mem
  · rcases List.mem_cons.mp mem with same | mem
    · exact notEqual same
    · exact not_mem_encode other p.2 mem

/-- A pair that is written is read back, unless it has no value. -/
theorem readPair?_encodePair (p : List Char × List Char) :
    readPair? (encodePair p) = if p.2 = [] then none else some p := by
  rw [readPair?, encodePair, cutAt_append_cons (not_mem_encode rfl p.1)]
  cases value : encode p.2 with
  | nil => rw [if_pos (encode_eq_nil_iff.mp value)]
  | cons c cs =>
      have some : p.2 ≠ [] := fun none => by
        rw [none] at value
        cases value
      simp only [if_neg some, ← value, decode_encode]

theorem splitOn_render (p : List Char × List Char) (ps : List (List Char × List Char)) :
    splitOn '&' (render (p :: ps)) = (p :: ps).map encodePair := by
  have single (p : List Char × List Char) : '&' ∉ encodePair p := not_mem_encodePair p rfl (by decide)
  induction ps generalizing p with
  | nil => exact splitOn_of_not_mem (single p)
  | cons q ps ih =>
      rw [render, splitOn_append_cons (single p), ih q]
      rfl

/-- **Pairs that are written are read back**, except for those without a value. -/
theorem read_render (ps : List (List Char × List Char)) : read (render ps) = ps.filter fun p => p.2 ≠ [] := by
  cases ps with
  | nil => rfl
  | cons p ps =>
      have kept : (readPair? ∘ encodePair) = Option.guard fun p => p.2 ≠ [] := by
        funext p
        rw [Function.comp_apply, readPair?_encodePair]
        by_cases none : p.2 = [] <;> simp [none, Option.guard]
      rw [read, splitOn_render, List.filterMap_map, kept, List.filterMap_eq_filter]

/-- **Different pairs are written differently.** -/
theorem render_injective : Function.Injective render := by
  have nonempty (p : List Char × List Char) (ps : List (List Char × List Char)) : [] ≠ render (p :: ps) := by
    intro none
    have pieces := splitOn_render p ps
    rw [← none, List.map_cons, encodePair] at pieces
    exact List.append_ne_nil_of_right_ne_nil _ (List.cons_ne_nil _ _) (List.cons.inj pieces).1.symm
  intro ps qs same
  cases ps with
  | nil =>
      cases qs with
      | nil => rfl
      | cons q qs => exact absurd same (nonempty q qs)
  | cons p ps =>
      cases qs with
      | nil => exact absurd same.symm (nonempty p ps)
      | cons q qs =>
          have pieces := congrArg (splitOn '&') same
          rw [splitOn_render, splitOn_render] at pieces
          exact List.map_injective_iff.mpr encodePair_injective pieces

theorem mem_render {ps : List (List Char × List Char)} {c : Char} (mem : c ∈ render ps) :
    isSafe c = true ∨ c = '=' ∨ c = '&' := by
  have pair (p : List Char × List Char) (mem : c ∈ encodePair p) : isSafe c = true ∨ c = '=' ∨ c = '&' := by
    rcases List.mem_append.mp mem with mem | mem
    · exact .inl (isSafe_of_mem_encode mem)
    · exact (List.mem_cons.mp mem).elim (fun same => .inr (.inl same)) fun mem => .inl (isSafe_of_mem_encode mem)
  induction ps with
  | nil => cases mem
  | cons p ps ih =>
      cases ps with
      | nil => exact pair p mem
      | cons q ps =>
          rcases List.mem_append.mp mem with mem | mem
          · exact pair p mem
          · exact (List.mem_cons.mp mem).elim (fun same => .inr (.inr same)) ih

/-- The characters of written pairs are neither blanks nor control characters. -/
theorem toNat_of_mem_render {ps : List (List Char × List Char)} {c : Char} (mem : c ∈ render ps) :
    0x20 < c.toNat := by
  rcases mem_render mem with safe | rfl | rfl
  · exact (toNat_of_isSafe safe).1
  · decide
  · decide

theorem not_mem_render {d : Char} (other : isSafe d = false) (apart : d ≠ '=' ∧ d ≠ '&')
    (ps : List (List Char × List Char)) : d ∉ render ps := by
  intro mem
  rcases mem_render mem with safe | same | same
  · exact ne_of_isSafe safe other rfl
  · exact apart.1 same
  · exact apart.2 same

end Web.Form

end EditHistory
