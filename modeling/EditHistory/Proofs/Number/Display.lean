import EditHistory.Number.Layout
import EditHistory.Proofs.Number.Shortest

/-!
# The text of a double reads back

Whatever its layout, the text of a finite double consists of digits, perhaps a point with more digits, and perhaps an
exponent; and the double that these write is the one whose text it is.

## Main definitions

* `IsWhole` — the digits before the point
* `TailText` — what may follow them

## Main statements

* `exists_natText` — the digits of a natural number
* `exists_display` — the text of a finite double and the double that it writes
-/

namespace EditHistory.Number

/-- The digits of a number before its point: a zero, or digits that do not start with one. -/
structure IsWhole (ds : List Nat) : Prop where
  first : ds = [0] ∨ ∃ c cs, ds = c :: cs ∧ c ≠ 0
  small : ∀ d ∈ ds, d < 10

/-- What follows the digits before the point: a point and more digits, an exponent, or both. -/
inductive TailText : List Nat → Int → List Char → Prop
  | fraction {frac : List Nat} (some : frac ≠ []) (small : ∀ d ∈ frac, d < 10) :
      TailText frac 0 ('.' :: digitText frac)
  | exponent (e : Int) : TailText [] e (exponentText e)
  | both {frac : List Nat} (some : frac ≠ []) (small : ∀ d ∈ frac, d < 10) (e : Int) :
      TailText frac e ('.' :: digitText frac ++ exponentText e)

theorem isWhole_zero : IsWhole [0] := ⟨Or.inl rfl, by decide⟩

theorem isWhole_cons {c : Nat} {cs : List Nat} (some : c ≠ 0) (small : ∀ d ∈ c :: cs, d < 10) : IsWhole (c :: cs) :=
  ⟨Or.inr ⟨c, cs, rfl, some⟩, small⟩

theorem IsWhole.ne_nil {ds : List Nat} (whole : IsWhole ds) : ds ≠ [] := by
  rcases whole.first with rfl | ⟨c, cs, rfl, -⟩ <;> exact List.cons_ne_nil _ _

theorem digitText_append (ds ds' : List Nat) : digitText (ds ++ ds') = digitText ds ++ digitText ds' :=
  List.map_append

theorem digitText_replicate (k : Nat) : digitText (List.replicate k 0) = List.replicate k '0' :=
  List.map_replicate

theorem digitText_eq_nil_iff {ds : List Nat} : digitText ds = [] ↔ ds = [] :=
  List.map_eq_nil_iff

theorem small_append {ds ds' : List Nat} (small : ∀ d ∈ ds, d < 10) (small' : ∀ d ∈ ds', d < 10) :
    ∀ d ∈ ds ++ ds', d < 10 := fun d mem => (List.mem_append.mp mem).elim (small d) (small' d)

theorem small_replicate (k : Nat) : ∀ d ∈ List.replicate k 0, d < 10 := fun d mem => by
  rw [List.eq_of_mem_replicate mem]
  decide

/-- The digits of a natural number. -/
theorem exists_natText (n : Nat) : ∃ ds, natText n = digitText ds ∧ IsWhole ds ∧ Text.ofDigits ds = n := by
  unfold natText
  split
  · rename_i zero
    exact ⟨[0], rfl, isWhole_zero, zero.symm⟩
  · rename_i some
    obtain ⟨c, cs, digits, first⟩ := digitsOf_eq_cons (Nat.pos_of_ne_zero some)
    have small : ∀ d ∈ digitsOf n, d < 10 := fun d mem => lt_of_mem_digitsUpTo (List.mem_reverse.mp mem)
    exact ⟨digitsOf n, rfl, ⟨Or.inr ⟨c, cs, digits, first⟩, small⟩, ofDigits_digitsOf n⟩

/-! ### Layouts -/

/-- What the layouts of a double have in common: the digits of a text, and the number they write. -/
def Lays (text : List Char) (n : Nat) (e : Int) : Prop :=
  ∃ (whole frac : List Nat) (scale : Int) (tail : List Char), text = digitText whole ++ tail ∧ IsWhole whole ∧
    TailText frac scale tail ∧
    (Text.ofDigits (whole ++ frac) : ℚ) * 10 ^ (scale - frac.length) = n * 10 ^ e

variable {d : Decimal} {m : Nat} {q : Int}

/-- Scientific layout. -/
theorem lays_scientific (writes : d.Writes m q) :
    Lays (scientific d) (Text.ofDigits d.digits) (d.point - d.digits.length) := by
  obtain ⟨c, cs, digits, some⟩ := writes.first
  have small := writes.small
  unfold scientific
  rw [digits] at small ⊢
  obtain ⟨single, more⟩ := List.forall_mem_cons.mp small
  have lead : IsWhole [c] := isWhole_cons some (by simpa using single)
  cases cs with
  | nil =>
      refine ⟨[c], [], d.point - 1, exponentText (d.point - 1), rfl, lead, .exponent _, ?_⟩
      rw [List.append_nil, List.length_nil, List.length_singleton, Nat.cast_zero, sub_zero]
      rfl
  | cons c' cs =>
      refine ⟨[c], c' :: cs, d.point - 1, '.' :: digitText (c' :: cs) ++ exponentText (d.point - 1), rfl, lead,
        .both (List.cons_ne_nil _ _) more _, ?_⟩
      rw [List.singleton_append, List.length_cons (a := c)]
      congr 2
      push_cast
      ring

/-- The text of digits with a point among them. -/
def pointed (d : Decimal) : List Char :=
  match positional d with
  | (whole, []) => whole ++ ['.', '0']
  | (whole, frac) => whole ++ '.' :: frac

theorem pointed_of_positional {whole frac : List Nat} (some : frac ≠ [])
    (laid : positional d = (digitText whole, digitText frac)) :
    pointed d = digitText whole ++ '.' :: digitText frac := by
  rw [pointed, laid]
  split
  · rename_i nil
    exact absurd (digitText_eq_nil_iff.mp (Prod.mk.inj nil).2) some
  · rename_i same
    obtain ⟨rfl, rfl⟩ := Prod.mk.inj same
    rfl

/-- Positional layout with zeros between the point and the digits. -/
theorem lays_pointed_before (writes : d.Writes m q) (low : d.point ≤ 0) :
    Lays (pointed d) (Text.ofDigits d.digits) (d.point - d.digits.length) := by
  obtain ⟨c, cs, digits, some⟩ := writes.first
  generalize zeros : (-d.point).toNat = k
  have more : List.replicate k 0 ++ d.digits ≠ [] := by
    rw [digits]
    exact List.append_ne_nil_of_right_ne_nil _ (List.cons_ne_nil c cs)
  have laid : positional d = (digitText [0], digitText (List.replicate k 0 ++ d.digits)) := by
    rw [positional, if_pos low, zeros, digitText_append, digitText_replicate]
    rfl
  refine ⟨[0], List.replicate k 0 ++ d.digits, 0, _, pointed_of_positional more laid, isWhole_zero,
    .fraction more (small_append (small_replicate k) writes.small), ?_⟩
  have value : Text.ofDigits ([0] ++ (List.replicate k 0 ++ d.digits)) = Text.ofDigits d.digits := by
    rw [ofDigits_append, ofDigits_append, ofDigits_replicate_zero]
    simp [Text.ofDigits]
  rw [value, List.length_append, List.length_replicate]
  congr 2
  push_cast
  omega

theorem positional_of_pos {n : Nat} (point : d.point = n) (above : 0 < n) :
    positional d =
      (digitText (d.digits.take n ++ List.replicate (n - d.digits.length) 0), digitText (d.digits.drop n)) := by
  have high : ¬ d.point ≤ 0 := by omega
  rw [positional, if_neg high, point, Int.toNat_natCast, digitText_append, digitText_replicate]
  simp only [digitText, List.length_map, List.map_take, List.map_drop]

/-- Positional layout with the point among the digits. -/
theorem lays_pointed_among (writes : d.Writes m q) {n : Nat} (point : d.point = n) (above : 0 < n)
    (inside : n < d.digits.length) : Lays (pointed d) (Text.ofDigits d.digits) (d.point - d.digits.length) := by
  obtain ⟨c, cs, digits, some⟩ := writes.first
  have frac : d.digits.drop n ≠ [] := fun nil => absurd (List.drop_eq_nil_iff.mp nil) (by omega)
  have whole : IsWhole (d.digits.take n) := by
    obtain ⟨n, rfl⟩ : ∃ k, n = k + 1 := ⟨n - 1, by omega⟩
    rw [digits, List.take_succ_cons]
    refine isWhole_cons some fun d' mem => writes.small d' ?_
    rw [digits]
    exact List.take_subset (n + 1) (c :: cs) (by rw [List.take_succ_cons]; exact mem)
  have laid := positional_of_pos point above
  rw [Nat.sub_eq_zero_of_le inside.le, List.replicate_zero, List.append_nil] at laid
  refine ⟨d.digits.take n, d.digits.drop n, 0, _, pointed_of_positional frac laid, whole,
    .fraction frac fun d' mem => writes.small d' (List.drop_subset n _ mem), ?_⟩
  rw [List.take_append_drop, List.length_drop, Nat.cast_sub inside.le, point]
  congr 2
  ring

/-- Positional layout with zeros between the digits and the point. -/
theorem lays_pointed_after (writes : d.Writes m q) {n : Nat} (point : d.point = n) (above : 0 < n)
    (outside : d.digits.length ≤ n) : Lays (pointed d) (Text.ofDigits d.digits) (d.point - d.digits.length) := by
  obtain ⟨c, cs, digits, some⟩ := writes.first
  have laid := positional_of_pos point above
  rw [List.take_of_length_le outside, List.drop_of_length_le outside] at laid
  generalize zeros : n - d.digits.length = k at laid
  have whole : IsWhole (d.digits ++ List.replicate k 0) := by
    have small := small_append writes.small (small_replicate k)
    rw [digits] at small ⊢
    exact isWhole_cons some small
  refine ⟨d.digits ++ List.replicate k 0, [0], 0, ['.', '0'], by rw [pointed, laid]; rfl, whole,
    .fraction (List.cons_ne_nil 0 []) (by decide), ?_⟩
  rw [ofDigits_append, ofDigits_append, ofDigits_replicate_zero, List.length_replicate, List.length_singleton]
  have scale : (n : Int) - d.digits.length = k := by omega
  rw [point, scale, zpow_natCast]
  simp [Text.ofDigits]

/-- Positional layout. -/
theorem lays_pointed (writes : d.Writes m q) :
    Lays (pointed d) (Text.ofDigits d.digits) (d.point - d.digits.length) := by
  rcases le_or_gt d.point 0 with low | high
  · exact lays_pointed_before writes low
  · obtain ⟨n, point⟩ : ∃ n : Nat, d.point = n := ⟨d.point.toNat, by omega⟩
    rcases Nat.lt_or_ge n d.digits.length with inside | outside
    · exact lays_pointed_among writes point (by omega) inside
    · exact lays_pointed_after writes point (by omega) outside

/-- **The text of a finite double** and the double that it writes. -/
theorem exists_display {x : Float} {negative : Bool} (decoded : parts x = .finite negative m q) :
    ∃ (whole frac : List Nat) (scale : Int) (tail : List Char),
      display x = withSign negative (digitText whole ++ tail) ∧ IsWhole whole ∧ TailText frac scale tail ∧
        parts (ofDecimal (Text.ofDigits (whole ++ frac)) (scale - frac.length)) = .finite false m q := by
  have canonical := canonical_of_parts decoded
  rcases Nat.eq_zero_or_pos m with rfl | positive
  · obtain rfl : q = -1074 := canonical.full.resolve_left (by decide)
    refine ⟨[0], [0], 0, ['.', '0'], ?_, isWhole_zero, .fraction (List.cons_ne_nil 0 []) (by decide),
      by decide +kernel⟩
    rw [display, layout, decoded]
    rfl
  · have writes := shortest_writes canonical positive
    have lays : Lays (if -4 < (shortest m q).point ∧ (shortest m q).point ≤ 16 then pointed (shortest m q)
        else scientific (shortest m q)) (Text.ofDigits (shortest m q).digits)
          ((shortest m q).point - (shortest m q).digits.length) := by
      split
      · exact lays_pointed writes
      · exact lays_scientific writes
    obtain ⟨whole, frac, scale, tail, text, isWhole, tailText, value⟩ := lays
    refine ⟨whole, frac, scale, tail, ?_, isWhole, tailText, parts_ofDecimal canonical positive ?_⟩
    · rw [display, layout, decoded, ← text]
      exact congrArg (withSign negative) (if_neg positive.ne')
    · rw [value]
      exact writes.near

end EditHistory.Number
