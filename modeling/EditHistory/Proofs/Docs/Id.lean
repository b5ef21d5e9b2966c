import EditHistory.Docs.Id
import EditHistory.Proofs.Text.Blank
import EditHistory.Proofs.Text.Letters

/-!
# Reading a document id

An id is read from a text in one of two ways.  Once the blanks around it are gone, the text is the id itself, or it has
marks in it, and the first mark with an id character behind it is followed by the id, which goes on as long as there are
id characters.  A text for which neither holds names no document, and an id names itself.

## Main definitions

* `IsRun` — a run of id characters, which is what an id is
* `IsFirstMarked` — the place of the first mark with an id behind it
* `Names` — a text without blanks around it names an id

## Main statements

* `findId?_eq_some_iff`, `findId?_eq_none_iff` — the search for a mark
* `readId?_names` — the id that a text names
-/

namespace EditHistory.Docs

open EditHistory.Text

variable {c : Char} {cs text id : List Char}

/-! ### Id characters -/

/-- The characters of ids. -/
def idAlphabet : List Char := "ABCDEFGHIJKLMNOPQRSTUVWXYZabcdefghijklmnopqrstuvwxyz0123456789_-".toList

theorem toNat_lt_of_isIdChar (isId : isIdChar c = true) : c.toNat < 0x80 := by
  simp only [isIdChar, Bool.or_eq_true, beq_iff_eq] at isId
  rcases isId with (alphanum | rfl) | rfl
  · have := Text.toNat_of_isAlphanum alphanum
    omega
  · decide
  · decide

theorem isIdChar_iff : isIdChar c = true ↔ c ∈ idAlphabet := by
  constructor
  · intro isId
    have all : ∀ n < 0x80, isIdChar (Char.ofNat n) = true → Char.ofNat n ∈ idAlphabet := by decide +kernel
    have here := all c.toNat (toNat_lt_of_isIdChar isId)
    rw [Char.ofNat_toNat] at here
    exact here isId
  · exact List.all_eq_true.mp (by decide) c

theorem isBlank_of_isIdChar (isId : isIdChar c = true) : isBlank c = false := by
  simp only [isIdChar, Bool.or_eq_true, beq_iff_eq] at isId
  rcases isId with (alphanum | rfl) | rfl
  · exact isBlank_of_isAlphanum alphanum
  · rfl
  · rfl

/-- A run of id characters that is not empty. -/
structure IsRun (id : List Char) : Prop where
  some : id ≠ []
  chars : ∀ c ∈ id, c ∈ idAlphabet

theorem IsRun.all (run : IsRun id) : id.all isIdChar = true :=
  List.all_eq_true.mpr fun c mem => isIdChar_iff.mpr (run.chars c mem)

theorem isRun_iff : IsRun id ↔ id ≠ [] ∧ id.all isIdChar = true :=
  ⟨fun run => ⟨run.some, run.all⟩,
    fun run => ⟨run.1, fun c mem => isIdChar_iff.mp (List.all_eq_true.mp run.2 c mem)⟩⟩

/-! ### The first mark with an id behind it -/

/-- An id character at the front of a text. -/
def StartsId (cs : List Char) : Prop := ∃ c ∈ cs.head?, c ∈ idAlphabet

/-- The first mark of a text that is followed by an id character stands behind `before`, the longest run of id
characters after the mark is `id`, and `after` is the rest. -/
structure IsFirstMarked (cs before id after : List Char) : Prop where
  split : cs = before ++ (idMark ++ (id ++ after))
  run : IsRun id
  longest : ¬StartsId after
  first : ∀ earlier rest, cs = earlier ++ (idMark ++ rest) → StartsId rest → before.length ≤ earlier.length

/-- The longest run at the front of a text that starts with an id character. -/
theorem takeWhile_eq_iff {rest : List Char} (starts : StartsId rest) :
    rest.takeWhile isIdChar = id ↔ IsRun id ∧ ∃ after, rest = id ++ after ∧ ¬StartsId after := by
  constructor
  · rintro rfl
    obtain ⟨c, first, letter⟩ := starts
    obtain ⟨tail, rfl⟩ := List.head?_eq_some_iff.mp first
    refine ⟨isRun_iff.mpr ⟨?_, List.all_takeWhile⟩, (c :: tail).dropWhile isIdChar,
      List.takeWhile_append_dropWhile.symm, ?_⟩
    · rw [List.takeWhile_cons_of_pos (isIdChar_iff.mpr letter)]
      exact List.cons_ne_nil _ _
    · rintro ⟨d, next, letter'⟩
      have stops := List.head?_dropWhile_not isIdChar (c :: tail)
      rw [Option.mem_def.mp next] at stops
      simp [isIdChar_iff.mpr letter'] at stops
  · rintro ⟨run, after, rfl, stops⟩
    rw [List.takeWhile_append_of_pos fun c mem => isIdChar_iff.mpr (run.chars c mem)]
    cases after with
    | nil => exact List.append_nil id
    | cons d after =>
        have other : isIdChar d ≠ true := fun isId => stops ⟨d, rfl, isIdChar_iff.mp isId⟩
        rw [List.takeWhile_cons_of_neg other, List.append_nil]

/-- Where a mark with an id behind it stands at the front, it is the one that is found. -/
theorem findId?_mark {rest : List Char} (starts : StartsId rest) :
    findId? (idMark ++ rest) = some (rest.takeWhile isIdChar) := by
  obtain ⟨d, first, letter⟩ := starts
  obtain ⟨tail, rfl⟩ := List.head?_eq_some_iff.mp first
  have dropped : dropMark? idMark (idMark ++ d :: tail) = some (d :: tail) := dropMark?_eq_some_iff.mpr rfl
  have front : idMark ++ d :: tail = '/' :: ("document/d/".toList ++ d :: tail) := rfl
  rw [front] at dropped ⊢
  rw [findId?, dropped]
  exact if_pos (isIdChar_iff.mpr letter)

/-- Where none does, the search goes on behind the first character. -/
theorem findId?_cons (nothing : ∀ rest, c :: cs = idMark ++ rest → ¬StartsId rest) :
    findId? (c :: cs) = findId? cs := by
  rw [findId?]
  split
  · rename_i d rest dropped
    refine if_neg fun isId => ?_
    exact nothing _ (dropMark?_eq_some_iff.mp dropped) ⟨d, rfl, isIdChar_iff.mp isId⟩
  · rfl

theorem findId?_of_isFirstMarked {before after : List Char} (marked : IsFirstMarked cs before id after) :
    findId? cs = some id := by
  induction before generalizing cs with
  | nil =>
      have starts : StartsId (id ++ after) := by
        obtain ⟨c, id', rfl⟩ := List.exists_cons_of_ne_nil marked.run.some
        exact ⟨c, rfl, marked.run.chars c List.mem_cons_self⟩
      rw [marked.split, List.nil_append, findId?_mark starts]
      exact congrArg some ((takeWhile_eq_iff starts).mpr ⟨marked.run, after, rfl, marked.longest⟩)
  | cons c before ih =>
      have split := marked.split
      rw [List.cons_append] at split
      subst split
      -- an earlier mark with an id behind it would be the first one
      rw [findId?_cons fun rest here starts =>
        absurd (marked.first [] rest here starts) (Nat.not_succ_le_zero _)]
      refine ih ⟨rfl, marked.run, marked.longest, fun earlier rest here starts => ?_⟩
      exact Nat.le_of_succ_le_succ (marked.first (c :: earlier) rest (congrArg (c :: ·) here) starts)

theorem exists_isFirstMarked (found : findId? cs = some id) : ∃ before after, IsFirstMarked cs before id after := by
  induction cs with
  | nil => cases found
  | cons c cs ih =>
      by_cases here : ∃ rest, c :: cs = idMark ++ rest ∧ StartsId rest
      · obtain ⟨rest, split, starts⟩ := here
        rw [split, findId?_mark starts] at found
        obtain ⟨run, after, whole, longest⟩ := (takeWhile_eq_iff starts).mp (Option.some.inj found)
        refine ⟨[], after, ?_, run, longest, fun _ _ _ _ => Nat.zero_le _⟩
        rw [split, whole, List.nil_append]
      · have nothing : ∀ rest, c :: cs = idMark ++ rest → ¬StartsId rest := fun rest split starts =>
          here ⟨rest, split, starts⟩
        rw [findId?_cons nothing] at found
        obtain ⟨before, after, marked⟩ := ih found
        refine ⟨c :: before, after, congrArg (c :: ·) marked.split, marked.run, marked.longest, ?_⟩
        intro earlier rest split starts
        cases earlier with
        | nil => exact absurd starts (nothing rest split)
        | cons d earlier =>
            exact Nat.succ_le_succ (marked.first earlier rest (List.cons.inj split).2 starts)

/-- **The search finds the id behind the first mark that is followed by one.** -/
theorem findId?_eq_some_iff : findId? cs = some id ↔ ∃ before after, IsFirstMarked cs before id after :=
  ⟨exists_isFirstMarked, fun ⟨_, _, marked⟩ => findId?_of_isFirstMarked marked⟩

/-- **The search fails just if no mark is followed by an id character.** -/
theorem findId?_eq_none_iff : findId? cs = none ↔ ∀ before rest, cs = before ++ (idMark ++ rest) → ¬StartsId rest := by
  induction cs with
  | nil =>
      refine iff_of_true rfl fun before rest split => ?_
      cases before <;> cases split
  | cons c cs ih =>
      by_cases here : ∃ rest, c :: cs = idMark ++ rest ∧ StartsId rest
      · obtain ⟨rest, split, starts⟩ := here
        rw [split, findId?_mark starts]
        exact iff_of_false nofun fun none => none [] rest rfl starts
      · have nothing : ∀ rest, c :: cs = idMark ++ rest → ¬StartsId rest := fun rest split starts =>
          here ⟨rest, split, starts⟩
        rw [findId?_cons nothing, ih]
        constructor
        · intro none before rest split
          cases before with
          | nil => exact nothing rest split
          | cons d before => exact none before rest (List.cons.inj split).2
        · exact fun none before rest split => none (c :: before) rest (congrArg (c :: ·) split)

/-! ### The id that a text names -/

/-- A text without blanks around it names an id: it is the id, or it is none and has the id behind the first mark that
is followed by one. -/
inductive Names (core : List Char) : List Char → Prop where
  | whole (run : IsRun core) : Names core core
  | marked {before id after : List Char} (other : ¬IsRun core) (marked : IsFirstMarked core before id after) :
    Names core id

theorem Names.isRun {core : List Char} (names : Names core id) : IsRun id := by
  cases names with
  | whole run => exact run
  | marked _ marked => exact marked.run

theorem readId?_of_isRun (run : IsRun (trim text)) : readId? text = some (trim text) :=
  if_pos (isRun_iff.mp run)

theorem readId?_of_not_isRun (other : ¬IsRun (trim text)) : readId? text = findId? (trim text) :=
  if_neg fun both => other (isRun_iff.mpr both)

theorem readId?_eq_some_iff : readId? text = some id ↔ Names (trim text) id := by
  by_cases run : IsRun (trim text)
  · rw [readId?_of_isRun run, Option.some.injEq]
    constructor
    · rintro rfl
      exact .whole run
    · intro names
      cases names with
      | whole _ => rfl
      | marked other _ => exact absurd run other
  · rw [readId?_of_not_isRun run, findId?_eq_some_iff]
    constructor
    · rintro ⟨before, after, marked⟩
      exact .marked run marked
    · intro names
      cases names with
      | whole run' => exact absurd run' run
      | marked _ marked => exact ⟨_, _, marked⟩

theorem readId?_eq_none_iff : readId? text = none ↔
    ¬IsRun (trim text) ∧ ∀ before rest, trim text = before ++ (idMark ++ rest) → ¬StartsId rest := by
  by_cases run : IsRun (trim text)
  · rw [readId?_of_isRun run]
    exact iff_of_false nofun fun none => none.1 run
  · rw [readId?_of_not_isRun run, findId?_eq_none_iff]
    exact ⟨fun none => ⟨run, none⟩, And.right⟩

/-- No blanks are around a run of id characters. -/
theorem IsRun.trims (run : IsRun id) : Trims id id where
  within := ⟨[], [], by simp, by simp, by simp⟩
  starts c first := isBlank_of_isIdChar (isIdChar_iff.mpr (run.chars c (List.mem_of_mem_head? first)))
  ends c last := isBlank_of_isIdChar (isIdChar_iff.mpr (run.chars c (List.mem_of_mem_getLast? last)))

/-- An id names itself. -/
theorem readId?_self (run : IsRun id) : readId? id = some id := by
  have trimmed : trim id = id := (trims_iff.mp run.trims).symm
  have self : readId? id = some (trim id) := readId?_of_isRun (trimmed.symm ▸ run)
  rwa [trimmed] at self

/-- **The id that a text names.**  Without the blanks around it the text is a run of id characters, which is the id, or
else the id is the longest such run behind the first mark that is followed by one; there is no id just if neither is the
case.  So an id is a run of id characters, and names itself. -/
theorem readId?_names (text : List Char) : ∃ core, Trims text core ∧
    (∀ id, readId? text = some id ↔ Names core id) ∧
    (readId? text = none ↔
      ¬IsRun core ∧ ∀ before rest, core = before ++ (idMark ++ rest) → ¬StartsId rest) ∧
    ∀ id, readId? text = some id → IsRun id ∧ readId? id = some id := by
  refine ⟨trim text, trims_trim text, fun id => readId?_eq_some_iff, readId?_eq_none_iff, fun id read => ?_⟩
  have run := (readId?_eq_some_iff.mp read).isRun
  exact ⟨run, readId?_self run⟩

example : readId? " /document/d//document/d/x-1?/document/d/y\u2003\n".toList = some "x-1".toList := by decide

end EditHistory.Docs
