import EditHistory.Document

/-!
# Replay in parts

The text after the first revisions of a history, taken apart at any earlier revision: a replay can go on from the text
that an earlier replay has given, and fails exactly where the uninterrupted one does.  Commands without foreign
entries always apply.

## Main definitions

* `textAfter` — the text after a number of revisions
* `Revision.IsReal` — a revision without foreign entries

## Main statements

* `textAfter_split` — a replay resumed from an earlier text
* `exists_textAfter` — a history without foreign entries has a text after every revision
-/

namespace EditHistory

namespace Document

/-- Applying revisions one list after the other. -/
theorem outcome_applyRevisions_append (doc : Document) (first second : List Revision) :
    (doc.applyRevisions (first ++ second)).outcome =
      (doc.applyRevisions first).outcome.bind fun d => (d.applyRevisions second).outcome := by
  induction first generalizing doc with
  | nil => rfl
  | cons r rs ih =>
      rw [List.cons_append, applyRevisions, applyRevisions, Noted.outcome_bind, Noted.outcome_bind]
      cases (doc.applyAll r.commands).outcome with
      | error e => rfl
      | ok d => exact ih d

/-- The first `n` revisions are the first `m` of them and those from there on. -/
theorem outcome_applyRevisions_take (doc : Document) (revisions : List Revision) {m n : Nat} (le : m ≤ n) :
    (doc.applyRevisions (revisions.take n)).outcome =
      (doc.applyRevisions (revisions.take m)).outcome.bind fun d =>
        (d.applyRevisions ((revisions.take n).drop m)).outcome := by
  have parts := List.take_append_drop m (revisions.take n)
  rw [List.take_take, Nat.min_eq_left le] at parts
  have whole := outcome_applyRevisions_append doc (revisions.take m) ((revisions.take n).drop m)
  rw [parts] at whole
  exact whole

end Document

/-! ### Commands that always apply -/

namespace Command

theorem mem_leavesOfAll {l : Command} {cs : List Command} :
    l ∈ leavesOfAll cs ↔ ∃ c ∈ cs, l ∈ c.leaves := by
  induction cs with
  | nil => simp [leavesOfAll]
  | cons c cs ih => simp [leavesOfAll, ih]

/-- A group has no foreign entry if none of its parts has. -/
theorem isReal_group {parts : List Command} {timestamp : Int} :
    IsReal (.group parts timestamp) ↔ ∀ c ∈ parts, c.IsReal := by
  unfold IsReal
  rw [leaves]
  constructor
  · intro real c mem l leaf
    exact real l (mem_leavesOfAll.mpr ⟨c, mem, leaf⟩)
  · intro real l leaf
    obtain ⟨c, mem, inner⟩ := mem_leavesOfAll.mp leaf
    exact real c mem l inner

instance (c : Command) : Decidable c.IsReal :=
  inferInstanceAs (Decidable (∀ l ∈ c.leaves, l.isForeign = false))

theorem not_isReal_foreign (v : Value) : ¬ IsReal (.foreign v) := by
  intro real
  have := real (.foreign v) (by simp [leaves])
  simp [isForeign] at this

end Command

namespace Document

mutual

/-- A command without foreign entries applies to every document. -/
theorem exists_apply (doc : Document) :
    (c : Command) → c.IsReal → ∃ d, (doc.apply c).outcome = .ok d
  | .insert .., _ => ⟨_, rfl⟩
  | .delete .., _ => ⟨_, rfl⟩
  | .style .., _ => ⟨doc, rfl⟩
  | .group parts _, real => by
      rw [apply]
      exact exists_applyAll doc parts (Command.isReal_group.mp real)
  | .foreign v, real => absurd real (Command.not_isReal_foreign v)

/-- Commands without foreign entries apply to every document. -/
theorem exists_applyAll (doc : Document) :
    (cs : List Command) → (∀ c ∈ cs, c.IsReal) → ∃ d, (doc.applyAll cs).outcome = .ok d
  | [], _ => ⟨doc, rfl⟩
  | c :: cs, real => by
      obtain ⟨d, applied⟩ := exists_apply doc c (real c List.mem_cons_self)
      obtain ⟨last, rest⟩ := exists_applyAll d cs fun c' mem => real c' (List.mem_cons_of_mem c mem)
      refine ⟨last, ?_⟩
      rw [applyAll, Noted.outcome_bind, applied]
      exact rest

end

end Document

/-- A revision without foreign entries. -/
def Revision.IsReal (r : Revision) : Prop := ∀ c ∈ r.commands, c.IsReal

instance (r : Revision) : Decidable r.IsReal :=
  inferInstanceAs (Decidable (∀ c ∈ r.commands, c.IsReal))

theorem Document.exists_applyRevisions (doc : Document) (rs : List Revision)
    (real : ∀ r ∈ rs, r.IsReal) : ∃ d, (doc.applyRevisions rs).outcome = .ok d := by
  induction rs generalizing doc with
  | nil => exact ⟨doc, rfl⟩
  | cons r rs ih =>
      obtain ⟨d, applied⟩ := doc.exists_applyAll r.commands (real r List.mem_cons_self)
      obtain ⟨last, rest⟩ := ih d fun r' mem => real r' (List.mem_cons_of_mem r mem)
      refine ⟨last, ?_⟩
      rw [applyRevisions, Noted.outcome_bind, applied]
      exact rest

/-! ### The text after a number of revisions -/

/-- The text after the first `count` revisions. -/
def textAfter (revisions : List Revision) (count : Nat) : Except NotACommand Document :=
  (Document.applyRevisions [] (revisions.take count)).outcome

theorem outcome_replay (revisions : List Revision) (upto : Int) :
    (replay revisions upto).outcome = textAfter revisions (upto + 1).toNat := rfl

@[simp] theorem textAfter_zero (revisions : List Revision) : textAfter revisions 0 = .ok [] := rfl

/-- **A replay resumed.**  The text after `n` revisions is the text after `m` of them with the revisions from there on
applied; where either part fails, so does the whole, with the same failure. -/
theorem textAfter_split (revisions : List Revision) {m n : Nat} (le : m ≤ n) :
    textAfter revisions n =
      (textAfter revisions m).bind fun doc =>
        (doc.applyRevisions ((revisions.take n).drop m)).outcome :=
  Document.outcome_applyRevisions_take [] revisions le

/-- The text after one revision more. -/
theorem textAfter_succ {revisions rest : List Revision} {r : Revision} {count : Nat}
    (split : revisions.drop count = r :: rest) :
    textAfter revisions (count + 1) =
      (textAfter revisions count).bind fun doc => (doc.applyAll r.commands).outcome := by
  have single : (revisions.take (count + 1)).drop count = [r] := by
    rw [List.drop_take, split, Nat.add_sub_cancel_left]
    rfl
  rw [textAfter_split revisions (Nat.le_succ count), single]
  congr 1
  funext doc
  rw [Document.applyRevisions, Noted.outcome_bind]
  cases (doc.applyAll r.commands).outcome <;> rfl

theorem exists_textAfter {revisions : List Revision} (real : ∀ r ∈ revisions, r.IsReal) (count : Nat) :
    ∃ doc, textAfter revisions count = .ok doc :=
  Document.exists_applyRevisions [] _ fun r mem => real r (List.mem_of_mem_take mem)

end EditHistory
