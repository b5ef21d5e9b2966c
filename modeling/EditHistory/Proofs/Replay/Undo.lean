import EditHistory.Proofs.Replay.Edits

/-!
# Undoing edits

What a command has done to a text can be taken back exactly, by commands like any others.  An insertion is undone by
deleting what it has inserted, a deletion by inserting what it has removed; where either of them stands depends on the
text that the command was applied to, because positions are clamped into that.  Several commands are undone from the
last one to the first, group or no group.

A command that undoes lies inside the text that it is applied to, so nothing is clamped on the way back.

## Main definitions

* `Command.undo` — what undoes an ungrouped command
* `Command.undoAll` — what undoes several of them, the last one first

## Main statements

* `Document.deleteRange_insertAt`, `Document.insertAt_deleteRange` — the two kinds of edits undo one another
* `Document.applyAll_undo_leaf` — a single command undone
* `Document.applyAll_undoAll` — any commands undone
-/

namespace EditHistory

theorem Noted.bind_assoc {ε α β γ : Type} (x : Noted ε α) (f : α → Noted ε β) (g : β → Noted ε γ) :
    x >>= f >>= g = x >>= fun a => f a >>= g := by
  obtain ⟨log, _ | a⟩ := x
  · rfl
  · show Noted.bind (Noted.bind _ f) g = Noted.bind _ fun a => Noted.bind (f a) g
    unfold Noted.bind
    simp only
    cases (f a).outcome with
    | error e => rfl
    | ok b => simp only [List.append_assoc]

/-! ### Positions inside a text -/

theorem clamp_le (position : Int) (length : Nat) : clamp position length ≤ length :=
  Nat.min_le_right _ _

theorem clamp_of_le {place length : Nat} (inside : place ≤ length) : clamp place length = place := by
  rw [clamp, Int.toNat_natCast, Nat.min_eq_left inside]

theorem clampLog_of_le {place length : Nat} (inside : place ≤ length) (c : Command) : clampLog place length c = [] :=
  if_pos ⟨Int.natCast_nonneg place, Int.ofNat_le.mpr inside⟩

namespace Document

theorem apply_insert_inside {doc : Document} {place : Nat} (inside : place ≤ doc.length) (text : List Char)
    (timestamp : Int) : doc.apply (.insert place text timestamp) = ⟨[], .ok (doc.insertAt place text)⟩ := by
  rw [apply, clampLog_of_le inside, clamp_of_le inside]

theorem apply_delete_inside {doc : Document} {start stop : Nat} (ordered : start ≤ stop) (inside : stop ≤ doc.length)
    (timestamp : Int) : doc.apply (.delete start stop timestamp) = ⟨[], .ok (doc.deleteRange start stop)⟩ := by
  have first : start ≤ doc.length := Nat.le_trans ordered inside
  rw [apply, clampLog_of_le first, clampLog_of_le inside, clamp_of_le first, clamp_of_le inside]
  rfl

/-! ### The two kinds of edits -/

theorem length_insertAt {doc : Document} {place : Nat} (inside : place ≤ doc.length) (text : List Char) :
    (doc.insertAt place text).length = doc.length + text.length := by
  rw [insertAt, List.length_append, List.length_append, List.length_take_of_le inside, List.length_drop]
  omega

theorem length_deleteRange {doc : Document} {start stop : Nat} (ordered : start ≤ stop) (inside : stop ≤ doc.length) :
    (doc.deleteRange start stop).length = doc.length - (stop - start) := by
  unfold deleteRange
  split
  · omega
  · rw [List.length_append, List.length_take_of_le (Nat.le_trans ordered inside), List.length_drop]
    omega

/-- **Deleting what was inserted.** -/
theorem deleteRange_insertAt {doc : Document} {place : Nat} (inside : place ≤ doc.length) (text : List Char) :
    (doc.insertAt place text).deleteRange place (place + text.length) = doc := by
  have before : (doc.take place).length = place := List.length_take_of_le inside
  have head : (doc.insertAt place text).take place = doc.take place := by
    rw [insertAt, List.append_assoc, List.take_left' before]
  have tail : (doc.insertAt place text).drop (place + text.length) = doc.drop place := by
    refine List.drop_left' ?_
    rw [List.length_append, before]
  unfold deleteRange
  split
  · rename_i empty
    have nothing : text = [] := List.length_eq_zero_iff.mp (by omega)
    rw [nothing, insertAt, List.append_nil, List.take_append_drop]
  · rw [head, tail, List.take_append_drop]

/-- **Inserting what was deleted.** -/
theorem insertAt_deleteRange {doc : Document} {start stop : Nat} (ordered : start < stop) (inside : stop ≤ doc.length) :
    (doc.deleteRange start stop).insertAt start ((doc.take stop).drop start) = doc := by
  have before : (doc.take start).length = start := List.length_take_of_le (by omega)
  have rejoined : doc.take start ++ (doc.take stop).drop start = doc.take stop := by
    have shorter : doc.take start = (doc.take stop).take start := by
      rw [List.take_take, Nat.min_eq_left (Nat.le_of_lt ordered)]
    rw [shorter, List.take_append_drop]
  rw [deleteRange, if_neg (Nat.not_le.mpr ordered), insertAt, List.take_left' before, List.drop_left' before, rejoined,
    List.take_append_drop]

end Document

/-! ### Undoing -/

namespace Command

/-- What undoes an ungrouped command that is applied to a text.  Styles need no undoing, nor does a deletion of
nothing. -/
def undo (doc : Document) : Command → List Command
  | .insert position text timestamp =>
    [.delete (clamp position doc.length) (clamp position doc.length + text.length) timestamp]
  | .delete start stop timestamp =>
    if clamp start doc.length < clamp stop doc.length then
      [.insert (clamp start doc.length) ((doc.take (clamp stop doc.length)).drop (clamp start doc.length)) timestamp]
    else []
  | .style .. | .group .. | .foreign _ => []

/-- What undoes ungrouped commands that are applied to a text in order: the last one is undone first, and each for the
text to which it was applied. -/
def undoAll (doc : Document) : List Command → List Command
  | [] => []
  | c :: cs =>
    match (doc.apply c).outcome with
    | .ok d => undoAll d cs ++ c.undo doc
    | .error _ => []

theorem undoAll_append {doc d : Document} {cs : List Command} (applied : (doc.applyAll cs).outcome = .ok d)
    (ds : List Command) : undoAll doc (cs ++ ds) = undoAll d ds ++ undoAll doc cs := by
  induction cs generalizing doc with
  | nil =>
      cases applied
      rw [List.nil_append, undoAll, List.append_nil]
  | cons c cs ih =>
      rw [Document.applyAll, Noted.outcome_bind] at applied
      rw [List.cons_append, undoAll, undoAll]
      cases first : (doc.apply c).outcome with
      | error e =>
          rw [first] at applied
          cases applied
      | ok d' =>
          rw [first] at applied
          simp only
          rw [ih applied, List.append_assoc]

mutual

/-- A leaf is a command by itself. -/
theorem leaves_of_mem_leaves {l : Command} : (c : Command) → l ∈ c.leaves → l.leaves = [l]
  | .insert .., mem => by
      rw [List.mem_singleton.mp mem]
      rfl
  | .delete .., mem => by
      rw [List.mem_singleton.mp mem]
      rfl
  | .style .., mem => by
      rw [List.mem_singleton.mp mem]
      rfl
  | .group parts _, mem => leaves_of_mem_leavesOfAll parts mem
  | .foreign _, mem => by
      rw [List.mem_singleton.mp mem]
      rfl

theorem leaves_of_mem_leavesOfAll {l : Command} : (cs : List Command) → l ∈ leavesOfAll cs → l.leaves = [l]
  | [], mem => by cases mem
  | c :: cs, mem =>
      (List.mem_append.mp mem).elim (leaves_of_mem_leaves c) (leaves_of_mem_leavesOfAll cs)

end

/-- Leaves taken apart again stay as they are. -/
theorem leavesOfAll_of_single {ls : List Command} (single : ∀ l ∈ ls, l.leaves = [l]) : leavesOfAll ls = ls := by
  induction ls with
  | nil => rfl
  | cons l ls ih =>
      rw [leavesOfAll, single l List.mem_cons_self, ih fun l' mem => single l' (List.mem_cons_of_mem l mem)]
      rfl

theorem leavesOfAll_leavesOfAll (cs : List Command) : leavesOfAll (leavesOfAll cs) = leavesOfAll cs :=
  leavesOfAll_of_single fun _ mem => leaves_of_mem_leavesOfAll cs mem

theorem isReal_of_mem_leavesOfAll {cs : List Command} (real : ∀ c ∈ cs, c.IsReal) {l : Command}
    (mem : l ∈ leavesOfAll cs) : l.IsReal := by
  obtain ⟨c, among, leaf⟩ := mem_leavesOfAll.mp mem
  intro inner its
  rw [leaves_of_mem_leaves c leaf, List.mem_singleton] at its
  rw [its]
  exact real c among l leaf

end Command

namespace Document

open Command

/-- Commands do what their leaves do. -/
theorem outcome_applyAll_leavesOfAll (doc : Document) (cs : List Command) :
    (doc.applyAll (leavesOfAll cs)).outcome = (doc.applyAll cs).outcome := by
  rw [← outcome_applyAll_edits doc cs, ← outcome_applyAll_edits doc (leavesOfAll cs), edits, edits,
    leavesOfAll_leavesOfAll]

theorem outcome_applyAll_leaves (doc : Document) (c : Command) :
    (doc.applyAll c.leaves).outcome = (doc.apply c).outcome := by
  rw [← leavesOfAll_singleton, outcome_applyAll_leavesOfAll, outcome_applyAll_singleton]

/-- Applying commands one list after the other, with what is recorded on the way. -/
theorem applyAll_append (doc : Document) (cs ds : List Command) :
    doc.applyAll (cs ++ ds) = doc.applyAll cs >>= fun d => d.applyAll ds := by
  induction cs generalizing doc with
  | nil => rfl
  | cons c cs ih =>
      rw [List.cons_append, applyAll, applyAll, Noted.bind_assoc]
      simp only [ih]

theorem applyAll_singleton_of {doc d : Document} {c : Command} (applied : doc.apply c = ⟨[], .ok d⟩) :
    doc.applyAll [c] = ⟨[], .ok d⟩ := by
  rw [applyAll, applied]
  rfl

/-- What was inserted is deleted, wherever the position was clamped to. -/
theorem applyAll_undo_insert (doc : Document) (position : Int) (text : List Char) (timestamp : Int) :
    (doc.insertAt (clamp position doc.length) text).applyAll (undo doc (.insert position text timestamp)) =
      ⟨[], .ok doc⟩ := by
  have inside := clamp_le position doc.length
  have fits : clamp position doc.length + text.length ≤ (doc.insertAt (clamp position doc.length) text).length := by
    rw [length_insertAt inside]
    omega
  refine applyAll_singleton_of ?_
  rw [← Int.natCast_add, apply_delete_inside (Nat.le_add_right _ _) fits, deleteRange_insertAt inside]

/-- What was deleted is inserted; a range that was empty after clamping has left the text as it was. -/
theorem applyAll_undo_delete (doc : Document) (start stop timestamp : Int) :
    (doc.deleteRange (clamp start doc.length) (clamp stop doc.length)).applyAll
      (undo doc (.delete start stop timestamp)) = ⟨[], .ok doc⟩ := by
  have inside := clamp_le stop doc.length
  rw [undo]
  split
  · rename_i ordered
    have fits : clamp start doc.length ≤
        (doc.deleteRange (clamp start doc.length) (clamp stop doc.length)).length := by
      rw [length_deleteRange (Nat.le_of_lt ordered) inside]
      omega
    refine applyAll_singleton_of ?_
    rw [apply_insert_inside fits, insertAt_deleteRange ordered inside]
  · rename_i empty
    rw [deleteRange, if_pos (Nat.not_lt.mp empty)]
    rfl

mutual

/-- A command without foreign entries is undone through its leaves. -/
theorem exists_undone (doc : Document) : (c : Command) → c.IsReal →
    ∃ d, (doc.apply c).outcome = .ok d ∧ d.applyAll (undoAll doc c.leaves) = ⟨[], .ok doc⟩
  | .insert position text timestamp, _ => ⟨_, rfl, applyAll_undo_insert doc position text timestamp⟩
  | .delete start stop timestamp, _ => ⟨_, rfl, applyAll_undo_delete doc start stop timestamp⟩
  | .style .., _ => ⟨doc, rfl, rfl⟩
  | .group parts _, real => by
      rw [apply, leaves]
      exact exists_undoneAll doc parts (isReal_group.mp real)
  | .foreign v, real => absurd real (not_isReal_foreign v)

/-- Commands without foreign entries are undone through their leaves: first those of the last command, which leads back
to the text that the commands before it have made. -/
theorem exists_undoneAll (doc : Document) : (cs : List Command) → (∀ c ∈ cs, c.IsReal) →
    ∃ d, (doc.applyAll cs).outcome = .ok d ∧ d.applyAll (undoAll doc (leavesOfAll cs)) = ⟨[], .ok doc⟩
  | [], _ => ⟨doc, rfl, rfl⟩
  | c :: cs, real => by
      obtain ⟨d, applied, undone⟩ := exists_undone doc c (real c List.mem_cons_self)
      obtain ⟨last, others, back⟩ := exists_undoneAll d cs fun c' mem => real c' (List.mem_cons_of_mem c mem)
      refine ⟨last, ?_, ?_⟩
      · rw [applyAll, Noted.outcome_bind, applied]
        exact others
      · have whole : (doc.applyAll c.leaves).outcome = .ok d := (outcome_applyAll_leaves doc c).trans applied
        rw [leavesOfAll, undoAll_append whole, applyAll_append, back]
        exact undone

end

/-- Leaves are undone among themselves. -/
theorem exists_undone_leaves (doc : Document) {ls : List Command} (single : ∀ l ∈ ls, l.leaves = [l])
    (real : ∀ l ∈ ls, l.IsReal) :
    ∃ d, (doc.applyAll ls).outcome = .ok d ∧ d.applyAll (undoAll doc ls) = ⟨[], .ok doc⟩ := by
  have undone := exists_undoneAll doc ls real
  rw [leavesOfAll_of_single single] at undone
  exact undone

/-- **Edits can be undone exactly.**  From any text, commands without foreign entries, grouped in any way and at any
positions, are undone by what undoes their leaves, applied from the last leaf to the first: this leads back to the text,
and nothing is clamped on the way.  To undo only the last leaves leads back to the text that the others have made. -/
theorem applyAll_undoAll (doc : Document) {commands : List Command} (real : ∀ c ∈ commands, c.IsReal) :
    ∃ changed, (doc.applyAll commands).outcome = .ok changed ∧
      changed.applyAll (undoAll doc (leavesOfAll commands)) = ⟨[], .ok doc⟩ ∧
      ∀ first last, leavesOfAll commands = first ++ last →
        ∃ between, (doc.applyAll first).outcome = .ok between ∧
          changed.applyAll (undoAll between last) = ⟨[], .ok between⟩ := by
  obtain ⟨changed, applied, undone⟩ := exists_undoneAll doc commands real
  refine ⟨changed, applied, undone, fun first last parts => ?_⟩
  have leaf {l : Command} (mem : l ∈ first ++ last) : l.leaves = [l] ∧ l.IsReal := by
    rw [← parts] at mem
    exact ⟨leaves_of_mem_leavesOfAll commands mem, isReal_of_mem_leavesOfAll real mem⟩
  obtain ⟨between, before, -⟩ := doc.exists_undone_leaves
    (fun l mem => (leaf (List.mem_append_left last mem)).1) fun l mem => (leaf (List.mem_append_left last mem)).2
  obtain ⟨reached, after, back⟩ := between.exists_undone_leaves
    (fun l mem => (leaf (List.mem_append_right first mem)).1) fun l mem => (leaf (List.mem_append_right first mem)).2
  -- The last leaves lead to the text that all commands together have made.
  have same : (doc.applyAll commands).outcome = .ok reached := by
    rw [← outcome_applyAll_leavesOfAll, parts, outcome_applyAll_append, before]
    exact after
  obtain rfl : changed = reached := Except.ok.inj (applied.symm.trans same)
  exact ⟨between, before, back⟩

/-- Edits outside the text on both sides, a range that is turned round, and a group inside a group. -/
def wildEdits : List Command :=
  [.insert (-3) ['x', 'y'] 1,
    .group [.delete 1 90 2, .group [.insert 7 ['z'] 3, .style 0 9 [] 3] 3, .delete 5 (-2) 4] 4]

theorem applyAll_undoAll_of_wild :
    (∀ c ∈ wildEdits, c.IsReal) ∧
      ∃ changed, (Document.applyAll ['a', 'b'] wildEdits).outcome = .ok changed ∧
        changed.applyAll (undoAll ['a', 'b'] (leavesOfAll wildEdits)) = ⟨[], .ok ['a', 'b']⟩ ∧
        ∀ first last, leavesOfAll wildEdits = first ++ last →
          ∃ between, (Document.applyAll ['a', 'b'] first).outcome = .ok between ∧
            changed.applyAll (undoAll between last) = ⟨[], .ok between⟩ := by
  have real : ∀ c ∈ wildEdits, c.IsReal := by decide
  exact ⟨real, applyAll_undoAll ['a', 'b'] real⟩

end Document

end EditHistory
