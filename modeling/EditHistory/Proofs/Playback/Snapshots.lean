import EditHistory.Playback.Engine
import EditHistory.Proofs.Replay
import EditHistory.Proofs.Steps

/-!
# Snapshots are replays

An engine that keeps snapshots replays from the nearest one before its target and adds a snapshot after every revision
on the way.  The invariant is that every snapshot is the text at its index.  With it a replay from a snapshot gives
what the replay from the start gives, failures included: the text up to the snapshot exists, so the first revision
that fails lies behind it.

## Main definitions

* `Snapshot.IsTrue`, `Engine.IsTruthful` — snapshots that are the texts at their indices

## Main statements

* `Engine.outcome_rebuildAt`, `Engine.state_rebuildAt` — what a replay to an index gives, without mention of snapshots
* `Engine.truthful_rebuildAt` — a replay keeps the snapshots true, even one that fails half-way
-/

namespace EditHistory.Playback

/-- The snapshot is the text at its index. -/
def Snapshot.IsTrue (revisions : List Revision) (s : Snapshot) : Prop :=
  textAfter revisions (s.index + 1) = .ok s.text

/-! ### The nearest snapshot -/

/-- One step of the search never leaves the snapshots seen so far, nor goes beyond the index. -/
theorem laterSnapshot_spec {upto : Nat} {best : Option Snapshot} {s found : Snapshot}
    (later : laterSnapshot upto best s = some found) :
    best = some found ∨ found = s ∧ s.index ≤ upto := by
  unfold laterSnapshot at later
  split at later
  · exact Or.inl later
  · rename_i notBeyond
    have within : s.index ≤ upto := Nat.le_of_not_lt notBeyond
    cases best with
    | none => exact Or.inr ⟨(Option.some.inj later).symm, within⟩
    | some b =>
        simp only at later
        split at later
        · exact Or.inr ⟨(Option.some.inj later).symm, within⟩
        · exact Or.inl later

theorem foldl_laterSnapshot_spec {upto : Nat} {snapshots : List Snapshot} {best : Option Snapshot}
    {found : Snapshot} (search : snapshots.foldl (laterSnapshot upto) best = some found) :
    best = some found ∨ found ∈ snapshots ∧ found.index ≤ upto := by
  induction snapshots generalizing best with
  | nil => exact Or.inl search
  | cons s rest ih =>
      rcases ih search with first | ⟨mem, within⟩
      · rcases laterSnapshot_spec first with earlier | ⟨rfl, within⟩
        · exact Or.inl earlier
        · exact Or.inr ⟨List.mem_cons_self, within⟩
      · exact Or.inr ⟨List.mem_cons_of_mem s mem, within⟩

theorem nearestSnapshot?_spec {snapshots : List Snapshot} {upto : Nat} {s : Snapshot}
    (nearest : nearestSnapshot? snapshots upto = some s) : s ∈ snapshots ∧ s.index ≤ upto := by
  rcases foldl_laterSnapshot_spec nearest with absurdity | found
  · cases absurdity
  · exact found

/-! ### A replay that keeps snapshots -/

/-- The snapshots with the text after a revision added, if it is to be kept. -/
def keepText (keep : Bool) (place : Nat) (doc : Document) (snapshots : List Snapshot) : List Snapshot :=
  if keep then ⟨place, doc⟩ :: snapshots else snapshots

theorem replayKeeping_cons_of_error {keep : Bool} {place : Nat} {doc : Document} {r : Revision}
    {rs : List Revision} {snapshots : List Snapshot} {fault : NotACommand}
    (failed : (doc.applyAll r.commands).outcome = .error fault) :
    (replayKeeping keep place doc (r :: rs) snapshots).outcome = .error fault ∧
      (replayKeeping keep place doc (r :: rs) snapshots).state = snapshots := by
  rw [replayKeeping, Action.bind_apply, Step.andThen_of_error (e := fault)]
  · exact ⟨rfl, rfl⟩
  · exact failed

theorem replayKeeping_cons_of_ok {keep : Bool} {place : Nat} {doc next : Document} {r : Revision}
    {rs : List Revision} {snapshots : List Snapshot}
    (applied : (doc.applyAll r.commands).outcome = .ok next) :
    (replayKeeping keep place doc (r :: rs) snapshots).outcome =
        (replayKeeping keep (place + 1) next rs (keepText keep place next snapshots)).outcome ∧
      (replayKeeping keep place doc (r :: rs) snapshots).state =
        (replayKeeping keep (place + 1) next rs (keepText keep place next snapshots)).state := by
  rw [replayKeeping, Action.bind_apply, Step.andThen_of_ok (a := next)]
  · exact ⟨rfl, rfl⟩
  · exact applied

/-- Keeping snapshots on the way does not change what a replay gives. -/
theorem outcome_replayKeeping (keep : Bool) (place : Nat) (doc : Document) (rs : List Revision)
    (snapshots : List Snapshot) :
    (replayKeeping keep place doc rs snapshots).outcome = (doc.applyRevisions rs).outcome := by
  induction rs generalizing place doc snapshots with
  | nil => rfl
  | cons r rs ih =>
      rw [Document.applyRevisions, Noted.outcome_bind]
      cases applied : (doc.applyAll r.commands).outcome with
      | error fault => exact (replayKeeping_cons_of_error applied).1
      | ok next =>
          rw [(replayKeeping_cons_of_ok applied).1, ih]
          rfl

/-- Nothing is kept unless it is asked for. -/
theorem state_replayKeeping_false (place : Nat) (doc : Document) (rs : List Revision)
    (snapshots : List Snapshot) : (replayKeeping false place doc rs snapshots).state = snapshots := by
  induction rs generalizing place doc with
  | nil => rfl
  | cons r rs ih =>
      cases applied : (doc.applyAll r.commands).outcome with
      | error fault => exact (replayKeeping_cons_of_error applied).2
      | ok next =>
          rw [(replayKeeping_cons_of_ok applied).2]
          exact ih (place + 1) next

/-- **A replay adds true snapshots only.**  The replay stands at `place` with the right text and goes through the
revisions there; the snapshots that it leaves behind are true also if a later revision fails. -/
theorem isTrue_replayKeeping {revisions : List Revision} {keep : Bool} {place : Nat} {doc : Document}
    {rs : List Revision} {snapshots : List Snapshot}
    (right : textAfter revisions place = .ok doc) (ahead : rs <+: revisions.drop place)
    (earlier : ∀ s ∈ snapshots, s.IsTrue revisions) :
    ∀ s ∈ (replayKeeping keep place doc rs snapshots).state, s.IsTrue revisions := by
  induction rs generalizing place doc snapshots with
  | nil => exact earlier
  | cons r rs ih =>
      obtain ⟨rest, split⟩ := ahead
      cases applied : (doc.applyAll r.commands).outcome with
      | error fault =>
          rw [(replayKeeping_cons_of_error applied).2]
          exact earlier
      | ok next =>
          -- The text reached is the one that is added, so the invariant moves on with it.
          have reached : textAfter revisions (place + 1) = .ok next := by
            rw [textAfter_succ split.symm, right]
            exact applied
          have ahead : rs <+: revisions.drop (place + 1) := by
            rw [← List.drop_drop, ← split]
            exact ⟨rest, rfl⟩
          rw [(replayKeeping_cons_of_ok applied).2]
          refine ih reached ahead ?_
          intro s mem
          unfold keepText at mem
          split at mem
          · rcases List.mem_cons.mp mem with rfl | old
            · exact reached
            · exact earlier s old
          · exact earlier s mem

namespace Engine

/-- Every snapshot of the engine is the text at its index. -/
def IsTruthful (e : Engine) : Prop := ∀ s ∈ e.snapshots, s.IsTrue e.revisions

/-- A replay to an index starts from the right text, at a place that it does not skip. -/
theorem replayStart_spec {e : Engine} (truthful : e.IsTruthful) (index : Nat) :
    (e.replayStart index).1 ≤ index + 1 ∧
      textAfter e.revisions (e.replayStart index).1 = .ok (e.replayStart index).2 := by
  unfold replayStart
  split
  · cases nearest : nearestSnapshot? e.snapshots index with
    | none => exact ⟨Nat.zero_le _, rfl⟩
    | some s =>
        obtain ⟨mem, within⟩ := nearestSnapshot?_spec nearest
        exact ⟨Nat.succ_le_succ within, truthful s mem⟩
  · exact ⟨Nat.zero_le _, rfl⟩

/-- The replay to an index gives what the replay from the start gives. -/
theorem outcome_replayTo {e : Engine} (truthful : e.IsTruthful) (index : Nat) :
    (e.replayTo index).outcome = textAfter e.revisions (index + 1) := by
  obtain ⟨le, right⟩ := replayStart_spec truthful index
  rw [replayTo, outcome_replayKeeping, textAfter_split e.revisions le, right]
  rfl

/-- The snapshots after the replay to an index are true, also if it fails half-way. -/
theorem isTrue_replayTo {e : Engine} (truthful : e.IsTruthful) (index : Nat) :
    ∀ s ∈ (e.replayTo index).state, s.IsTrue e.revisions := by
  obtain ⟨-, right⟩ := replayStart_spec truthful index
  have ahead : (e.revisions.take (index + 1)).drop (e.replayStart index).1 <+:
      e.revisions.drop (e.replayStart index).1 := by
    rw [List.drop_take]
    exact List.take_prefix _ _
  exact isTrue_replayKeeping right ahead truthful

/-- A replay to an index gives the text there, or the failure met on the way to it. -/
theorem outcome_rebuildAt {e : Engine} (truthful : e.IsTruthful) (index : Nat) :
    (rebuildAt index e).outcome =
      ((textAfter e.revisions (index + 1)).mapError Fault.notACommand).map fun _ => () := by
  unfold rebuildAt settle
  rw [outcome_replayTo truthful]
  cases textAfter e.revisions (index + 1) <;> rfl

/-- A replay to an index changes the text and the snapshots only, and the text only if it succeeds. -/
theorem state_rebuildAt {e : Engine} (truthful : e.IsTruthful) (index : Nat) :
    (rebuildAt index e).state =
      { e with
        content := (textAfter e.revisions (index + 1)).toOption.getD e.content
        snapshots := (e.replayTo index).state } := by
  unfold rebuildAt settle
  rw [outcome_replayTo truthful]
  cases textAfter e.revisions (index + 1) <;> rfl

theorem truthful_rebuildAt {e : Engine} (truthful : e.IsTruthful) (index : Nat) :
    (rebuildAt index e).state.IsTruthful := by
  rw [state_rebuildAt truthful]
  exact isTrue_replayTo truthful index

/-- An engine that keeps no snapshots does not begin to. -/
theorem state_replayTo_of_not_keeps {e : Engine} (keeps : e.keepsSnapshots = false) (index : Nat) :
    (e.replayTo index).state = e.snapshots := by
  rw [replayTo, keeps]
  exact state_replayKeeping_false _ _ _ _

end Engine

end EditHistory.Playback
