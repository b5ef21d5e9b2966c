import EditHistory.Proofs.Playback.Frames
import EditHistory.Proofs.Playback.Snapshots

/-!
# The text shown is the replay up to the cursor

Cursor, text and snapshots are changed in different places: by steps, by jumps, which have a way of their own to the
start, by ticks, and by a reset, which keeps the snapshots.  One invariant holds them together: the cursor is an index
of the history or -1, the text is the replay up to it, and every snapshot is a replay.  Each operation keeps it, in
any order, as long as jumps go to integers and the history has no foreign entries.

## Main definitions

* `Engine.IsAccurate` — the invariant
* `Operation.IsIntegral` — an operation that jumps to integers only
* `revisionAt?` — the revision at an index that may be -1

## Main statements

* `Engine.accurate_moveTo` — a move inside the history arrives at the right text
* `Engine.accurate_perform`, `Engine.accurate_run` — the invariant along every run
* `Engine.content_eq_replay` — what an engine shows and what it verifies, after every run
-/

namespace EditHistory.Playback

/-! ### Cursors at an index -/

namespace Cursor

theorem target_of_number {c : Cursor} {n : Int} (at_ : c.number = .int n) :
    c.target = if n < 0 then .start else .revision n.toNat := by
  cases c with
  | whole m =>
      cases at_
      rfl
  | fraction x => cases at_
  | flag b =>
      cases at_
      cases b <;> rfl

theorem number_moved {c : Cursor} {n : Int} (at_ : c.number = .int n) (delta : Int) :
    (c.moved delta).number = .int (n + delta) := by
  cases c with
  | whole m =>
      cases at_
      rfl
  | fraction x => cases at_
  | flag b =>
      cases at_
      rfl

theorem atLeast_of_number {c : Cursor} {n : Int} (at_ : c.number = .int n) (index : Int) :
    c.atLeast index = decide (index ≤ n) := by
  rw [atLeast, at_, Number.le]

theorem atMost_of_number {c : Cursor} {n : Int} (at_ : c.number = .int n) (index : Int) :
    c.atMost index = decide (n ≤ index) := by
  rw [atMost, at_, Number.le]

theorem number_ceiling {c : Cursor} {n : Int} (at_ : c.number = .int n) (last : Int) :
    (if Number.lt (.int last) c.number then whole last else c).number = .int (min n last) := by
  rw [at_, Number.lt]
  by_cases beyond : last < n
  · rw [if_pos (decide_eq_true beyond), Int.min_eq_right (Int.le_of_lt beyond)]
    rfl
  · rw [if_neg (by simpa using beyond), Int.min_eq_left (Int.not_lt.mp beyond)]
    exact at_

theorem number_floor {c : Cursor} {n : Int} (at_ : c.number = .int n) :
    (if Number.lt (.int (-1)) c.number then c else whole (-1)).number = .int (max n (-1)) := by
  rw [at_, Number.lt]
  by_cases inside : -1 < n
  · rw [if_pos (decide_eq_true inside), Int.max_eq_left (Int.le_of_lt inside)]
    exact at_
  · rw [if_neg (by simpa using inside), Int.max_eq_right (Int.not_lt.mp inside)]
    rfl

/-- A jump to an integer leads to that integer moved between -1 and the last index. -/
theorem clamp?_of_number {v : Value} {n : Int} (integer : v.number? = some (.int n)) (last : Int) :
    ∃ c, clamp? v last = some c ∧ c.number = .int (max (min n last) (-1)) := by
  obtain ⟨c, read, number⟩ : ∃ c, ofValue? v = some c ∧ c.number = .int n := by
    cases v <;> cases integer
    · exact ⟨.flag _, rfl, rfl⟩
    · exact ⟨.whole _, rfl, rfl⟩
  rw [clamp?, read]
  exact ⟨_, rfl, number_floor (number_ceiling number last)⟩

/-- A cursor that was moved to an index was at an index before. -/
theorem number_of_moved {c : Cursor} {delta n : Int} (at_ : (c.moved delta).number = .int n) :
    c.number = .int (n - delta) := by
  cases c with
  | whole m =>
      have same : m + delta = n := Number.int.inj at_
      rw [← same, Int.add_sub_cancel]
      rfl
  | fraction x => cases at_
  | flag b =>
      have same : (b.toNat : Int) + delta = n := Number.int.inj at_
      rw [← same, Int.add_sub_cancel]
      rfl

/-- If a jump, to whatever value, leads to an index, then between -1 and the last one. -/
theorem clamp?_bounds {v : Value} {last n : Int} {c : Cursor} (nonempty : -1 ≤ last)
    (clamped : clamp? v last = some c) (at_ : c.number = .int n) : -1 ≤ n ∧ n ≤ last := by
  obtain ⟨asked, read, rfl⟩ := Option.map_eq_some_iff.mp clamped
  cases number : asked.number with
  | int m =>
      rw [number_floor (number_ceiling number last)] at at_
      have same : max (min m last) (-1) = n := Number.int.inj at_
      omega
  | float x =>
      -- A double is either kept, and then is no index, or gives way to one of the two ends.
      simp only at at_
      split at at_
      · split at at_
        · have same : last = n := Number.int.inj at_
          omega
        · have same : (-1 : Int) = n := Number.int.inj at_
          omega
      · split at at_
        · rw [number] at at_
          cases at_
        · have same : (-1 : Int) = n := Number.int.inj at_
          omega

end Cursor

/-- The revision at an index; none before the first. -/
def revisionAt? (revisions : List Revision) (index : Int) : Option Revision :=
  if index < 0 then none else revisions[index.toNat]?

/-- An operation that, if it jumps, jumps to an integer. -/
def Operation.IsIntegral : Operation → Prop
  | .jump target => ∃ n, target.number? = some (.int n)
  | _ => True

namespace Engine

/-- The engine stands at an index of its history or before the first, and shows the text there. -/
def StandsAt (e : Engine) (index : Int) : Prop :=
  e.cursor.number = .int index ∧ -1 ≤ index ∧ index ≤ e.last ∧
    textAfter e.revisions (index + 1).toNat = .ok e.content

/-- **The invariant of the page.** -/
structure IsAccurate (e : Engine) : Prop where
  real : ∀ r ∈ e.revisions, r.IsReal
  truthful : e.IsTruthful
  stands : ∃ index, e.StandsAt index

theorem neg_one_le_last (e : Engine) : -1 ≤ e.last := by
  unfold last
  omega

theorem StandsAt.of_samePage {e e' : Engine} {index : Int} (stands : e.StandsAt index) (same : SamePage e e') :
    e'.StandsAt index := by
  obtain ⟨number, low, high, text⟩ := stands
  refine ⟨?_, low, ?_, ?_⟩
  · rw [same.cursor, number]
  · unfold last
    rw [same.revisions]
    exact high
  · rw [same.revisions, same.content]
    exact text

/-- The invariant is about the page only. -/
theorem IsAccurate.of_samePage {e e' : Engine} (accurate : e.IsAccurate) (same : SamePage e e') :
    e'.IsAccurate := by
  obtain ⟨real, truthful, index, stands⟩ := accurate
  refine ⟨?_, ?_, index, stands.of_samePage same⟩
  · rw [same.revisions]
    exact real
  · unfold IsTruthful
    rw [same.revisions, same.snapshots]
    exact truthful

/-! ### Moves -/

/-- **A move inside the history** succeeds and arrives at the right text, from whatever snapshots there are and whatever
was shown before. -/
theorem accurate_moveTo_of_truthful {e : Engine} (real : ∀ r ∈ e.revisions, r.IsReal) (truthful : e.IsTruthful)
    {cursor : Cursor} {index : Int} (number : cursor.number = .int index) (low : -1 ≤ index)
    (high : index ≤ e.last) :
    (moveTo cursor e).state.IsAccurate ∧ (moveTo cursor e).outcome = .ok true := by
  unfold moveTo rebuild
  rw [Step.state_map, Step.outcome_map, Cursor.target_of_number number]
  by_cases before : index < 0
  · rw [if_pos before]
    refine ⟨⟨real, truthful, index, number, low, high, ?_⟩, rfl⟩
    have zero : (index + 1).toNat = 0 := by omega
    rw [zero]
    exact textAfter_zero _
  · rw [if_neg before]
    -- The snapshots are true wherever the cursor is, so the replay gives the text there.
    have moved : IsTruthful { e with cursor } := truthful
    have count : (index + 1).toNat = index.toNat + 1 := by omega
    obtain ⟨doc, text⟩ := exists_textAfter real (index.toNat + 1)
    have truthfulThere := truthful_rebuildAt moved index.toNat
    simp only [state_rebuildAt moved, outcome_rebuildAt moved, text] at truthfulThere ⊢
    refine ⟨⟨real, truthfulThere, index, number, low, high, ?_⟩, rfl⟩
    rw [count]
    exact text

theorem accurate_moveTo {e : Engine} (accurate : e.IsAccurate) {cursor : Cursor} {index : Int}
    (number : cursor.number = .int index) (low : -1 ≤ index) (high : index ≤ e.last) :
    (moveTo cursor e).state.IsAccurate ∧ (moveTo cursor e).outcome = .ok true :=
  accurate_moveTo_of_truthful accurate.real accurate.truthful number low high

theorem accurate_stepForward {e : Engine} (accurate : e.IsAccurate) :
    (stepForward e).state.IsAccurate := by
  obtain ⟨index, number, low, high, -⟩ := accurate.stands
  unfold stepForward
  rw [Cursor.atLeast_of_number number]
  by_cases atEnd : e.last ≤ index
  · rw [if_pos (decide_eq_true atEnd)]
    exact accurate
  · rw [if_neg (by simpa using atEnd)]
    exact (accurate_moveTo accurate (Cursor.number_moved number 1) (by omega) (by omega)).1

theorem accurate_stepBackward {e : Engine} (accurate : e.IsAccurate) :
    (stepBackward e).state.IsAccurate := by
  obtain ⟨index, number, low, high, -⟩ := accurate.stands
  unfold stepBackward
  rw [Cursor.atMost_of_number number]
  by_cases atStart : index ≤ -1
  · rw [if_pos (decide_eq_true atStart)]
    exact accurate
  · rw [if_neg (by simpa using atStart)]
    exact (accurate_moveTo accurate (Cursor.number_moved number (-1)) (by omega) (by omega)).1

theorem accurate_jump {e : Engine} (accurate : e.IsAccurate) {v : Value} {n : Int}
    (integer : v.number? = some (.int n)) : (jump v e).state.IsAccurate := by
  obtain ⟨cursor, clamped, number⟩ := Cursor.clamp?_of_number integer e.last
  have nonempty := e.neg_one_le_last
  unfold jump
  rw [clamped]
  exact (accurate_moveTo accurate number (by omega) (by omega)).1

theorem cursor_moveTo (cursor : Cursor) (e : Engine) : (moveTo cursor e).state.cursor = cursor := by
  rw [moveTo, Step.state_map]
  unfold rebuild
  split
  · rfl
  · unfold rebuildAt settle
    split <;> rfl
  · rfl

/-- A reset goes back to the start by itself, without a replay. -/
theorem standsAt_reset (e : Engine) : e.reset.StandsAt (-1) :=
  ⟨rfl, Int.le_refl _, neg_one_le_last _, rfl⟩

theorem accurate_reset {e : Engine} (accurate : e.IsAccurate) : e.reset.IsAccurate := by
  obtain ⟨real, truthful, -⟩ := accurate.of_samePage (samePage_stopTimer e)
  exact ⟨real, truthful, -1, standsAt_reset e⟩

/-! ### Runs -/

/-- Every operation keeps the invariant, whether it succeeds or fails. -/
theorem accurate_perform {op : Operation} (integral : op.IsIntegral) {e : Engine}
    (accurate : e.IsAccurate) : (perform op e).state.IsAccurate := by
  have jumped (v : Value) (jumps : op = .jump v) (e : Engine) (accurate : e.IsAccurate) :
      (jump v e).state.IsAccurate := by
    subst jumps
    obtain ⟨n, integer⟩ := integral
    exact accurate_jump accurate integer
  exact perform_keeps IsAccurate.of_samePage (fun _ => accurate_stepForward) (fun _ => accurate_stepBackward)
    (fun _ => accurate_reset) (fun _ accurate => accurate_jump accurate rfl) jumped accurate

theorem accurate_run {ops : List Operation} (integral : ∀ op ∈ ops, op.IsIntegral) {e : Engine}
    (accurate : e.IsAccurate) : (run ops e).IsAccurate := by
  induction ops generalizing e with
  | nil => exact accurate
  | cons op ops ih =>
      exact ih (fun op' mem => integral op' (List.mem_cons_of_mem op mem))
        (accurate_perform (integral op List.mem_cons_self) accurate)

theorem accurate_initial {revisions : List Revision} (real : ∀ r ∈ revisions, r.IsReal)
    (options : Options) (keepsSnapshots : Bool) (schedule : Schedule) (timerLog : Log) :
    (initial revisions options keepsSnapshots schedule timerLog).IsAccurate := by
  refine ⟨real, ?_, -1, rfl, Int.le_refl _, neg_one_le_last _, rfl⟩
  intro s mem
  cases mem

/-! ### Jumps to anything

A jump to a double may leave the cursor at no index, and then the text is that of another place.  As soon as the cursor
is at an index again, the text is right again. -/

/-- The invariant of an engine whose cursor may be at no index. -/
structure IsSound (e : Engine) : Prop where
  real : ∀ r ∈ e.revisions, r.IsReal
  truthful : e.IsTruthful
  stands : ∀ index, e.cursor.number = .int index → e.StandsAt index

theorem IsSound.accurate {e : Engine} (sound : e.IsSound) {index : Int} (at_ : e.cursor.number = .int index) :
    e.IsAccurate :=
  ⟨sound.real, sound.truthful, index, sound.stands index at_⟩

theorem IsAccurate.sound {e : Engine} (accurate : e.IsAccurate) : e.IsSound := by
  obtain ⟨real, truthful, index, stands⟩ := accurate
  refine ⟨real, truthful, fun other at_ => ?_⟩
  have same : index = other := Number.int.inj (stands.1.symm.trans at_)
  exact same ▸ stands

theorem IsSound.of_samePage {e e' : Engine} (sound : e.IsSound) (same : SamePage e e') : e'.IsSound := by
  refine ⟨?_, ?_, fun index at_ => ?_⟩
  · rw [same.revisions]
    exact sound.real
  · unfold IsTruthful
    rw [same.revisions, same.snapshots]
    exact sound.truthful
  · have before : e.cursor.number = .int index := same.cursor ▸ at_
    exact (sound.stands index before).of_samePage same

theorem sound_moveTo {e : Engine} (sound : e.IsSound) {cursor : Cursor}
    (within : ∀ index, cursor.number = .int index → -1 ≤ index ∧ index ≤ e.last) :
    (moveTo cursor e).state.IsSound := by
  cases number : cursor.number with
  | int index =>
      obtain ⟨low, high⟩ := within index number
      exact (accurate_moveTo_of_truthful sound.real sound.truthful number low high).1.sound
  | float x =>
      have nowhere (index : Int) : cursor.number ≠ .int index := by
        rw [number]
        nofun
      cases cursor with
      | whole n => cases number
      | flag b => cases number
      | fraction y =>
          unfold moveTo rebuild Cursor.target
          rw [Step.state_map]
          by_cases before : y < 0.0
          · simp only [before, if_true]
            exact ⟨sound.real, sound.truthful, fun index at_ => absurd at_ (nowhere index)⟩
          · simp only [before, if_false]
            exact ⟨sound.real, sound.truthful, fun index at_ => absurd at_ (nowhere index)⟩

theorem sound_stepForward {e : Engine} (sound : e.IsSound) : (stepForward e).state.IsSound := by
  unfold stepForward
  split
  · exact sound
  · rename_i ahead
    refine sound_moveTo sound fun index at_ => ?_
    obtain ⟨number, low, high, -⟩ := sound.stands _ (Cursor.number_of_moved at_)
    rw [Cursor.atLeast_of_number number, decide_eq_true_iff] at ahead
    omega

theorem sound_stepBackward {e : Engine} (sound : e.IsSound) : (stepBackward e).state.IsSound := by
  unfold stepBackward
  split
  · exact sound
  · rename_i inside
    refine sound_moveTo sound fun index at_ => ?_
    obtain ⟨number, low, high, -⟩ := sound.stands _ (Cursor.number_of_moved at_)
    rw [Cursor.atMost_of_number number, decide_eq_true_iff] at inside
    omega

theorem sound_jump {e : Engine} (sound : e.IsSound) (v : Value) : (jump v e).state.IsSound := by
  unfold jump
  split
  · exact sound
  · rename_i cursor clamped
    exact sound_moveTo sound fun index at_ => Cursor.clamp?_bounds e.neg_one_le_last clamped at_

theorem sound_reset {e : Engine} (sound : e.IsSound) : e.reset.IsSound := by
  obtain ⟨real, truthful, -⟩ := sound.of_samePage (samePage_stopTimer e)
  exact IsAccurate.sound ⟨real, truthful, -1, rfl, Int.le_refl _, neg_one_le_last _, rfl⟩

/-- Every operation, with whatever arguments, keeps the invariant. -/
theorem sound_perform (op : Operation) {e : Engine} (sound : e.IsSound) : (perform op e).state.IsSound :=
  perform_keeps IsSound.of_samePage (fun _ => sound_stepForward) (fun _ => sound_stepBackward) (fun _ => sound_reset)
    (fun _ sound => sound_jump sound _) (fun v _ _ sound => sound_jump sound v) sound

theorem sound_run (ops : List Operation) {e : Engine} (sound : e.IsSound) : (run ops e).IsSound := by
  induction ops generalizing e with
  | nil => exact sound
  | cons op ops ih => exact ih (sound_perform op sound)

/-! ### What is shown -/

theorem current?_of_number {e : Engine} {index : Int} (at_ : e.cursor.number = .int index) :
    e.current? = .ok (revisionAt? e.revisions index) := by
  unfold current? revisionAt?
  rw [Cursor.target_of_number at_]
  by_cases before : index < 0
  · rw [if_pos before, if_pos before]
  · rw [if_neg before, if_neg before]

/-- The text shown is compared with the recorded one at the index, if there is one. -/
theorem verify_of_standsAt {e : Engine} {index : Int} (stands : e.StandsAt index) :
    e.verify =
      .ok (((revisionAt? e.revisions index).bind Revision.snapshot).map fun s => s == e.content) := by
  rw [verify, current?_of_number stands.1]
  rfl

/-- **What an engine shows after every run.**  An engine on a history without foreign entries, however it keeps its
snapshots and whatever is done with it, in whatever order, stands at -1 or at an index of the history, shows what the
replay up to there gives, and compares that text with the one recorded there. -/
theorem content_eq_replay {revisions : List Revision} (real : ∀ r ∈ revisions, r.IsReal)
    (options : Options) (keepsSnapshots : Bool) (schedule : Schedule) (timerLog : Log)
    {ops : List Operation} (integral : ∀ op ∈ ops, op.IsIntegral) :
    let e := run ops (create revisions options keepsSnapshots schedule timerLog).state
    ∃ index : Int, e.cursor.number = .int index ∧
      -1 ≤ index ∧ index ≤ (revisions.length : Int) - 1 ∧
      (replay revisions index).outcome = .ok e.content ∧
      e.verify =
        .ok (((revisionAt? revisions index).bind Revision.snapshot).map fun s => s == e.content) := by
  intro e
  have history : e.revisions = revisions :=
    (revisions_run ops _).trans (revisions_create revisions options keepsSnapshots schedule timerLog)
  have created : IsAccurate (create revisions options keepsSnapshots schedule timerLog).state :=
    create_has (accurate_initial real options keepsSnapshots schedule timerLog)
      fun e accurate => accurate.of_samePage (samePage_play e)
  obtain ⟨index, stands⟩ := (accurate_run integral created).stands
  obtain ⟨number, low, high, text⟩ := stands
  have verdict := verify_of_standsAt ⟨number, low, high, text⟩
  rw [history] at verdict text
  refine ⟨index, number, low, ?_, ?_, verdict⟩
  · rw [← history]
    exact high
  · rw [outcome_replay]
    exact text

/-- Two revisions, the first with a group inside a group and with positions outside the text, the second with its text
recorded. -/
def groupedHistory : List Revision :=
  [⟨"1", 1, [.group [.insert (-3) ['b', 'a'] 1, .group [.delete 9 (-9) 1, .style 0 40 [] 1] 1] 1], none⟩,
    ⟨"2", 2, [.delete 1 7 2], some ['b']⟩]

/-- Moves in all directions while the engine plays. -/
def wanderingMoves : List Operation :=
  [.play, .jumpToEnd, .jump (.int (-7)), .fire, .reset, .jump (.int 40), .stepBackward, .stepForward]

theorem content_eq_replay_of_groups :
    (∀ r ∈ groupedHistory, r.IsReal) ∧ (∀ op ∈ wanderingMoves, op.IsIntegral) ∧
      let e := run wanderingMoves
        (create groupedHistory Options.standard true (Schedule.initial true) []).state
      ∃ index : Int, e.cursor.number = .int index ∧
        -1 ≤ index ∧ index ≤ (groupedHistory.length : Int) - 1 ∧
        (replay groupedHistory index).outcome = .ok e.content ∧
        e.verify = .ok (((revisionAt? groupedHistory index).bind Revision.snapshot).map
          fun s => s == e.content) := by
  have real : ∀ r ∈ groupedHistory, r.IsReal := by decide
  have integral : ∀ op ∈ wanderingMoves, op.IsIntegral := by
    simp [wanderingMoves, Operation.IsIntegral, Value.number?]
  exact ⟨real, integral, content_eq_replay real Options.standard true (Schedule.initial true) [] integral⟩

end Engine

end EditHistory.Playback
