import EditHistory.Proofs.Playback.Frames
import EditHistory.Proofs.Playback.Snapshots

/-!
# Snapshots cannot be observed

An engine that keeps snapshots and one that keeps none, driven by the same operations, cannot be told apart: every
operation gives the same answer or the same failure, and leaves engines behind that differ in their snapshots only.
This holds of every history, also of one with foreign entries, and of every argument, also of a jump to no index at
all.

The engine without snapshots is the erasure of the one with them.  Only a replay looks at snapshots, and of it
`outcome_rebuildAt` and `state_rebuildAt` already say what it gives without mentioning them; everything else is carried
through the operations.

## Main definitions

* `Engine.withoutSnapshots` — the erasure
* `Engine.Erases`, `Engine.IgnoresSnapshots` — engines and actions that agree after erasure

## Main statements

* `Engine.ignoresSnapshots_perform` — every single operation
* `Engine.snapshots_unobservable` — every run of the two engines side by side
-/

namespace EditHistory.Playback

namespace Engine

/-- The engine as if it had never kept snapshots. -/
def withoutSnapshots (e : Engine) : Engine :=
  { e with keepsSnapshots := false, snapshots := [] }

/-- The second engine is the first without its snapshots, which are replays. -/
structure Erases (e e' : Engine) : Prop where
  truthful : e.IsTruthful
  erased : e' = e.withoutSnapshots

/-- An action that gives the same with and without snapshots. -/
def IgnoresSnapshots {α : Type} (x : Action Engine Fault α) : Prop :=
  ∀ e e', Erases e e' → Step.Agrees Erases (x e) (x e')

theorem truthful_withoutSnapshots (e : Engine) : e.withoutSnapshots.IsTruthful := by
  intro s mem
  cases mem

/-- Erasure is kept by changes of an engine that are about its clock or its options. -/
theorem Erases.of_samePage {e e' f f' : Engine} (erases : Erases e e') (same : SamePage e f)
    (erased : f' = f.withoutSnapshots) : Erases f f' := by
  refine ⟨?_, erased⟩
  unfold IsTruthful
  rw [same.revisions, same.snapshots]
  exact erases.truthful

/-! ### The page -/

theorem ignoresSnapshots_rebuildAt (index : Nat) : IgnoresSnapshots (rebuildAt index) := by
  rintro e _ ⟨truthful, rfl⟩
  have plain := truthful_withoutSnapshots e
  refine ⟨?_, truthful_rebuildAt truthful index, ?_⟩
  · rw [outcome_rebuildAt truthful, outcome_rebuildAt plain]
    rfl
  · rw [state_rebuildAt truthful, state_rebuildAt plain, state_replayTo_of_not_keeps rfl]
    rfl

theorem ignoresSnapshots_moveTo (cursor : Cursor) : IgnoresSnapshots (moveTo cursor) := by
  rintro e _ ⟨truthful, rfl⟩
  have moved : Erases { e with cursor } { e.withoutSnapshots with cursor } := ⟨truthful, rfl⟩
  unfold moveTo rebuild
  refine Step.Agrees.map ?_ _
  simp only
  cases cursor.target with
  | start => exact ⟨rfl, truthful, rfl⟩
  | revision index => exact ignoresSnapshots_rebuildAt index _ _ moved
  | nowhere => exact ⟨rfl, truthful, rfl⟩

theorem ignoresSnapshots_stepForward : IgnoresSnapshots stepForward := by
  rintro e _ ⟨truthful, rfl⟩
  have erases : Erases e e.withoutSnapshots := ⟨truthful, rfl⟩
  exact Step.Agrees.ite (e.cursor.atLeast e.last = true) ⟨rfl, erases⟩
    (ignoresSnapshots_moveTo (e.cursor.moved 1) _ _ erases)

theorem ignoresSnapshots_stepBackward : IgnoresSnapshots stepBackward := by
  rintro e _ ⟨truthful, rfl⟩
  have erases : Erases e e.withoutSnapshots := ⟨truthful, rfl⟩
  exact Step.Agrees.ite (e.cursor.atMost (-1) = true) ⟨rfl, erases⟩
    (ignoresSnapshots_moveTo (e.cursor.moved (-1)) _ _ erases)

theorem ignoresSnapshots_jump (v : Value) : IgnoresSnapshots (jump v) := by
  rintro e _ ⟨truthful, rfl⟩
  have erases : Erases e e.withoutSnapshots := ⟨truthful, rfl⟩
  have last : e.withoutSnapshots.last = e.last := rfl
  unfold jump
  rw [last]
  cases Cursor.clamp? v e.last with
  | none => exact ⟨rfl, erases⟩
  | some cursor => exact ignoresSnapshots_moveTo cursor _ _ erases

theorem ignoresSnapshots_jumpToEnd : IgnoresSnapshots jumpToEnd := by
  rintro e _ ⟨truthful, rfl⟩
  exact ignoresSnapshots_jump (.int e.last) _ _ ⟨truthful, rfl⟩

/-! ### The clock -/

theorem Erases.stopTimer {e e' : Engine} (erases : Erases e e') :
    Erases e.stopTimer e'.stopTimer := by
  refine erases.of_samePage (samePage_stopTimer e) ?_
  rw [erases.erased]
  -- Both sides look at the timer only, which the erasure leaves where it is.
  obtain ⟨_, _, _, _, _, _, _, timer, _, _⟩ := e
  cases timer <;> rfl

theorem Erases.mode {e e' : Engine} (erases : Erases e e') (mode : Mode) :
    Erases { e with mode } { e' with mode } := by
  obtain ⟨truthful, rfl⟩ := erases
  exact ⟨truthful, rfl⟩

theorem ignoresSnapshots_startTimer : IgnoresSnapshots startTimer := by
  rintro e _ ⟨truthful, rfl⟩
  have interval : e.withoutSnapshots.interval = e.interval := rfl
  unfold startTimer
  rw [interval]
  cases readPeriod (.float e.interval) <;> exact ⟨rfl, truthful, rfl⟩

theorem ignoresSnapshots_play : IgnoresSnapshots play := by
  rintro e _ ⟨truthful, rfl⟩
  have erases : Erases e e.withoutSnapshots := ⟨truthful, rfl⟩
  exact Step.Agrees.ite (e.mode = .playing) ⟨rfl, erases⟩
    (ignoresSnapshots_startTimer _ _ erases.stopTimer)

theorem ignoresSnapshots_pause : IgnoresSnapshots pause := by
  rintro e _ ⟨truthful, rfl⟩
  have erases : Erases e e.withoutSnapshots := ⟨truthful, rfl⟩
  exact Step.Agrees.ite (e.mode = .playing) ⟨rfl, erases.stopTimer.mode .paused⟩ ⟨rfl, erases⟩

theorem ignoresSnapshots_toggle : IgnoresSnapshots toggle := by
  rintro e _ ⟨truthful, rfl⟩
  have erases : Erases e e.withoutSnapshots := ⟨truthful, rfl⟩
  exact Step.Agrees.ite (e.mode = .playing) ((ignoresSnapshots_pause _ _ erases).map _)
    ((ignoresSnapshots_play _ _ erases).map _)

theorem Erases.close {e e' : Engine} (erases : Erases e e') : Erases e.close e'.close := by
  have mode : e'.mode = e.mode := by rw [erases.erased]; rfl
  unfold Engine.close
  rw [mode]
  exact erases.stopTimer.mode _

theorem Erases.reset {e e' : Engine} (erases : Erases e e') : Erases e.reset e'.reset := by
  obtain ⟨truthful, erased⟩ := erases.stopTimer
  refine ⟨truthful, ?_⟩
  unfold Engine.reset
  rw [erased]
  rfl

theorem ignoresSnapshots_setOptions (v : Value) : IgnoresSnapshots (setOptions v) := by
  rintro e _ ⟨truthful, rfl⟩
  have options : e.withoutSnapshots.options = e.options := rfl
  unfold setOptions
  rw [options]
  cases e.options.update v <;> exact ⟨rfl, truthful, rfl⟩

/-! ### Calls -/

theorem ignoresSnapshots_tick : IgnoresSnapshots tick := by
  intro e e' erases
  refine (ignoresSnapshots_stepForward e e' erases).andThen ?_
  rintro moved f _ ⟨truthful, rfl⟩
  have erases : Erases f f.withoutSnapshots := ⟨truthful, rfl⟩
  exact Step.Agrees.ite ((!moved || f.cursor.atLeast f.last) = true)
    ⟨rfl, erases.stopTimer.mode .idle⟩ ⟨rfl, erases⟩

theorem ignoresSnapshots_serve (made : Option (Option Nat × Schedule)) :
    IgnoresSnapshots (serve made) := by
  rintro e _ ⟨truthful, rfl⟩
  have rescheduled (schedule : Schedule) :
      Erases { e with schedule } { e.withoutSnapshots with schedule } := ⟨truthful, rfl⟩
  unfold serve
  split
  · exact ⟨rfl, truthful, rfl⟩
  · exact ⟨rfl, rescheduled _⟩
  · exact (ignoresSnapshots_tick _ _ (rescheduled _)).map _

theorem ignoresSnapshots_fire : IgnoresSnapshots fire := by
  rintro e _ ⟨truthful, rfl⟩
  exact ignoresSnapshots_serve e.schedule.fire? _ _ ⟨truthful, rfl⟩

theorem ignoresSnapshots_fireAt (place : Nat) : IgnoresSnapshots (fireAt place) := by
  rintro e _ ⟨truthful, rfl⟩
  exact ignoresSnapshots_serve (e.schedule.fireAt? place) _ _ ⟨truthful, rfl⟩

theorem ignoresSnapshots_fireUntil (time : Float) (count limit : Nat) :
    IgnoresSnapshots (fireUntil time count limit) := by
  induction limit generalizing count with
  | zero =>
      intro e e' erases
      exact ⟨rfl, erases⟩
  | succ limit ih =>
      rintro e _ ⟨truthful, rfl⟩
      have erases : Erases e e.withoutSnapshots := ⟨truthful, rfl⟩
      exact Step.Agrees.ite (e.schedule.isDue time = true)
        ((ignoresSnapshots_fire _ _ erases).andThen fun _ => ih (count + 1)) ⟨rfl, erases⟩

theorem ignoresSnapshots_advance (seconds : Float) : IgnoresSnapshots (advance seconds) := by
  rintro e _ ⟨truthful, rfl⟩
  unfold advance advanceTo
  refine Step.Agrees.andThen (ignoresSnapshots_fireUntil _ 0 e.callLimit _ _ ⟨truthful, rfl⟩) ?_
  rintro count f _ ⟨truthful, rfl⟩
  exact ⟨rfl, truthful, rfl⟩

/-! ### Runs -/

/-- **Every operation gives the same with and without snapshots.** -/
theorem ignoresSnapshots_perform (op : Operation) : IgnoresSnapshots (perform op) := by
  intro e e' erases
  cases op with
  | play => exact (ignoresSnapshots_play e e' erases).map _
  | pause => exact (ignoresSnapshots_pause e e' erases).map _
  | toggle => exact (ignoresSnapshots_toggle e e' erases).map _
  | reset => exact ⟨rfl, erases.reset⟩
  | close => exact ⟨rfl, erases.close⟩
  | stepForward => exact (ignoresSnapshots_stepForward e e' erases).map _
  | stepBackward => exact (ignoresSnapshots_stepBackward e e' erases).map _
  | jump target => exact (ignoresSnapshots_jump target e e' erases).map _
  | jumpToEnd => exact (ignoresSnapshots_jumpToEnd e e' erases).map _
  | setOptions options => exact (ignoresSnapshots_setOptions options e e' erases).map _
  | verify =>
      obtain ⟨truthful, rfl⟩ := erases
      exact ⟨rfl, truthful, rfl⟩
  | status =>
      obtain ⟨truthful, rfl⟩ := erases
      exact ⟨rfl, truthful, rfl⟩
  | fire => exact (ignoresSnapshots_fire e e' erases).map _
  | fireAt place => exact (ignoresSnapshots_fireAt place e e' erases).map _
  | advance seconds => exact (ignoresSnapshots_advance seconds e e' erases).map _

/-- The trace without snapshots is the trace with them, each engine erased. -/
theorem trace_erase (ops : List Operation) {e e' : Engine} (erases : Erases e e') :
    (trace ops e).map (fun seen => (seen.1, seen.2.withoutSnapshots)) = trace ops e' := by
  induction ops generalizing e e' with
  | nil => rfl
  | cons op ops ih =>
      obtain ⟨outcome, next⟩ := ignoresSnapshots_perform op e e' erases
      rw [trace, trace, List.map_cons, ih next, outcome, next.erased]

/-- **Snapshots cannot be observed.**  Two engines on one history, made with the same options, of which only the first
keeps snapshots, are made with one outcome, and whatever is then done with both, every operation has the same outcome
on both and leaves the same engine behind, apart from the snapshots: the same mode, cursor, text, options and timer,
and the same schedule with the same calls waiting. -/
theorem snapshots_unobservable (revisions : List Revision) (options : Options) (schedule : Schedule)
    (timerLog : Log) (ops : List Operation) :
    let keeping := create revisions options true schedule timerLog
    let plain := create revisions options false schedule timerLog
    keeping.outcome = plain.outcome ∧
      keeping.state.withoutSnapshots = plain.state ∧
      (trace ops keeping.state).map (fun seen => (seen.1, seen.2.withoutSnapshots)) =
        trace ops plain.state := by
  intro keeping plain
  have initially : Erases (initial revisions options true schedule timerLog)
      (initial revisions options false schedule timerLog) := by
    refine ⟨?_, rfl⟩
    intro s mem
    cases mem
  have created : Step.Agrees Erases keeping plain := by
    refine Step.Agrees.ite ((options.autoPlay && !revisions.isEmpty) = true) ?_ ⟨rfl, initially⟩
    exact Step.Agrees.andThen ⟨rfl, initially⟩ fun _ e e' erases =>
      (ignoresSnapshots_play e e' erases).map _
  exact ⟨created.outcome, created.state.erased.symm, trace_erase ops created.state⟩

end Engine

end EditHistory.Playback
