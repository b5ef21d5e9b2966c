import EditHistory.Proofs.Playback.Clock
import EditHistory.Proofs.Playback.Snapshots

/-!
# Operations that fail

An operation that fails has changed nothing but the cursor.  A move changes the cursor before it replays the text, and
the replay fails just when there is no text at the cursor: there is a foreign entry on the way, or the cursor is no
index.  So an engine that shows anything but the text at its cursor has none to show, and as soon as the cursor is at a
place with a text again, this text is shown.

## Main definitions

* `Engine.textThere` — the text at the cursor, if there is one
* `Operation.destination?` — the cursor to which an operation moves
* `Engine.IsHonest` — the text shown is the one at the cursor, unless there is none
* `Engine.LeftBehind` — an engine after an operation that has failed
* `Engine.Fires` — calls that succeed

## Main statements

* `Engine.honest_perform` — every operation keeps an engine honest
* `Engine.leftBehind_perform` — what an operation that fails leaves behind
* `Engine.leftBehind_advance` — while time passes, it is a call that fails
* `Engine.leftBehind_run` — what it means for every run
-/

namespace EditHistory.Playback

/-- The cursor to which an operation moves, if it moves to one place: while time passes there may be several. -/
def Operation.destination? (e : Engine) : Operation → Option Cursor
  | .stepForward => some (e.cursor.moved 1)
  | .stepBackward => some (e.cursor.moved (-1))
  | .jump target => Cursor.clamp? target e.last
  | .jumpToEnd => Cursor.clamp? (.int e.last) e.last
  | .fire => some (e.cursor.moved 1)
  | .fireAt _ => some (e.cursor.moved 1)
  | _ => none

namespace Engine

variable {e e' : Engine} {fault : Fault}

/-- The text at the cursor, or why there is none. -/
def textThere (e : Engine) : Except Fault Document :=
  match e.cursor.target with
  | .start => .ok []
  | .revision index => (textAfter e.revisions (index + 1)).mapError .notACommand
  | .nowhere => .error .notAnIndex

theorem textThere_congr (revisions : e'.revisions = e.revisions) (cursor : e'.cursor = e.cursor) :
    e'.textThere = e.textThere := by
  rw [textThere, textThere, revisions, cursor]

/-! ### Moves -/

/-- A move succeeds just when there is a text at the place. -/
theorem outcome_moveTo (truthful : e.IsTruthful) (cursor : Cursor) :
    (moveTo cursor e).outcome = (textThere { e with cursor }).map fun _ => true := by
  have moved : IsTruthful { e with cursor } := truthful
  unfold moveTo rebuild textThere
  rw [Step.outcome_map]
  simp only
  cases cursor.target with
  | start => rfl
  | revision index =>
      simp only [outcome_rebuildAt moved]
      cases textAfter e.revisions (index + 1) <;> rfl
  | nowhere => rfl

/-- A move changes the cursor, whether it succeeds or not, and the text only if there is one at the place. -/
theorem state_moveTo (truthful : e.IsTruthful) (cursor : Cursor) :
    ∃ snapshots, (∀ s ∈ snapshots, s.IsTrue e.revisions) ∧
      (moveTo cursor e).state =
        { e with cursor, content := (textThere { e with cursor }).toOption.getD e.content, snapshots } := by
  have moved : IsTruthful { e with cursor } := truthful
  unfold moveTo rebuild textThere
  rw [Step.state_map]
  simp only
  cases cursor.target with
  | start => exact ⟨e.snapshots, truthful, rfl⟩
  | revision index =>
      refine ⟨_, isTrue_replayTo moved index, ?_⟩
      simp only [state_rebuildAt moved]
      cases textAfter e.revisions (index + 1) <;> rfl
  | nowhere => exact ⟨e.snapshots, truthful, rfl⟩

/-! ### What is shown -/

/-- **The text shown is the one at the cursor**, unless there is none, and the snapshots are true. -/
structure IsHonest (e : Engine) : Prop where
  truthful : e.IsTruthful
  shown : ∀ text, e.textThere = .ok text → e.content = text

theorem IsHonest.of_samePage (honest : e.IsHonest) (same : SamePage e e') : e'.IsHonest := by
  refine ⟨?_, fun text there => ?_⟩
  · unfold IsTruthful
    rw [same.revisions, same.snapshots]
    exact honest.truthful
  · rw [textThere_congr same.revisions same.cursor] at there
    rw [same.content]
    exact honest.shown text there

/-- After a move an engine is honest, whatever it showed before. -/
theorem honest_moveTo (truthful : e.IsTruthful) (cursor : Cursor) : (moveTo cursor e).state.IsHonest := by
  obtain ⟨snapshots, true_, after⟩ := state_moveTo truthful cursor
  rw [after]
  refine ⟨true_, fun text there => ?_⟩
  have here : textThere { e with cursor } = .ok text := there
  simp only [here]
  rfl

theorem honest_reset (honest : e.IsHonest) : e.reset.IsHonest := by
  refine ⟨(honest.of_samePage (samePage_stopTimer e)).truthful, fun text there => ?_⟩
  exact Except.ok.inj there

/-- **Every operation keeps an engine honest**, whether it succeeds or fails. -/
theorem honest_perform (op : Operation) (honest : e.IsHonest) : (perform op e).state.IsHonest :=
  perform_keeps_of_moveTo (fun _ cursor honest => honest_moveTo honest.truthful cursor) IsHonest.of_samePage
    (fun _ => honest_reset) op honest

theorem honest_run (ops : List Operation) (honest : e.IsHonest) : (run ops e).IsHonest := by
  induction ops generalizing e with
  | nil => exact honest
  | cons op ops ih => exact ih (honest_perform op honest)

theorem honest_initial (revisions : List Revision) (options : Options) (keepsSnapshots : Bool) (schedule : Schedule)
    (timerLog : Log) : (initial revisions options keepsSnapshots schedule timerLog).IsHonest := by
  refine ⟨?_, fun text there => Except.ok.inj there⟩
  intro s mem
  cases mem

/-! ### What is left behind -/

/-- An engine after an operation that has failed.  If the operation was to move the cursor, the cursor has moved, and
the failure is that there is no text there.  All else is as it was, but for snapshots and the calls that wait. -/
structure LeftBehind (e : Engine) (destination : Option Cursor) (fault : Fault) (e' : Engine) : Prop where
  revisions : e'.revisions = e.revisions
  options : e'.options = e.options
  mode : e'.mode = e.mode
  content : e'.content = e.content
  timer : e'.timer = e.timer
  active : ∀ timer, e'.schedule.isActive timer = e.schedule.isActive timer
  cursor : e'.cursor = destination.getD e.cursor
  noText : ∀ cursor, destination = some cursor → e'.textThere = .error fault

theorem LeftBehind.refl (e : Engine) (fault : Fault) : LeftBehind e none fault e where
  revisions := rfl
  options := rfl
  mode := rfl
  content := rfl
  timer := rfl
  active _ := rfl
  cursor := rfl
  noText := nofun

theorem leftBehind_moveTo (truthful : e.IsTruthful) {cursor : Cursor}
    (failed : (moveTo cursor e).outcome = .error fault) : LeftBehind e (some cursor) fault (moveTo cursor e).state := by
  have noText : textThere { e with cursor } = .error fault := by
    rw [outcome_moveTo truthful] at failed
    cases there : textThere { e with cursor } with
    | ok text =>
        rw [there] at failed
        cases failed
    | error other =>
        rw [there] at failed
        cases failed
        rfl
  obtain ⟨snapshots, -, after⟩ := state_moveTo truthful cursor
  rw [after, noText]
  exact
    { revisions := rfl
      options := rfl
      mode := rfl
      content := rfl
      timer := rfl
      active _ := rfl
      cursor := rfl
      noText _ _ := noText }

theorem leftBehind_stepForward (truthful : e.IsTruthful) (failed : (stepForward e).outcome = .error fault) :
    LeftBehind e (some (e.cursor.moved 1)) fault (stepForward e).state := by
  unfold stepForward at failed ⊢
  split at failed
  · cases failed
  · rename_i ahead
    rw [if_neg ahead]
    exact leftBehind_moveTo truthful failed

theorem leftBehind_stepBackward (truthful : e.IsTruthful) (failed : (stepBackward e).outcome = .error fault) :
    LeftBehind e (some (e.cursor.moved (-1))) fault (stepBackward e).state := by
  unfold stepBackward at failed ⊢
  split at failed
  · cases failed
  · rename_i inside
    rw [if_neg inside]
    exact leftBehind_moveTo truthful failed

theorem leftBehind_jump (truthful : e.IsTruthful) {v : Value} (failed : (jump v e).outcome = .error fault) :
    LeftBehind e (Cursor.clamp? v e.last) fault (jump v e).state := by
  unfold jump at failed ⊢
  cases clamped : Cursor.clamp? v e.last with
  | none => exact .refl e fault
  | some cursor =>
      rw [clamped] at failed
      exact leftBehind_moveTo truthful failed

/-- Playback that cannot be started has stopped no timer either, for there was none. -/
theorem state_play_of_failed (keeps : e.KeepsTime) (failed : (play e).outcome = .error fault) :
    (play e).state = e := by
  unfold play at failed ⊢
  split at failed
  · cases failed
  · rename_i rests
    rw [if_neg rests, stopTimer_of_free (keeps.timer_eq_none rests), startTimer]
    rw [stopTimer_of_free (keeps.timer_eq_none rests), startTimer] at failed
    split at failed
    · rfl
    · cases failed

theorem state_toggle_of_failed (keeps : e.KeepsTime) (failed : (toggle e).outcome = .error fault) :
    (toggle e).state = e := by
  unfold toggle at failed ⊢
  split at failed
  · rename_i playing
    rw [pause, if_pos playing] at failed
    cases failed
  · rename_i rests
    rw [if_neg rests]
    exact state_play_of_failed keeps (Step.failed_of_map failed)

/-- A tick fails where its step does. -/
theorem leftBehind_tick (truthful : e.IsTruthful) (failed : (tick e).outcome = .error fault) :
    LeftBehind e (some (e.cursor.moved 1)) fault (tick e).state := by
  cases stepped : (stepForward e).outcome with
  | error other =>
      rw [tick, Step.andThen_of_error stepped] at failed ⊢
      cases failed
      exact leftBehind_stepForward truthful stepped
  | ok moved =>
      rw [tick, Step.andThen_of_ok stepped] at failed
      simp only at failed
      split at failed <;> cases failed

theorem leftBehind_fireAt (truthful : e.IsTruthful) (keeps : e.KeepsTime) {place : Nat}
    (failed : (fireAt place e).outcome = .error fault) :
    LeftBehind e (some (e.cursor.moved 1)) fault (fireAt place e).state := by
  unfold fireAt at failed ⊢
  cases fired : e.schedule.fireAt? place with
  | none =>
      rw [fired] at failed
      cases failed
  | some made =>
      obtain ⟨c, others, taken, rfl⟩ := Schedule.exists_of_fireAt? fired
      obtain ⟨-, same⟩ := Schedule.orderly_make keeps.orderly taken
      rw [fired] at failed
      generalize e.schedule.make c others = made at failed same ⊢
      obtain ⟨_ | timer, schedule⟩ := made
      · cases failed
      · have left : LeftBehind { e with schedule } _ fault (tick { e with schedule }).state :=
          leftBehind_tick (e := { e with schedule }) truthful (Step.failed_of_map failed)
        exact { left with active := fun timer => (left.active timer).trans (same timer) }

theorem leftBehind_fire (truthful : e.IsTruthful) (keeps : e.KeepsTime) (failed : (fire e).outcome = .error fault) :
    LeftBehind e (some (e.cursor.moved 1)) fault (fire e).state := by
  obtain ⟨place, same⟩ := exists_fire_eq_fireAt e
  rw [same] at failed ⊢
  exact leftBehind_fireAt truthful keeps failed

/-- **An operation that fails** leaves all as it was but for the cursor.  What happens while time passes is a matter of
single calls. -/
theorem leftBehind_perform (truthful : e.IsTruthful) (keeps : e.KeepsTime) {op : Operation}
    (single : ∀ seconds, op ≠ .advance seconds) (failed : (perform op e).outcome = .error fault) :
    LeftBehind e (op.destination? e) fault (perform op e).state := by
  cases op with
  | play =>
      have same := state_play_of_failed keeps (Step.failed_of_map failed)
      show LeftBehind e none fault (play e).state
      rw [same]
      exact .refl e fault
  | pause =>
      have failed := Step.failed_of_map failed
      unfold pause at failed
      split at failed <;> cases failed
  | toggle =>
      have same := state_toggle_of_failed keeps (Step.failed_of_map failed)
      show LeftBehind e none fault (toggle e).state
      rw [same]
      exact .refl e fault
  | reset => cases failed
  | close => cases failed
  | stepForward => exact leftBehind_stepForward truthful (Step.failed_of_map failed)
  | stepBackward => exact leftBehind_stepBackward truthful (Step.failed_of_map failed)
  | jump target => exact leftBehind_jump truthful (Step.failed_of_map failed)
  | jumpToEnd => exact leftBehind_jump truthful (Step.failed_of_map failed)
  | setOptions options =>
      have failed := Step.failed_of_map failed
      show LeftBehind e none fault (setOptions options e).state
      unfold setOptions at failed ⊢
      split at failed
      · cases failed
      · exact .refl e fault
  | verify => exact .refl e fault
  | status => exact .refl e fault
  | fire => exact leftBehind_fire truthful keeps (Step.failed_of_map failed)
  | fireAt place => exact leftBehind_fireAt truthful keeps (Step.failed_of_map failed)
  | advance seconds => exact absurd rfl (single seconds)

/-! ### Time -/

/-- Calls are made one after the other, and all of them succeed. -/
inductive Fires : Engine → Engine → Prop
  | none (e : Engine) : Fires e e
  | next {e e' : Engine} {made : Bool} (succeeds : (fire e).outcome = .ok made) (rest : Fires (fire e).state e') :
      Fires e e'

theorem leftBehind_of_fireUntil (honest : e.IsHonest) (keeps : e.KeepsTime) {time : Float} {count limit : Nat}
    (failed : (fireUntil time count limit e).outcome = .error fault) :
    ∃ e', Fires e e' ∧ LeftBehind e' (some (e'.cursor.moved 1)) fault (fireUntil time count limit e).state := by
  induction limit generalizing count e with
  | zero => cases failed
  | succ limit ih =>
      unfold fireUntil at failed ⊢
      split at failed
      · rename_i due
        rw [if_pos due]
        cases fired : (fire e).outcome with
        | error other =>
            rw [Step.andThen_of_error fired] at failed ⊢
            cases failed
            exact ⟨e, .none e, leftBehind_fire honest.truthful keeps fired⟩
        | ok made =>
            rw [Step.andThen_of_ok fired] at failed ⊢
            have after : (fire e).state.IsHonest := honest_perform .fire honest
            obtain ⟨e', fires, left⟩ := ih after (keepsTime_fire keeps) failed
            exact ⟨e', .next fired fires, left⟩
      · cases failed

/-- **While time passes** nothing can fail but a call, after others that have succeeded. -/
theorem leftBehind_advance (honest : e.IsHonest) (keeps : e.KeepsTime) {seconds : Float}
    (failed : (advance seconds e).outcome = .error fault) :
    ∃ e', Fires e e' ∧ LeftBehind e' (some (e'.cursor.moved 1)) fault (advance seconds e).state := by
  unfold advance advanceTo at failed ⊢
  cases fired : (fireUntil (e.schedule.now + seconds) 0 e.callLimit e).outcome with
  | error other =>
      rw [Step.andThen_of_error fired] at failed ⊢
      cases failed
      exact leftBehind_of_fireUntil honest keeps fired
  | ok count =>
      rw [Step.andThen_of_ok fired] at failed
      cases failed

/-! ### Runs -/

/-- **Failures after every run.**  Whatever the history, foreign entries among it, and whatever has been done with the
engine, it shows the text at its cursor if there is one.  An operation that fails leaves history, options, mode, text
and timer as they were.  It leaves the cursor there, too, unless it was to move it: then the cursor has moved to where
there is no text, which is why it has failed.  And while time passes the calls succeed up to the one that fails. -/
theorem leftBehind_run (revisions : List Revision) (options : Options) (keepsSnapshots keepsCancelled : Bool)
    (now : Float) (timerLog : Log) (ops : List Operation) :
    let e := run ops (create revisions options keepsSnapshots
      { Schedule.initial keepsCancelled with now } timerLog).state
    (∀ text, e.textThere = .ok text → e.content = text) ∧
      (∀ op fault, (∀ seconds, op ≠ .advance seconds) → (perform op e).outcome = .error fault →
        LeftBehind e (op.destination? e) fault (perform op e).state) ∧
      (∀ seconds fault, (perform (.advance seconds) e).outcome = .error fault →
        ∃ e', Fires e e' ∧
          LeftBehind e' (some (e'.cursor.moved 1)) fault (perform (.advance seconds) e).state) := by
  intro e
  have keeps : e.KeepsTime := keepsTime_run ops <|
    create_has (keepsTime_initial revisions options keepsSnapshots keepsCancelled now timerLog)
      fun _ => keepsTime_play
  have honest : e.IsHonest := honest_run ops <|
    create_has (honest_initial revisions options keepsSnapshots _ timerLog)
      fun e honest => honest.of_samePage (samePage_play e)
  exact ⟨honest.shown, fun op fault => leftBehind_perform honest.truthful keeps,
    fun seconds fault failed => leftBehind_advance honest keeps (Step.failed_of_map failed)⟩

/-- Two revisions, the second with a foreign entry in a group, behind an entry that can be applied. -/
def spoiltHistory : List Revision :=
  [⟨"1", 1, [.insert 1 ['a'] 1], none⟩, ⟨"2", 2, [.group [.insert 1 ['b'] 2, .foreign (.str "x")] 2], none⟩]

/-- An engine that shows the first revision and plays. -/
def spoiltEngine : Engine :=
  run [.stepForward, .play]
    (create spoiltHistory Options.standard true { Schedule.initial true with now := 5.0 } []).state

theorem leftBehind_run_of_spoilt :
    spoiltEngine.content = ['a'] ∧
      LeftBehind spoiltEngine (some (.whole 1)) (.notACommand ⟨.str "x"⟩) (perform .fire spoiltEngine).state ∧
      ∃ e', Fires spoiltEngine e' ∧ LeftBehind e' (some (e'.cursor.moved 1)) (.notACommand ⟨.str "x"⟩)
        (perform (.advance 1.0) spoiltEngine).state := by
  obtain ⟨shown, single, passing⟩ :=
    leftBehind_run spoiltHistory Options.standard true true 5.0 [] [.stepForward, .play]
  exact ⟨shown _ rfl, single .fire _ nofun rfl, passing 1.0 _ rfl⟩

end Engine

end EditHistory.Playback
