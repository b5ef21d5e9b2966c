import EditHistory.Playback.Operation
import EditHistory.Proofs.Steps

/-!
# What an operation leaves alone

An engine has two sides that hardly touch: the page, that is the history with the cursor and the text shown, and the
clock, that is the mode, the timer and the schedule.  Moving the cursor leaves the clock alone, and starting or stopping
playback leaves the page alone.  A tick does both, in sequence.

## Main definitions

* `Engine.SamePage`, `Engine.SameClock` — two engines that agree on one side

## Main statements

* `Engine.samePage_play` and its like — operations on the clock
* `Engine.sameClock_moveTo` and its like — operations on the page
* `Engine.serve_keeps` — what a step forward keeps is kept by every call of the schedule
* `Engine.advance_keeps` — what every call of the schedule keeps is kept while time passes
* `Engine.perform_keeps` — what the moves keep is kept by every operation
-/

namespace EditHistory.Playback

namespace Engine

/-- Two engines with one history, at one cursor, with one text and the same snapshots. -/
structure SamePage (e e' : Engine) : Prop where
  revisions : e'.revisions = e.revisions
  keepsSnapshots : e'.keepsSnapshots = e.keepsSnapshots
  snapshots : e'.snapshots = e.snapshots
  cursor : e'.cursor = e.cursor
  content : e'.content = e.content

/-- Two engines with one history, in one mode, with one timer on one schedule. -/
structure SameClock (e e' : Engine) : Prop where
  revisions : e'.revisions = e.revisions
  mode : e'.mode = e.mode
  timer : e'.timer = e.timer
  schedule : e'.schedule = e.schedule

theorem SamePage.refl (e : Engine) : SamePage e e := ⟨rfl, rfl, rfl, rfl, rfl⟩

theorem SamePage.trans {e f g : Engine} (first : SamePage e f) (second : SamePage f g) :
    SamePage e g :=
  ⟨second.revisions.trans first.revisions, second.keepsSnapshots.trans first.keepsSnapshots,
    second.snapshots.trans first.snapshots, second.cursor.trans first.cursor,
    second.content.trans first.content⟩

theorem SameClock.refl (e : Engine) : SameClock e e := ⟨rfl, rfl, rfl, rfl⟩

/-! ### The page -/

theorem samePage_stopTimer (e : Engine) : SamePage e e.stopTimer := by
  unfold stopTimer
  split <;> exact ⟨rfl, rfl, rfl, rfl, rfl⟩

/-- Stopping the timer and a change of mode leave the page alone. -/
theorem samePage_stopTimer_mode (e : Engine) (mode : Mode) : SamePage e { e.stopTimer with mode } :=
  (samePage_stopTimer e).trans ⟨rfl, rfl, rfl, rfl, rfl⟩

theorem samePage_startTimer (e : Engine) : SamePage e (startTimer e).state := by
  unfold startTimer
  split <;> exact ⟨rfl, rfl, rfl, rfl, rfl⟩

theorem samePage_play (e : Engine) : SamePage e (play e).state := by
  unfold play
  split
  · exact SamePage.refl e
  · exact (samePage_stopTimer e).trans (samePage_startTimer _)

theorem samePage_pause (e : Engine) : SamePage e (pause e).state := by
  unfold pause
  split
  · exact samePage_stopTimer_mode e .paused
  · exact SamePage.refl e

theorem samePage_toggle (e : Engine) : SamePage e (toggle e).state := by
  unfold toggle
  split
  · exact samePage_pause e
  · exact samePage_play e

theorem samePage_close (e : Engine) : SamePage e e.close :=
  samePage_stopTimer_mode e _

theorem samePage_finish (e : Engine) : SamePage e e.finish.state :=
  samePage_stopTimer_mode e .idle

theorem samePage_setOptions (v : Value) (e : Engine) : SamePage e (setOptions v e).state := by
  unfold setOptions
  split <;> exact ⟨rfl, rfl, rfl, rfl, rfl⟩

/-! ### The clock -/

theorem sameClock_settle (e : Engine) (replayed : Step (List Snapshot) NotACommand Document) :
    SameClock e (e.settle replayed).state := by
  unfold settle
  split <;> exact ⟨rfl, rfl, rfl, rfl⟩

theorem sameClock_moveTo (cursor : Cursor) (e : Engine) : SameClock e (moveTo cursor e).state := by
  rw [moveTo, Step.state_map]
  unfold rebuild
  split
  · exact ⟨rfl, rfl, rfl, rfl⟩
  · obtain ⟨revisions, mode, timer, schedule⟩ :=
      sameClock_settle { e with cursor } (replayTo { e with cursor } _)
    exact ⟨revisions, mode, timer, schedule⟩
  · exact ⟨rfl, rfl, rfl, rfl⟩

theorem sameClock_stepForward (e : Engine) : SameClock e (stepForward e).state := by
  unfold stepForward
  split
  · exact SameClock.refl e
  · exact sameClock_moveTo _ e

theorem sameClock_stepBackward (e : Engine) : SameClock e (stepBackward e).state := by
  unfold stepBackward
  split
  · exact SameClock.refl e
  · exact sameClock_moveTo _ e

theorem sameClock_jump (v : Value) (e : Engine) : SameClock e (jump v e).state := by
  unfold jump
  split
  · exact SameClock.refl e
  · exact sameClock_moveTo _ e

theorem sameClock_jumpToEnd (e : Engine) : SameClock e (jumpToEnd e).state :=
  sameClock_jump _ e

theorem sameClock_setOptions (v : Value) (e : Engine) : SameClock e (setOptions v e).state := by
  unfold setOptions
  split <;> exact ⟨rfl, rfl, rfl, rfl⟩

/-! ### Time -/

section Keeping

variable {P : Engine → Prop} (page : ∀ {e e' : Engine}, P e → SamePage e e' → P e')
  (stepped : ∀ e, P e → P (stepForward e).state)

include page stepped

/-- What a step forward keeps and does not depend on the clock is kept by a tick. -/
theorem tick_keeps {e : Engine} (holds : P e) : P (tick e).state := by
  have moved := stepped e holds
  refine Step.andThen_keeps moved fun _ _ => ?_
  split
  · exact page moved (samePage_finish _)
  · exact moved

/-- And so it is by every call. -/
theorem serve_keeps (made : Option (Option Nat × Schedule)) {e : Engine} (holds : P e) :
    P (serve made e).state := by
  have rescheduled (schedule : Schedule) : P { e with schedule } := page holds ⟨rfl, rfl, rfl, rfl, rfl⟩
  unfold serve
  split
  · exact holds
  · exact rescheduled _
  · exact tick_keeps page stepped (rescheduled _)

end Keeping

/-- What every call keeps is kept while calls are made, however many. -/
theorem fireUntil_keeps {P : Engine → Prop} (fired : ∀ e, P e → P (fire e).state)
    (time : Float) (count limit : Nat) {e : Engine} (holds : P e) :
    P (fireUntil time count limit e).state := by
  induction limit generalizing count e with
  | zero => exact holds
  | succ limit ih =>
      unfold fireUntil
      split
      · exact Step.andThen_keeps (fired e holds) fun _ _ => ih (count + 1) (fired e holds)
      · exact holds

/-- **While time passes** a property is kept that every call keeps and that does not depend on the time shown. -/
theorem advance_keeps {P : Engine → Prop} (fired : ∀ e, P e → P (fire e).state)
    (timed : ∀ e now, P e → P { e with schedule := { e.schedule with now } })
    (seconds : Float) {e : Engine} (holds : P e) : P (advance seconds e).state := by
  have made := fireUntil_keeps fired (e.schedule.now + seconds) 0 e.callLimit holds
  exact Step.andThen_keeps made fun _ _ => timed _ _ made

/-- **An operation keeps** what does not depend on the clock, if the moves keep it and a reset does.  Of the jumps only
the one that the operation makes is asked about. -/
theorem perform_keeps {P : Engine → Prop} (page : ∀ {e e' : Engine}, P e → SamePage e e' → P e')
    (forward : ∀ e, P e → P (stepForward e).state) (backward : ∀ e, P e → P (stepBackward e).state)
    (fresh : ∀ e, P e → P e.reset) (ended : ∀ e, P e → P (jumpToEnd e).state) {op : Operation}
    (jumped : ∀ v, op = .jump v → ∀ e, P e → P (jump v e).state) {e : Engine} (holds : P e) :
    P (perform op e).state := by
  have served (made : Option (Option Nat × Schedule)) {e : Engine} (holds : P e) : P (serve made e).state :=
    serve_keeps page forward made holds
  cases op with
  | play => exact page holds (samePage_play e)
  | pause => exact page holds (samePage_pause e)
  | toggle => exact page holds (samePage_toggle e)
  | reset => exact fresh e holds
  | close => exact page holds (samePage_close e)
  | stepForward => exact forward e holds
  | stepBackward => exact backward e holds
  | jump target => exact jumped target rfl e holds
  | jumpToEnd => exact ended e holds
  | setOptions options => exact page holds (samePage_setOptions options e)
  | verify => exact holds
  | status => exact holds
  | fire => exact served _ holds
  | fireAt place => exact served _ holds
  | advance seconds =>
      exact advance_keeps (fun _ holds => served _ holds) (fun _ _ holds => page holds ⟨rfl, rfl, rfl, rfl, rfl⟩)
        seconds holds

section Moving

variable {P : Engine → Prop} (moved : ∀ e cursor, P e → P (moveTo cursor e).state)

include moved

theorem stepForward_keeps {e : Engine} (holds : P e) : P (stepForward e).state := by
  unfold stepForward
  split
  · exact holds
  · exact moved e _ holds

theorem stepBackward_keeps {e : Engine} (holds : P e) : P (stepBackward e).state := by
  unfold stepBackward
  split
  · exact holds
  · exact moved e _ holds

theorem jump_keeps (v : Value) {e : Engine} (holds : P e) : P (jump v e).state := by
  unfold jump
  split
  · exact holds
  · exact moved e _ holds

/-- What a move to any place keeps is kept by every operation. -/
theorem perform_keeps_of_moveTo (page : ∀ {e e' : Engine}, P e → SamePage e e' → P e')
    (fresh : ∀ e, P e → P e.reset) (op : Operation) {e : Engine} (holds : P e) : P (perform op e).state :=
  perform_keeps page (fun _ => stepForward_keeps moved) (fun _ => stepBackward_keeps moved) fresh
    (fun _ => jump_keeps moved _) (fun v _ _ => jump_keeps moved v) holds

end Moving

/-! ### The history -/

theorem revisions_serve (made : Option (Option Nat × Schedule)) (e : Engine) :
    (serve made e).state.revisions = e.revisions :=
  serve_keeps (P := fun e' : Engine => e'.revisions = e.revisions) (fun same page => page.revisions.trans same)
    (fun e' same => (sameClock_stepForward e').revisions.trans same) made rfl

/-- No operation changes the history. -/
theorem revisions_perform (op : Operation) (e : Engine) :
    (perform op e).state.revisions = e.revisions :=
  perform_keeps_of_moveTo (P := fun e' : Engine => e'.revisions = e.revisions)
    (fun e' cursor same => (sameClock_moveTo cursor e').revisions.trans same)
    (fun same page => page.revisions.trans same)
    (fun e' same => (samePage_stopTimer e').revisions.trans same) op rfl

theorem revisions_run (ops : List Operation) (e : Engine) : (run ops e).revisions = e.revisions := by
  induction ops generalizing e with
  | nil => rfl
  | cons op ops ih => exact (ih (perform op e).state).trans (revisions_perform op e)

/-- An engine is made by setting it up and perhaps starting playback, so what both give has what it needs. -/
theorem create_has {P : Engine → Prop} {revisions : List Revision} {options : Options}
    {keepsSnapshots : Bool} {schedule : Schedule} {timerLog : Log}
    (holds : P (initial revisions options keepsSnapshots schedule timerLog))
    (played : ∀ e, P e → P (play e).state) :
    P (create revisions options keepsSnapshots schedule timerLog).state := by
  unfold create
  simp only
  split
  · exact Step.andThen_keeps holds fun _ _ => played _ holds
  · exact holds

theorem revisions_create (revisions : List Revision) (options : Options) (keepsSnapshots : Bool)
    (schedule : Schedule) (timerLog : Log) :
    (create revisions options keepsSnapshots schedule timerLog).state.revisions = revisions :=
  create_has (P := fun e : Engine => e.revisions = revisions) rfl
    fun e same => (samePage_play e).revisions.trans same

end Engine

end EditHistory.Playback
