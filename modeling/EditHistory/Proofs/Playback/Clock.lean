import EditHistory.Proofs.Playback.Calls
import EditHistory.Proofs.Playback.Frames

/-!
# One timer at a time

An engine holds a timer exactly while it plays, and the timer it holds is the only one of its schedule that is going.
Playing, pausing, resetting, closing and reaching the end all stop the timer in hand before they do anything else, so
no timer is ever left behind; and a tick may fail or stop its own timer, because the next call is on the schedule
before the tick begins.

## Main definitions

* `Engine.IsWound` — the timer in hand is the only one that is going
* `Engine.KeepsTime` — the mode fits the timer in hand

## Main statements

* `Engine.keepsTime_perform` — every operation keeps the invariant, whether it succeeds or fails
* `Engine.plays_iff_timer_waits` — what it means for every run
-/

namespace EditHistory.Playback

namespace Engine

/-- The schedule is in order, and the timer in hand is the only one that is going. -/
structure IsWound (e : Engine) : Prop where
  orderly : e.schedule.IsOrderly none
  held : ∀ timer, e.schedule.isActive timer = true ↔ e.timer = some timer

/-- **The invariant of the clock.**  An engine with a timer plays, and an engine without one is idle or paused. -/
structure KeepsTime (e : Engine) : Prop extends IsWound e where
  playing : e.timer ≠ none → e.mode = .playing
  resting : e.timer = none → e.mode = .idle ∨ e.mode = .paused

/-- Neither property sees the page. -/
theorem KeepsTime.of_sameClock {e e' : Engine} (keeps : e.KeepsTime) (same : SameClock e e') :
    e'.KeepsTime := by
  obtain ⟨-, mode, timer, schedule⟩ := same
  refine ⟨⟨?_, ?_⟩, ?_, ?_⟩
  · rw [schedule]
    exact keeps.orderly
  · rw [schedule, timer]
    exact keeps.held
  · rw [timer, mode]
    exact keeps.playing
  · rw [timer, mode]
    exact keeps.resting

/-- An engine that does not play has no timer in hand. -/
theorem KeepsTime.timer_eq_none {e : Engine} (keeps : e.KeepsTime) (rests : e.mode ≠ .playing) :
    e.timer = none := by
  by_contra held
  exact rests (keeps.playing held)

theorem keepsTime_initial (revisions : List Revision) (options : Options)
    (keepsSnapshots keepsCancelled : Bool) (now : Float) (timerLog : Log) :
    (initial revisions options keepsSnapshots { Schedule.initial keepsCancelled with now }
      timerLog).KeepsTime := by
  refine ⟨⟨(Schedule.orderly_initial keepsCancelled).at_time now, ?_⟩, ?_, fun _ => Or.inl rfl⟩
  · intro timer
    constructor
    · intro active
      cases active
    · intro held
      cases held
  · intro held
    exact absurd rfl held

/-! ### Stopping and starting -/

theorem timer_stopTimer (e : Engine) : e.stopTimer.timer = none := by
  unfold stopTimer
  split
  · assumption
  · rfl

theorem stopTimer_of_free {e : Engine} (free : e.timer = none) : e.stopTimer = e := by
  unfold stopTimer
  rw [free]

/-- **Stopping the timer in hand** leaves no timer going. -/
theorem wound_stopTimer {e : Engine} (wound : e.IsWound) : e.stopTimer.IsWound := by
  unfold stopTimer
  split
  · exact wound
  · rename_i timer held
    refine ⟨Schedule.orderly_stop wound.orderly timer, fun other => ?_⟩
    constructor
    · intro active
      rw [Schedule.isActive_stop, Bool.and_eq_true] at active
      have same : timer = other := Option.some.inj (held.symm.trans ((wound.held other).mp active.1))
      rw [same, bne_self_eq_false] at active
      cases active.2
    · intro held
      cases held

/-- An engine that has stopped its timer may be idle or paused. -/
theorem keepsTime_stopTimer {e : Engine} (wound : e.IsWound) {mode : Mode}
    (rests : mode = .idle ∨ mode = .paused) : KeepsTime { e.stopTimer with mode } := by
  have stopped := wound_stopTimer wound
  refine ⟨⟨stopped.orderly, stopped.held⟩, ?_, fun _ => rests⟩
  intro held
  exact absurd (timer_stopTimer e) held

/-- **Starting a timer** when none is in hand.  A speed that gives no period changes nothing. -/
theorem keepsTime_startTimer {e : Engine} (keeps : e.KeepsTime) (free : e.timer = none) :
    (startTimer e).state.KeepsTime := by
  unfold startTimer
  split
  · exact keeps
  · rename_i period accepted
    refine ⟨⟨Schedule.orderly_start keeps.orderly period, fun other => ?_⟩, fun _ => rfl, nofun⟩
    -- No other timer is going, for the engine would hold it.
    have resting : e.schedule.isActive other = false := by
      rw [Bool.eq_false_iff]
      intro active
      rw [keeps.held, free] at active
      cases active
    simp only
    rw [Schedule.isActive_start, resting, Bool.or_false, decide_eq_true_iff, Option.some.injEq]
    exact eq_comm

theorem keepsTime_play {e : Engine} (keeps : e.KeepsTime) : (play e).state.KeepsTime := by
  unfold play
  split
  · exact keeps
  · rename_i rests
    have free := keeps.timer_eq_none rests
    -- There is nothing to stop: the timer is given up whenever playback ends.
    rw [stopTimer_of_free free]
    exact keepsTime_startTimer keeps free

theorem keepsTime_pause {e : Engine} (keeps : e.KeepsTime) : (pause e).state.KeepsTime := by
  unfold pause
  split
  · exact keepsTime_stopTimer keeps.toIsWound (Or.inr rfl)
  · exact keeps

theorem keepsTime_toggle {e : Engine} (keeps : e.KeepsTime) : (toggle e).state.KeepsTime := by
  unfold toggle
  split
  · exact keepsTime_pause keeps
  · exact keepsTime_play keeps

theorem keepsTime_reset {e : Engine} (keeps : e.KeepsTime) : e.reset.KeepsTime :=
  (keepsTime_stopTimer keeps.toIsWound (Or.inl rfl)).of_sameClock ⟨rfl, rfl, rfl, rfl⟩

theorem keepsTime_close {e : Engine} (keeps : e.KeepsTime) : e.close.KeepsTime := by
  refine keepsTime_stopTimer keeps.toIsWound ?_
  split
  · exact Or.inr rfl
  · rename_i rests
    exact keeps.resting (keeps.timer_eq_none rests)

/-! ### Calls -/

/-- A tick moves the cursor, which may fail, and perhaps ends playback. -/
theorem keepsTime_tick {e : Engine} (keeps : e.KeepsTime) : (tick e).state.KeepsTime := by
  have moved := keeps.of_sameClock (sameClock_stepForward e)
  refine Step.andThen_keeps moved fun _ _ => ?_
  split
  · exact keepsTime_stopTimer moved.toIsWound (Or.inl rfl)
  · exact moved

/-- A schedule on which a call was made, and the same timers are going, serves as well as the one before. -/
theorem KeepsTime.with_schedule {e : Engine} (keeps : e.KeepsTime) {schedule : Schedule}
    (orderly : schedule.IsOrderly none)
    (same : ∀ timer, schedule.isActive timer = e.schedule.isActive timer) :
    KeepsTime { e with schedule } := by
  refine ⟨⟨orderly, fun timer => ?_⟩, keeps.playing, keeps.resting⟩
  simp only
  rw [same timer]
  exact keeps.held timer

/-- **Making any call**, at whatever time, keeps the invariant. -/
theorem keepsTime_fireAt {e : Engine} (keeps : e.KeepsTime) (place : Nat) :
    (fireAt place e).state.KeepsTime := by
  unfold fireAt
  cases fired : e.schedule.fireAt? place with
  | none => exact keeps
  | some made =>
      obtain ⟨c, others, taken, rfl⟩ := Schedule.exists_of_fireAt? fired
      obtain ⟨orderly, same⟩ := Schedule.orderly_make keeps.orderly taken
      -- The next call is on the schedule by now; what the tick does to the timer comes after.
      have after := keeps.with_schedule orderly same
      unfold serve
      split
      · exact keeps
      · rename_i schedule made
        rw [Option.some.inj made] at after
        exact after
      · rename_i schedule made
        rw [Option.some.inj made] at after
        exact keepsTime_tick after

/-- The schedule makes no call that could not be made by its place. -/
theorem exists_fire_eq_fireAt (e : Engine) : ∃ place, fire e = fireAt place e := by
  obtain ⟨place, same⟩ := e.schedule.exists_fire?_eq_fireAt?
  refine ⟨place, ?_⟩
  unfold fire fireAt
  rw [same]

theorem keepsTime_fire {e : Engine} (keeps : e.KeepsTime) : (fire e).state.KeepsTime := by
  obtain ⟨place, same⟩ := exists_fire_eq_fireAt e
  rw [same]
  exact keepsTime_fireAt keeps place

/-- **A call of a stopped timer** is taken off the schedule, and nothing else happens. -/
theorem fireAt_of_not_active {e : Engine} {place : Nat} {c : Call}
    (waiting : e.schedule.calls[place]? = some c) (resting : e.schedule.isActive c.timer = false) :
    fireAt place e = .done true { e with schedule :=
      { e.schedule with now := c.time, calls := e.schedule.calls.eraseIdx place } } := by
  unfold fireAt Schedule.fireAt?
  rw [waiting, Option.map_some, Schedule.make_of_not_active resting]
  rfl

/-! ### Runs -/

/-- Every operation keeps the invariant, whether it succeeds or fails. -/
theorem keepsTime_perform (op : Operation) {e : Engine} (keeps : e.KeepsTime) :
    (perform op e).state.KeepsTime := by
  cases op with
  | play => exact keepsTime_play keeps
  | pause => exact keepsTime_pause keeps
  | toggle => exact keepsTime_toggle keeps
  | reset => exact keepsTime_reset keeps
  | close => exact keepsTime_close keeps
  | stepForward => exact keeps.of_sameClock (sameClock_stepForward e)
  | stepBackward => exact keeps.of_sameClock (sameClock_stepBackward e)
  | jump target => exact keeps.of_sameClock (sameClock_jump target e)
  | jumpToEnd => exact keeps.of_sameClock (sameClock_jumpToEnd e)
  | setOptions options => exact keeps.of_sameClock (sameClock_setOptions options e)
  | verify => exact keeps
  | status => exact keeps
  | fire => exact keepsTime_fire keeps
  | fireAt place => exact keepsTime_fireAt keeps place
  | advance seconds =>
      exact advance_keeps (P := KeepsTime) (fun _ h => keepsTime_fire h)
        (fun _ now h => h.with_schedule (h.orderly.at_time now) fun _ => rfl) seconds keeps

theorem keepsTime_run (ops : List Operation) {e : Engine} (keeps : e.KeepsTime) :
    (run ops e).KeepsTime := by
  induction ops generalizing e with
  | nil => exact keeps
  | cons op ops ih => exact ih (keepsTime_perform op keeps)

/-- An engine that plays holds a timer that is going, and the schedule has exactly one call for it. -/
theorem KeepsTime.playing_iff {e : Engine} (keeps : e.KeepsTime) :
    e.mode = .playing ↔ ∃ timer, e.timer = some timer ∧ e.schedule.isActive timer = true ∧
      ∃ c, e.schedule.live timer = [c] := by
  constructor
  · intro playing
    cases held : e.timer with
    | none =>
        rcases keeps.resting held with idle | paused
        · rw [idle] at playing
          cases playing
        · rw [paused] at playing
          cases playing
    | some timer =>
        have active := (keeps.held timer).mpr held
        exact ⟨timer, rfl, active, Schedule.live_of_active keeps.orderly active⟩
  · rintro ⟨timer, held, -⟩
    refine keeps.playing ?_
    rw [held]
    nofun

/-- A call that is not cancelled belongs to the timer in hand. -/
theorem KeepsTime.timer_of_call {e : Engine} (keeps : e.KeepsTime) {c : Call}
    (waiting : c ∈ e.schedule.calls) (valid : c.cancelled = false) : e.timer = some c.timer := by
  refine (keeps.held c.timer).mp ?_
  by_contra resting
  have none := Schedule.live_of_not_active keeps.orderly (Bool.eq_false_iff.mpr resting)
  have here : c ∈ e.schedule.live c.timer := Schedule.mem_live.mpr ⟨waiting, rfl, valid⟩
  rw [none] at here
  cases here

/-- **The clock after every run.**  Whether the schedule keeps cancelled calls or not, and whatever is done with the
engine in whatever order, calls made at any time among it: the engine is idle, playing or paused.  It plays just when
it holds a timer, which then is going and has exactly one call that is not cancelled.  Otherwise all calls are
cancelled.  The call of a stopped timer, when it is made, changes nothing but the schedule it leaves. -/
theorem plays_iff_timer_waits (revisions : List Revision) (options : Options)
    (keepsSnapshots keepsCancelled : Bool) (now : Float) (timerLog : Log) (ops : List Operation) :
    let e := run ops (create revisions options keepsSnapshots
      { Schedule.initial keepsCancelled with now } timerLog).state
    (e.mode = .idle ∨ e.mode = .playing ∨ e.mode = .paused) ∧
      (e.mode = .playing ↔ ∃ timer, e.timer = some timer ∧ e.schedule.isActive timer = true ∧
        ∃ c, e.schedule.live timer = [c]) ∧
      (∀ c ∈ e.schedule.calls, c.cancelled = false → e.mode = .playing ∧ e.timer = some c.timer) ∧
      (∀ place c, e.schedule.calls[place]? = some c → e.schedule.isActive c.timer = false →
        fireAt place e = .done true { e with schedule :=
          { e.schedule with now := c.time, calls := e.schedule.calls.eraseIdx place } }) := by
  intro e
  have keeps : e.KeepsTime := keepsTime_run ops <|
    create_has (keepsTime_initial revisions options keepsSnapshots keepsCancelled now timerLog)
      fun _ => keepsTime_play
  refine ⟨?_, keeps.playing_iff, ?_, fun place c => fireAt_of_not_active⟩
  · by_cases playing : e.mode = .playing
    · exact Or.inr (Or.inl playing)
    · rcases keeps.resting (keeps.timer_eq_none playing) with idle | paused
      · exact Or.inl idle
      · exact Or.inr (Or.inr paused)
  · intro c waiting valid
    have held := keeps.timer_of_call waiting valid
    refine ⟨keeps.playing ?_, held⟩
    rw [held]
    nofun

end Engine

end EditHistory.Playback
