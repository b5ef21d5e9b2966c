import EditHistory.Playback.Speeds
import EditHistory.Proofs.Number.Quotient
import EditHistory.Proofs.Playback.Clock

/-!
# The period of the timer

The timer that an engine holds has the period of the speed at which it was started.  A change of the options leaves it
as it is, so the two fit until the options are changed, and again after playback was paused and started.  The period of
every positive speed is one that a timer can have, though it may be infinite.

## Main definitions

* `Schedule.period?` — the period of a timer
* `Engine.IsPaced` — the timer in hand fits the speed

## Main statements

* `Engine.readPeriod_interval` — every positive speed has a period
* `Engine.paced_perform` — every operation but a change of the options keeps the pace
* `Engine.play_of_resting` — starting playback
-/

namespace EditHistory.Playback

open Number

/-! ### Periods -/

theorem compareMagnitude_zero {m : Nat} (positive : 0 < m) (q : Int) : compareMagnitude m q 0 = .gt := by
  unfold compareMagnitude
  split
  · exact Nat.compare_eq_gt.mpr (Nat.mul_pos positive (Nat.pow_pos two_pos))
  · rw [Nat.zero_mul]
    exact Nat.compare_eq_gt.mpr positive

/-- A positive double, infinite or not, is greater than zero. -/
theorem compareInt?_of_isLarge {least : Int} {x : Float} (large : IsLarge least x) : compareInt? x 0 = some .gt := by
  unfold compareInt?
  rcases large with infinite | ⟨m, q, positive, -, finite⟩
  · rw [infinite]
    rfl
  · rw [finite]
    exact congrArg some (compareMagnitude_zero positive q)

theorem le_zero_of_isLarge {least : Int} {x : Float} (large : IsLarge least x) :
    Number.le (.float x) (.int 0) = false := by
  unfold Number.le
  simp only [compareInt?_of_isLarge large]
  rfl

/-- A positive double, infinite or not, is a period. -/
theorem readPeriod_of_isLarge {least : Int} {x : Float} (large : IsLarge least x) :
    readPeriod (.float x) = .ok x := by
  show (if Number.le (.float x) (.int 0) then _ else _) = _
  rw [le_zero_of_isLarge large]
  rfl

/-- Options can be given any positive speed. -/
theorem Options.update_speed {speed : Float} (positive : IsPositive speed) (o : Options) :
    o.update (.object [("speed", .float speed)]) = .ok { o with speed } := by
  obtain ⟨least, large⟩ := positive.isLarge
  have read : readSpeed (.float speed) = .ok speed := by
    show (if Number.le (.float speed) (.int 0) then _ else _) = _
    rw [le_zero_of_isLarge large]
    rfl
  show (readSpeed (.float speed)).map _ = _
  rw [read]
  rfl

theorem parts_hundred : parts 100.0 = .finite false (100 * 2 ^ 46) (-46) := by decide +kernel

theorem parts_thousand : parts 1000.0 = .finite false (1000 * 2 ^ 43) (-43) := by decide +kernel

theorem parts_speedSteps :
    speedSteps.map parts = [-54, -53, -52, -51, -50, -49].map (Parts.finite false (2 ^ 52)) := by decide +kernel

/-- The speeds of the list are positive. -/
theorem isPositive_of_mem_speedSteps {speed : Float} (step : speed ∈ speedSteps) : IsPositive speed := by
  have mem := List.mem_map_of_mem (f := parts) step
  rw [parts_speedSteps] at mem
  obtain ⟨q, -, here⟩ := List.mem_map.mp mem
  exact ⟨2 ^ 52, q, Nat.two_pow_pos 52, here.symm⟩

theorem moveIndex_lt (index : Nat) (delta : Int) : moveIndex speedSteps.length index delta < speedSteps.length := by
  have six : speedSteps.length = 6 := rfl
  unfold moveIndex
  omega

/-- Changing the speed by some steps leads to a speed of the list. -/
theorem stepSpeed_mem (delta : Int) (speed : Float) : stepSpeed delta speed ∈ speedSteps := by
  have inside := moveIndex_lt (nearestIndex speed speedSteps) delta
  unfold stepSpeed
  rw [List.getD_eq_getElem _ _ inside]
  exact List.getElem_mem inside

theorem isPositive_stepSpeed (delta : Int) (speed : Float) : IsPositive (stepSpeed delta speed) :=
  isPositive_of_mem_speedSteps (stepSpeed_mem delta speed)

/-- A period read from a double is this double. -/
theorem eq_of_readPeriod {x period : Float} (read : readPeriod (.float x) = .ok period) : period = x := by
  unfold readPeriod at read
  simp only [Value.number?, Number.toFloat?] at read
  split at read
  · cases read
  · exact (Except.ok.inj read).symm

namespace Schedule

/-- The period of a timer. -/
def period? (s : Schedule) (timer : Nat) : Option Float :=
  s.timers[timer]?.map Timer.period

theorem period?_arm (s : Schedule) (timer : Nat) (period : Float) (other : Nat) :
    (s.arm timer period).period? other = s.period? other := by
  unfold arm period?
  rw [List.getElem?_modify]
  cases s.timers[other]? with
  | none => rfl
  | some t =>
      by_cases same : timer = other <;> simp [same]

/-- A timer that is started has the period that it is given. -/
theorem period?_start (s : Schedule) (period : Float) :
    (s.start period).2.period? (s.start period).1 = some period := by
  unfold start
  simp only
  rw [period?_arm, period?, List.getElem?_append_right (Nat.le_refl _), Nat.sub_self]
  rfl

theorem period?_make (s : Schedule) (c : Call) (others : List Call) (timer : Nat) :
    (s.make c others).2.period? timer = s.period? timer := by
  unfold make
  simp only
  split
  · split
    · exact period?_arm _ _ _ timer
    · rfl
  · rfl

end Schedule

namespace Engine

/-- **Every positive speed has a period.** -/
theorem readPeriod_interval {e : Engine} (positive : IsPositive e.options.speed) :
    readPeriod (.float e.interval) = .ok e.interval := by
  obtain ⟨m, q, some, here⟩ := positive
  -- Even the largest speed leaves a period that is far above the smallest double, so it is not rounded to zero.
  have hundred : IsLarge 7 100.0 := Or.inr ⟨_, _, by decide, by decide, parts_hundred⟩
  have quotient : IsLarge (7 - 1024) (100.0 / e.options.speed) :=
    isLarge_div hundred some here (totalExponent_le some here) (by decide)
  have interval : IsLarge (7 - 1024 - 10) e.interval :=
    isLarge_div quotient (by decide) parts_thousand (by decide) (by decide)
  exact readPeriod_of_isLarge interval

/-! ### The options stay -/

theorem options_stopTimer (e : Engine) : e.stopTimer.options = e.options := by
  unfold stopTimer
  split <;> rfl

theorem options_moveTo (cursor : Cursor) (e : Engine) : (moveTo cursor e).state.options = e.options := by
  rw [moveTo, Step.state_map]
  unfold rebuild
  split
  · rfl
  · unfold rebuildAt settle
    split <;> rfl
  · rfl

theorem options_stepForward (e : Engine) : (stepForward e).state.options = e.options :=
  stepForward_keeps (P := fun e' : Engine => e'.options = e.options)
    (fun e' cursor same => (options_moveTo cursor e').trans same) rfl

theorem options_stepBackward (e : Engine) : (stepBackward e).state.options = e.options :=
  stepBackward_keeps (P := fun e' : Engine => e'.options = e.options)
    (fun e' cursor same => (options_moveTo cursor e').trans same) rfl

theorem options_jump (v : Value) (e : Engine) : (jump v e).state.options = e.options :=
  jump_keeps (P := fun e' : Engine => e'.options = e.options)
    (fun e' cursor same => (options_moveTo cursor e').trans same) v rfl

theorem options_play (e : Engine) : (play e).state.options = e.options := by
  unfold play startTimer
  split
  · rfl
  · split <;> exact options_stopTimer e

theorem options_pause (e : Engine) : (pause e).state.options = e.options := by
  unfold pause
  split
  · exact options_stopTimer e
  · rfl

theorem options_toggle (e : Engine) : (toggle e).state.options = e.options := by
  unfold toggle
  split
  · exact options_pause e
  · exact options_play e

theorem options_serve (made : Option (Option Nat × Schedule)) (e : Engine) :
    (serve made e).state.options = e.options := by
  unfold serve
  split
  · rfl
  · rfl
  · rename_i schedule
    have moved : (stepForward { e with schedule }).state.options = e.options := options_stepForward _
    refine Step.andThen_keeps (P := fun e' : Engine => e'.options = e.options) moved fun _ _ => ?_
    split
    · exact (options_stopTimer _).trans moved
    · exact moved

/-- **Only a change of the options changes them.** -/
theorem options_perform {op : Operation} (fixed : ∀ v, op ≠ .setOptions v) (e : Engine) :
    (perform op e).state.options = e.options := by
  cases op with
  | play => exact options_play e
  | pause => exact options_pause e
  | toggle => exact options_toggle e
  | reset => exact options_stopTimer e
  | close => exact options_stopTimer e
  | stepForward => exact options_stepForward e
  | stepBackward => exact options_stepBackward e
  | jump target => exact options_jump target e
  | jumpToEnd => exact options_jump _ e
  | setOptions v => exact absurd rfl (fixed v)
  | verify => rfl
  | status => rfl
  | fire => exact options_serve _ e
  | fireAt place => exact options_serve _ e
  | advance seconds =>
      exact advance_keeps (P := fun e' : Engine => e'.options = e.options)
        (fun e' same => (options_serve _ e').trans same) (fun _ _ same => same) seconds rfl

/-! ### The pace -/

/-- **The timer in hand fits the speed** of the options. -/
structure IsPaced (options : Options) (e : Engine) : Prop where
  options : e.options = options
  period : ∀ timer, e.timer = some timer → e.schedule.period? timer = some e.interval

variable {o : Options} {e e' : Engine}

/-- An engine without a timer is at every pace. -/
theorem paced_of_free (same : e.options = o) (free : e.timer = none) : IsPaced o e := by
  refine ⟨same, fun timer held => ?_⟩
  rw [free] at held
  cases held

theorem IsPaced.of_sameClock (paced : IsPaced o e) (same : SameClock e e') (kept : e'.options = e.options) :
    IsPaced o e' := by
  refine ⟨kept.trans paced.options, fun timer held => ?_⟩
  rw [same.timer] at held
  rw [same.schedule, paced.period timer held, interval, interval, kept]

theorem paced_stopTimer (paced : IsPaced o e) : IsPaced o e.stopTimer :=
  paced_of_free ((options_stopTimer e).trans paced.options) (timer_stopTimer e)

theorem paced_startTimer (paced : IsPaced o e) : IsPaced o (startTimer e).state := by
  unfold startTimer
  split
  · exact paced
  · rename_i period read
    refine ⟨paced.options, fun timer held => ?_⟩
    obtain rfl := eq_of_readPeriod read
    rw [← Option.some.inj held]
    exact Schedule.period?_start _ _

theorem paced_play (paced : IsPaced o e) : IsPaced o (play e).state := by
  unfold play
  split
  · exact paced
  · exact paced_startTimer (paced_stopTimer paced)

theorem paced_pause (paced : IsPaced o e) : IsPaced o (pause e).state := by
  unfold pause
  split
  · exact paced_of_free (paced_stopTimer paced).options (timer_stopTimer e)
  · exact paced

theorem paced_toggle (paced : IsPaced o e) : IsPaced o (toggle e).state := by
  unfold toggle
  split
  · exact paced_pause paced
  · exact paced_play paced

theorem paced_reset (paced : IsPaced o e) : IsPaced o e.reset :=
  paced_of_free (paced_stopTimer paced).options (timer_stopTimer e)

theorem paced_close (paced : IsPaced o e) : IsPaced o e.close :=
  paced_of_free (paced_stopTimer paced).options (timer_stopTimer e)

theorem paced_stepForward (paced : IsPaced o e) : IsPaced o (stepForward e).state :=
  paced.of_sameClock (sameClock_stepForward e) (options_stepForward e)

theorem paced_tick (paced : IsPaced o e) : IsPaced o (tick e).state := by
  have moved := paced_stepForward paced
  refine Step.andThen_keeps moved fun _ _ => ?_
  split
  · exact paced_of_free (paced_stopTimer moved).options (timer_stopTimer _)
  · exact moved

/-- A call that is made leaves all periods as they are. -/
theorem paced_fireAt (paced : IsPaced o e) (place : Nat) : IsPaced o (fireAt place e).state := by
  unfold fireAt Schedule.fireAt?
  cases e.schedule.calls[place]? with
  | none => exact paced
  | some c =>
      have same := e.schedule.period?_make c (e.schedule.calls.eraseIdx place)
      rw [Option.map_some]
      generalize e.schedule.make c (e.schedule.calls.eraseIdx place) = made at same
      have after : IsPaced o { e with schedule := made.2 } :=
        ⟨paced.options, fun timer held => (same timer).trans (paced.period timer held)⟩
      obtain ⟨_ | timer, schedule⟩ := made
      · exact after
      · exact paced_tick after

theorem paced_fire (paced : IsPaced o e) : IsPaced o (fire e).state := by
  obtain ⟨place, same⟩ := exists_fire_eq_fireAt e
  rw [same]
  exact paced_fireAt paced place

/-- **Every operation but a change of the options** keeps the pace, whether it succeeds or fails. -/
theorem paced_perform {op : Operation} (fixed : ∀ v, op ≠ .setOptions v) (paced : IsPaced o e) :
    IsPaced o (perform op e).state := by
  cases op with
  | play => exact paced_play paced
  | pause => exact paced_pause paced
  | toggle => exact paced_toggle paced
  | reset => exact paced_reset paced
  | close => exact paced_close paced
  | stepForward => exact paced_stepForward paced
  | stepBackward => exact paced.of_sameClock (sameClock_stepBackward e) (options_stepBackward e)
  | jump target => exact paced.of_sameClock (sameClock_jump target e) (options_jump target e)
  | jumpToEnd => exact paced.of_sameClock (sameClock_jumpToEnd e) (options_jump _ e)
  | setOptions v => exact absurd rfl (fixed v)
  | verify => exact paced
  | status => exact paced
  | fire => exact paced_fire paced
  | fireAt place => exact paced_fireAt paced place
  | advance seconds =>
      exact advance_keeps (P := IsPaced o) (fun _ paced => paced_fire paced)
        (fun _ _ paced => ⟨paced.options, paced.period⟩) seconds paced

/-! ### Another speed -/

/-- The engine with another speed. -/
def atSpeed (e : Engine) (speed : Float) : Engine :=
  { e with options := { e.options with speed } }

theorem setOptions_speed {speed : Float} (positive : IsPositive speed) (e : Engine) :
    setOptions (.object [("speed", .float speed)]) e = .done () (e.atSpeed speed) := by
  rw [setOptions, Options.update_speed positive]
  rfl

theorem perform_setOptions_speed {speed : Float} (positive : IsPositive speed) (e : Engine) :
    (perform (.setOptions (.object [("speed", .float speed)])) e).state = e.atSpeed speed := by
  show (setOptions _ e).state = _
  rw [setOptions_speed positive]
  rfl

/-! ### Starting playback -/

/-- **Starting playback** succeeds at every positive speed. -/
theorem play_of_resting (rests : e.mode ≠ .playing) (positive : IsPositive e.options.speed) :
    (play e).state.mode = .playing ∧ (play e).outcome = .ok true := by
  have read : readPeriod (.float e.stopTimer.interval) = .ok e.stopTimer.interval :=
    readPeriod_interval ((options_stopTimer e).symm ▸ positive)
  unfold play
  rw [if_neg rests, startTimer, read]
  exact ⟨rfl, rfl⟩

/-- Pausing leaves no timer in hand. -/
theorem pause_of_playing (playing : e.mode = .playing) :
    (pause e).state.mode = .paused ∧ (pause e).state.options = e.options ∧ (pause e).state.timer = none := by
  rw [pause, if_pos playing]
  exact ⟨rfl, options_stopTimer e, timer_stopTimer e⟩

theorem toggle_of_playing (playing : e.mode = .playing) : (toggle e).state.mode = .paused := by
  rw [toggle, if_pos playing]
  exact (pause_of_playing playing).1

theorem toggle_of_resting (rests : e.mode ≠ .playing) (positive : IsPositive e.options.speed) :
    (toggle e).state.mode = .playing := by
  rw [toggle, if_neg rests]
  exact (play_of_resting rests positive).1

end Engine

end EditHistory.Playback
