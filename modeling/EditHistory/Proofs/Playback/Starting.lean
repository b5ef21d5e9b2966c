import EditHistory.Proofs.Playback.Options

/-!
# Starting playback

Two parties check two numbers.  The options check the speed, and the timer checks its period, which is a tenth of a
second divided by the speed.  A period may be hardly above zero, infinite, or not a number, and the timer takes it all
the same; so whatever speed the options accept, playback can be started, with one exception.  The options accept an
infinite speed, whose period is zero, and this the timer refuses.

## Main definitions

* `Engine.HasSpeed` — the speed is one that options accept
* `Engine.Starts` — a timer has been started, and nothing else has happened

## Main statements

* `Engine.hasSpeed_run` — every state that can be reached has such a speed
* `readPeriod_eq_error_iff_of_readSpeed` — the one value that is accepted as a speed and has no period
* `Engine.starts_unless_infinite` — starting playback in every state that can be reached
-/

namespace EditHistory.Playback

open Number

namespace Engine

/-! ### The speed -/

/-- The speed is one that options accept. -/
def HasSpeed (e : Engine) : Prop :=
  (Value.float e.options.speed).IsPositive ∨ (Value.float e.options.speed).IsNan

variable {e e' : Engine}

theorem HasSpeed.of_options (speed : e.HasSpeed) (same : e'.options = e.options) : e'.HasSpeed := by
  unfold HasSpeed
  rw [same]
  exact speed

/-- Options that are changed keep a speed that is accepted, or get one. -/
theorem hasSpeed_of_update {options : Options} {given : Value} (speed : e.HasSpeed)
    (updated : e.options.update given = .ok options) : HasSpeed { e with options } := by
  unfold Options.update at updated
  split at updated
  · obtain rfl := Except.ok.inj updated
    exact speed
  · obtain ⟨-, ⟨-, same⟩ | ⟨v, -, accepted, read⟩⟩ := Options.updateFields_eq_ok updated
    · unfold HasSpeed
      rw [same]
      exact speed
    · exact (Options.speed_of_toDouble accepted read).1
  · cases updated

theorem hasSpeed_perform (op : Operation) (speed : e.HasSpeed) : (perform op e).state.HasSpeed := by
  by_cases changes : ∃ given, op = .setOptions given
  · obtain ⟨given, rfl⟩ := changes
    show (setOptions given e).state.HasSpeed
    unfold setOptions
    split
    · rename_i updated
      exact hasSpeed_of_update speed updated
    · exact speed
  · exact speed.of_options (options_perform (fun given same => changes ⟨given, same⟩) e)

/-- **Every state that can be reached** has a speed that options accept. -/
theorem hasSpeed_run (ops : List Operation) (speed : e.HasSpeed) : (run ops e).HasSpeed := by
  induction ops generalizing e with
  | nil => exact speed
  | cons op ops ih => exact ih (hasSpeed_perform op speed)

/-- An engine that has been made was created with options that were accepted. -/
theorem exists_of_make {revisions : List Revision} {given : Value} {keepsSnapshots : Bool} {schedule : Schedule}
    {timerLog : Log} (made : make revisions given keepsSnapshots schedule timerLog = .ok e) :
    ∃ options, Options.standard.update given = .ok options ∧
      e = (create revisions options keepsSnapshots schedule timerLog).state := by
  unfold make at made
  split at made
  · cases made
  · rename_i options updated
    refine ⟨options, updated, ?_⟩
    simp only at made
    cases created : (create revisions options keepsSnapshots schedule timerLog).outcome with
    | error fault =>
        rw [created] at made
        cases made
    | ok done =>
        rw [created] at made
        exact (Except.ok.inj made).symm

/-- The speed of an engine that has been made is one that options accept. -/
theorem hasSpeed_of_make {revisions : List Revision} {given : Value} {keepsSnapshots : Bool} {schedule : Schedule}
    {timerLog : Log} (made : make revisions given keepsSnapshots schedule timerLog = .ok e) : e.HasSpeed := by
  obtain ⟨options, updated, rfl⟩ := exists_of_make made
  have standard : HasSpeed (initial revisions Options.standard keepsSnapshots schedule timerLog) :=
    .inl (.inr ⟨_, _, Nat.two_pow_pos 52, Options.parts_one⟩)
  exact create_has (P := HasSpeed) (hasSpeed_of_update standard updated)
    fun _ speed => speed.of_options (options_play _)

/-- The clock of an engine that has been made on a schedule without calls. -/
theorem keepsTime_of_make {revisions : List Revision} {given : Value} {keepsSnapshots keepsCancelled : Bool}
    {now : Float} {timerLog : Log}
    (made : make revisions given keepsSnapshots { Schedule.initial keepsCancelled with now } timerLog = .ok e) :
    e.KeepsTime := by
  obtain ⟨options, -, rfl⟩ := exists_of_make made
  exact create_has (keepsTime_initial revisions options keepsSnapshots keepsCancelled now timerLog)
    fun _ => keepsTime_play

/-! ### The period -/

/-- **Of the values that are accepted as a speed only infinity has no period** that a timer takes. -/
theorem readPeriod_eq_error_iff_of_readSpeed (e : Engine) {v : Value} {speed : Float}
    (read : Options.readSpeed v = .ok speed) :
    (∃ error, readPeriod (.float (e.atSpeed speed).interval) = .error error) ↔
      ∃ x, v = .float x ∧ parts x = .infinite false := by
  have accepted : v.IsPositive ∨ v.IsNan := by
    by_contra refused
    rw [Options.readSpeed_of_refused refused] at read
    cases read
  have double : v.toDouble = .ok speed := by
    rw [Options.readSpeed_of_accepted accepted] at read
    cases number : v.toDouble with
    | error fault =>
        rw [number] at read
        cases read
    | ok x =>
        rw [number] at read
        exact congrArg Except.ok (Except.ok.inj read)
  obtain ⟨kept, infinite⟩ := Options.speed_of_toDouble accepted double
  have refuses (error : PeriodError) :=
    readPeriod_interval_eq_error_iff (e := e.atSpeed speed) error kept
  rw [← infinite]
  constructor
  · rintro ⟨error, refused⟩
    exact ((refuses error).mp refused).2
  · intro atOnce
    exact ⟨_, (refuses _).mpr ⟨rfl, atOnce⟩⟩

/-- A speed that options accept has a period unless it is infinite. -/
theorem readPeriod_of_hasSpeed (speed : e.HasSpeed) (finite : parts e.options.speed ≠ .infinite false) :
    readPeriod (.float e.interval) = .ok e.interval := by
  cases read : readPeriod (.float e.interval) with
  | error error => exact absurd ((readPeriod_interval_eq_error_iff error speed).mp read).2 finite
  | ok period => exact congrArg Except.ok (eq_of_readPeriod read)

/-! ### The timer -/

/-- **A timer has been started**, and nothing else has happened: the engine plays with a timer that was not there
before and is the only one that is going, and one call more waits on the schedule, the only one of the timer that is
not cancelled, one period from now. -/
structure Starts (e e' : Engine) : Prop where
  page : SamePage e e'
  options : e'.options = e.options
  mode : e'.mode = .playing
  timer : e'.timer = some e.schedule.timers.length
  timers : e'.schedule.timers.length = e.schedule.timers.length + 1
  only : ∀ timer, e'.schedule.isActive timer = true ↔ timer = e.schedule.timers.length
  period : e'.schedule.period? e.schedule.timers.length = some e.interval
  calls : ∃ c, c.time = e.schedule.now + e.interval ∧ e'.schedule.calls = e.schedule.calls ++ [c] ∧
    e'.schedule.live e.schedule.timers.length = [c]

theorem startTimer_of_readPeriod {period : Float} (read : readPeriod (.float e.interval) = .ok period) :
    startTimer e = ⟨⟨e.timerLog ++ e.startLog, .ok true⟩,
      { e with timer := some (e.schedule.start period).1, schedule := (e.schedule.start period).2,
               mode := .playing }⟩ := by
  rw [startTimer, read]

/-- An engine that keeps time starts a timer if its speed has a period. -/
theorem starts_play (keeps : e.KeepsTime) (rests : e.mode ≠ .playing)
    (read : readPeriod (.float e.interval) = .ok e.interval) :
    (play e).outcome = .ok true ∧ Starts e (play e).state := by
  have after : (play e).state.KeepsTime := keepsTime_play keeps
  have free := keeps.timer_eq_none rests
  have started : play e = startTimer e := by
    rw [play, if_neg rests, stopTimer_of_free free]
  have page := samePage_play e
  rw [started, startTimer_of_readPeriod read] at after page ⊢
  have only (timer : Nat) : (e.schedule.start e.interval).2.isActive timer = true ↔ timer = e.schedule.timers.length :=
    (after.held timer).trans (by rw [Option.some.injEq]; exact eq_comm)
  refine ⟨rfl, page, rfl, rfl, rfl, ?_, only, Schedule.period?_start _ _, ?_⟩
  · exact (List.length_modify _ _ _).trans (List.length_append.trans rfl)
  · -- The new call is one of the timer that is not cancelled, and of these there is one.
    obtain ⟨d, live⟩ := Schedule.live_of_active after.orderly ((only _).mpr rfl)
    let c : Call := ⟨e.schedule.count, e.schedule.now + e.interval, e.schedule.timers.length, false⟩
    have here : c ∈ (e.schedule.start e.interval).2.live e.schedule.timers.length :=
      Schedule.mem_live.mpr ⟨List.mem_append_right e.schedule.calls List.mem_cons_self, rfl, rfl⟩
    rw [live] at here
    refine ⟨c, rfl, rfl, ?_⟩
    rw [List.mem_singleton.mp here]
    exact live

/-- **Starting playback**, whatever options an engine has been made with and whatever has been done with it since, the
options changed among it.  If it does not play, playback starts, with one timer more and one call more, unless the speed
is infinite.  Then it fails, because the period would be zero, and leaves the engine as it was.  And infinity is the
only value that the options accept as a speed although the timer refuses its period. -/
theorem starts_unless_infinite {revisions : List Revision} {given : Value} {keepsSnapshots keepsCancelled : Bool}
    {now : Float} {timerLog : Log} {e₀ : Engine}
    (made : make revisions given keepsSnapshots { Schedule.initial keepsCancelled with now } timerLog = .ok e₀)
    (ops : List Operation) (rests : (run ops e₀).mode ≠ .playing) :
    let e := run ops e₀
    (parts e.options.speed ≠ .infinite false → (play e).outcome = .ok true ∧ Starts e (play e).state) ∧
      (parts e.options.speed = .infinite false →
        (play e).outcome = .error (.period (.notPositive (.float 0.0))) ∧ (play e).state = e) ∧
      ∀ v speed, Options.readSpeed v = .ok speed →
        ((∃ error, readPeriod (.float (e.atSpeed speed).interval) = .error error) ↔
          ∃ x, v = .float x ∧ parts x = .infinite false) := by
  intro e
  have speed : e.HasSpeed := hasSpeed_run ops (hasSpeed_of_make made)
  have keeps : e.KeepsTime := keepsTime_run ops (keepsTime_of_make made)
  refine ⟨fun finite => ?_, fun infinite => ?_, fun v speed => readPeriod_eq_error_iff_of_readSpeed e⟩
  · exact starts_play keeps rests (readPeriod_of_hasSpeed speed finite)
  · have refused := (readPeriod_interval_eq_error_iff _ speed).mpr ⟨rfl, infinite⟩
    have failed : play e = ⟨⟨e.timerLog, .error (.period (.notPositive (.float 0.0)))⟩, e⟩ := by
      rw [play, if_neg rests, stopTimer_of_free (keeps.timer_eq_none rests), startTimer, refused]
    rw [failed]
    exact ⟨rfl, rfl⟩

/-- Two revisions, and an engine at the least speed of all, at which a tick comes after an infinite time. -/
def slowestEngine : Engine :=
  (create [default, default] ⟨5e-324, false⟩ true { Schedule.initial true with now := 2.0 } []).state

theorem starts_unless_infinite_of_slowest :
    make [default, default] (.object [("speed", .float 5e-324)]) true { Schedule.initial true with now := 2.0 } [] =
        .ok slowestEngine ∧
      (let e := run [.play, .fire, .pause,
        .setOptions (.object [("speed", .float 1.7976931348623157e308)])] slowestEngine
      e.mode = .paused ∧ (play e).outcome = .ok true ∧ Starts e (play e).state) ∧
      (let e := run [.stepForward, .setOptions (.object [("speed", .float (1.0 / 0.0))])] slowestEngine
      e.mode = .idle ∧ (play e).outcome = .error (.period (.notPositive (.float 0.0))) ∧ (play e).state = e) := by
  have made : make [default, default] (.object [("speed", .float 5e-324)]) true
      { Schedule.initial true with now := 2.0 } [] = .ok slowestEngine := by
    have least : parts 5e-324 = .finite false 1 (-1074) := by decide +kernel
    rw [make, Options.update_speed ⟨_, _, Nat.one_pos, least⟩]
    rfl
  obtain ⟨starts, -⟩ := starts_unless_infinite made [.play, .fire, .pause,
    .setOptions (.object [("speed", .float 1.7976931348623157e308)])] (by decide +kernel)
  obtain ⟨-, fails, -⟩ := starts_unless_infinite made
    [.stepForward, .setOptions (.object [("speed", .float (1.0 / 0.0))])] (by decide +kernel)
  exact ⟨made, ⟨by decide +kernel, starts (by decide +kernel)⟩, by decide +kernel, fails (by decide +kernel)⟩

end Engine

end EditHistory.Playback
