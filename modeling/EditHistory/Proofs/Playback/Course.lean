import EditHistory.Playback.Ticker
import EditHistory.Proofs.Playback.Calls
import EditHistory.Proofs.Playback.Pace
import EditHistory.Proofs.Steps

/-!
# The course of a timer

A timer ticks at its period from the moment it is started until it is stopped, from outside or by its own work, and
never again.  As long as it goes, exactly one call of it waits, also while its work is being done; a call of it that
was cancelled may still be made, and then does nothing.  Its work may fail at any tick, because by then the next call
is on the schedule.  Nothing of this depends on the other timers of the schedule.

The times are floating-point sums.  The time of a tick is not a multiple of the period but what one addition after
another makes of it, and the next call has to be put there from the time of the last.

## Main definitions

* `dueTime` — the time of a tick
* `Ticker.IsRegular` — the ticks so far have come at their times, and so will the next
* `Ticker.Follows` — what has happened between two states of a timer

## Main statements

* `Ticker.follows_perform` — every event keeps a timer regular
* `Ticker.course` — the timer after every run
-/

namespace EditHistory.Playback

namespace Schedule

/-! ### Periods and calls of one timer -/

theorem period?_stop (s : Schedule) (timer other : Nat) : (s.stop timer).period? other = s.period? other := by
  unfold stop period?
  rw [List.getElem?_modify]
  cases s.timers[other]? with
  | none => rfl
  | some t =>
      by_cases same : timer = other <;> simp [same]

/-- A timer that is started leaves the periods of the others as they are. -/
theorem period?_start_of_lt (s : Schedule) (period : Float) {other : Nat} (known : other < s.timers.length) :
    (s.start period).2.period? other = s.period? other := by
  unfold start
  simp only
  rw [period?_arm, period?, List.getElem?_append_left known]
  rfl

theorem lt_of_period? {s : Schedule} {timer : Nat} {period : Float} (has : s.period? timer = some period) :
    timer < s.timers.length := by
  unfold period? at has
  obtain ⟨t, found, -⟩ := Option.map_eq_some_iff.mp has
  exact (List.getElem?_eq_some_iff.mp found).1

/-- **Stopping a timer once more** changes nothing. -/
theorem stop_of_not_active {s : Schedule} (orderly : s.IsOrderly none) {timer : Nat}
    (resting : s.isActive timer = false) : s.stop timer = s := by
  have calls := calls_stop_of_not_active orderly resting
  have forgotten := orderly.rests timer resting
  have timers : (s.stop timer).timers = s.timers := by
    refine List.ext_getElem? fun i => ?_
    unfold stop
    rw [List.getElem?_modify]
    cases found : s.timers[i]? with
    | none => rfl
    | some t =>
        by_cases same : timer = i
        · subst same
          unfold isActive at resting
          unfold awaited? at forgotten
          rw [found] at resting forgotten
          obtain ⟨period, active, waiting⟩ := t
          obtain rfl : active = false := resting
          obtain rfl : waiting = none := forgotten
          simp
        · simp [same]
  calc
    s.stop timer = { s with calls := (s.stop timer).calls, timers := (s.stop timer).timers } := rfl
    _ = s := by rw [calls, timers]

/-- Stopping a timer, be it this one or another, gives this one no call. -/
theorem mem_live_of_mem_live_stop {s : Schedule} {timer other : Nat} {c : Call}
    (mem : c ∈ (s.stop other).live timer) : c ∈ s.live timer := by
  obtain ⟨waiting, its, valid⟩ := mem_live.mp mem
  unfold stop at waiting
  refine mem_live.mpr ⟨?_, its, valid⟩
  simp only at waiting
  split at waiting
  · obtain ⟨d, old, -, -, ⟨-, cancelled⟩ | ⟨-, rfl⟩⟩ := mem_cancelCall waiting
    · rw [valid] at cancelled
      cases cancelled
    · exact old
  · exact waiting

theorem mem_live_of_mem_live_arm {s : Schedule} {timer other : Nat} {period : Float} {c : Call}
    (mem : c ∈ (s.arm other period).live timer) :
    c ∈ s.live timer ∨ other = timer ∧ c.time = s.now + period := by
  obtain ⟨waiting, its, valid⟩ := mem_live.mp mem
  rcases List.mem_append.mp waiting with old | new
  · exact Or.inl (mem_live.mpr ⟨old, its, valid⟩)
  · rw [List.mem_singleton.mp new] at its ⊢
    exact Or.inr ⟨its, rfl⟩

/-- The first call of a timer that is started is due a period from now. -/
theorem mem_live_of_mem_live_start {s : Schedule} {timer : Nat} {period : Float} {c : Call}
    (mem : c ∈ (s.start period).2.live timer) :
    c ∈ s.live timer ∨ s.timers.length = timer ∧ c.time = s.now + period :=
  mem_live_of_mem_live_arm mem

/-- A call gives work to the timer that it belongs to, if that is going, and to no other. -/
theorem fst_make_eq_some_iff {s : Schedule} {c : Call} {others : List Call} {timer : Nat} :
    (s.make c others).1 = some timer ↔ c.timer = timer ∧ s.isActive timer = true := by
  cases active : s.isActive c.timer with
  | true =>
      obtain ⟨period, made⟩ := make_of_active active others
      rw [made, Option.some.injEq]
      constructor
      · rintro rfl
        exact ⟨rfl, active⟩
      · exact And.left
  | false =>
      rw [make_of_not_active active]
      constructor
      · intro work
        cases work
      · rintro ⟨rfl, going⟩
        rw [active] at going
        cases going

theorem now_make (s : Schedule) (c : Call) (others : List Call) : (s.make c others).2.now = c.time := by
  unfold make
  simp only
  split
  · split <;> rfl
  · rfl

/-- A call of a timer that is going puts the next one a period later. -/
theorem make_of_paced {s : Schedule} {c : Call} {period : Float} (active : s.isActive c.timer = true)
    (paced : s.period? c.timer = some period) (others : List Call) :
    s.make c others = (some c.timer, arm { s with now := c.time, calls := others } c.timer period) := by
  unfold period? at paced
  obtain ⟨t, found, rfl⟩ := Option.map_eq_some_iff.mp paced
  unfold isActive at active
  rw [found] at active
  unfold make
  rw [found]
  exact if_pos active

/-- A call of one timer gives no call to another. -/
theorem mem_live_of_mem_live_make {s : Schedule} {c d : Call} {others : List Call} {timer : Nat}
    (taken : (c :: others).Perm s.calls) (ne : c.timer ≠ timer) (mem : d ∈ (s.make c others).2.live timer) :
    d ∈ s.live timer := by
  have left (old : d ∈ live { s with now := c.time, calls := others } timer) : d ∈ s.live timer := by
    obtain ⟨other, its, valid⟩ := mem_live.mp old
    exact mem_live.mpr ⟨taken.mem_iff.mp (List.mem_cons_of_mem c other), its, valid⟩
  cases active : s.isActive c.timer with
  | true =>
      obtain ⟨period, made⟩ := make_of_active active others
      rw [made] at mem
      rcases mem_live_of_mem_live_arm mem with old | ⟨own, -⟩
      · exact left old
      · exact absurd own ne
  | false =>
      rw [make_of_not_active active] at mem
      exact left mem

/-- **The next call of a timer** is due a period after the one that is made, which was its only one. -/
theorem time_of_mem_live_make {s : Schedule} (orderly : s.IsOrderly none) {c d : Call} {others : List Call}
    {period : Float} (taken : (c :: others).Perm s.calls) (active : s.isActive c.timer = true)
    (paced : s.period? c.timer = some period) (mem : d ∈ (s.make c others).2.live c.timer) :
    d.time = c.time + period := by
  rw [make_of_paced active paced] at mem
  rcases mem_live_of_mem_live_arm mem with old | ⟨-, time⟩
  · have left := orderly_take orderly taken
    rw [if_pos active] at left
    obtain ⟨other, own, -⟩ := mem_live.mp old
    exact absurd (congrArg some own.symm) (left.armed d other)
  · exact time

/-- **The one call of a timer that is going**, by its place. -/
theorem exists_place_of_active {s : Schedule} (orderly : s.IsOrderly none) {timer : Nat}
    (active : s.isActive timer = true) :
    ∃ (place : Nat) (c : Call), s.live timer = [c] ∧ s.calls[place]? = some c := by
  obtain ⟨c, only⟩ := live_of_active orderly active
  have waiting := (mem_live.mp (only ▸ List.mem_singleton_self c : c ∈ s.live timer)).1
  obtain ⟨place, within, here⟩ := List.getElem_of_mem waiting
  exact ⟨place, c, only, here ▸ List.getElem?_eq_getElem within⟩

end Schedule

/-- The time at which the tick with a number is due, the first one having the number one: the period is added to the
time of the start, one addition after another. -/
def dueTime (started period : Float) : Nat → Float
  | 0 => started
  | tick + 1 => dueTime started period tick + period

namespace Ticker

/-- **A timer on its course.**  All ticks so far have come when they were due, and the next one waits for its time. -/
structure IsRegular (started period : Float) (t : Ticker) : Prop where
  orderly : t.schedule.IsOrderly none
  next : ∀ c ∈ t.schedule.live t.timer, c.time = dueTime started period (t.times.length + 1)
  times : t.times = (List.range' 1 t.times.length).map (dueTime started period)
  paced : t.schedule.period? t.timer = some period

/-- What has happened between two states of a timer, of which the second is on its course: the timer may have been
`stopped` from outside, or by the work of a tick in between, and if it had been stopped before there was no tick. -/
structure Follows (work : Nat → Work) (started period : Float) (t : Ticker) (stopped : Prop) (t' : Ticker) : Prop
    extends IsRegular started period t' where
  timer : t'.timer = t.timer
  further : t.times.length ≤ t'.times.length
  active : t'.isActive = true ↔
    t.isActive = true ∧ ¬ stopped ∧ ∀ tick, t.times.length < tick → tick ≤ t'.times.length → work tick ≠ .stop
  rests : t.isActive = false → t'.times = t.times

variable {work : Nat → Work} {started period : Float} {t t' t'' : Ticker}

/-- Without a tick there is no work that could have stopped the timer. -/
theorem Follows.of_silent {stopped : Prop} (regular : IsRegular started period t') (timer : t'.timer = t.timer)
    (silent : t'.times = t.times) (active : t'.isActive = true ↔ t.isActive = true ∧ ¬ stopped) :
    Follows work started period t stopped t' := by
  refine ⟨regular, timer, le_of_eq (congrArg List.length silent.symm), ?_, fun _ => silent⟩
  rw [active, silent]
  constructor
  · rintro ⟨going, free⟩
    exact ⟨going, free, fun tick past reached => absurd reached (Nat.not_le_of_lt past)⟩
  · rintro ⟨going, free, -⟩
    exact ⟨going, free⟩

/-- After a single tick it is the work of this one that says whether the timer still goes. -/
theorem Follows.of_ticked {time : Float} (regular : IsRegular started period t') (timer : t'.timer = t.timer)
    (ticked : t'.times = t.times ++ [time]) (going : t.isActive = true)
    (active : t'.isActive = true ↔ work (t.times.length + 1) ≠ .stop) :
    Follows work started period t False t' := by
  have length : t'.times.length = t.times.length + 1 := by rw [ticked, List.length_append, List.length_singleton]
  refine ⟨regular, timer, length ▸ Nat.le_succ _, ?_, fun resting => ?_⟩
  · rw [active, length]
    constructor
    · intro quiet
      refine ⟨going, not_false, fun tick past reached => ?_⟩
      rw [Nat.le_antisymm reached past]
      exact quiet
    · rintro ⟨-, -, quiet⟩
      exact quiet _ (Nat.lt_succ_self _) (Nat.le_refl _)
  · rw [going] at resting
    cases resting

theorem IsRegular.follows (regular : IsRegular started period t) : Follows work started period t False t :=
  .of_silent regular rfl rfl (by simp)

theorem Follows.trans {first second : Prop} (one : Follows work started period t first t')
    (two : Follows work started period t' second t'') : Follows work started period t (first ∨ second) t'' := by
  refine ⟨two.toIsRegular, two.timer.trans one.timer, one.further.trans two.further, ?_, ?_⟩
  · rw [two.active, one.active]
    constructor
    · rintro ⟨⟨going, free, early⟩, still, late⟩
      refine ⟨going, not_or.mpr ⟨free, still⟩, fun tick past reached => ?_⟩
      rcases Nat.lt_or_ge t'.times.length tick with later | sooner
      · exact late tick later reached
      · exact early tick past sooner
    · rintro ⟨going, free, quiet⟩
      obtain ⟨free, still⟩ := not_or.mp free
      exact ⟨⟨going, free, fun tick past reached => quiet tick past (reached.trans two.further)⟩, still,
        fun tick past reached => quiet tick (one.further.trans_lt past) reached⟩
  · intro resting
    have same := one.rests resting
    have still : t'.isActive = false := by
      rw [Bool.eq_false_iff]
      intro going
      rw [(one.active.mp going).1] at resting
      cases resting
    exact (two.rests still).trans same

/-! ### Calls -/

/-- A call that gives the timer no work leaves it on its course. -/
theorem regular_make_of_ne {c : Call} {others : List Call} (regular : IsRegular started period t)
    (taken : (c :: others).Perm t.schedule.calls) (idle : (t.schedule.make c others).1 ≠ some t.timer) :
    IsRegular started period { t with schedule := (t.schedule.make c others).2 } := by
  obtain ⟨orderly, same⟩ := Schedule.orderly_make regular.orderly taken
  refine ⟨orderly, fun d mem => ?_, regular.times, (Schedule.period?_make _ _ _ _).trans regular.paced⟩
  by_cases own : c.timer = t.timer
  · -- The call is one of the timer, which has been stopped, so no call of it counts.
    have resting : t.schedule.isActive t.timer = false := by
      rw [Bool.eq_false_iff]
      exact fun going => idle (Schedule.fst_make_eq_some_iff.mpr ⟨own, going⟩)
    have gone := Schedule.live_of_not_active orderly ((same t.timer).trans resting)
    rw [gone] at mem
    cases mem
  · exact regular.next d (Schedule.mem_live_of_mem_live_make taken own mem)

/-- A call of the timer that is made while it is going is the one that has waited. -/
theorem IsRegular.time_of_own {c : Call} (regular : IsRegular started period t) (waiting : c ∈ t.schedule.calls)
    (own : c.timer = t.timer) (going : t.isActive = true) :
    c.time = dueTime started period (t.times.length + 1) := by
  have belongs := regular.orderly.belongs c waiting
  unfold isActive at going
  unfold Schedule.Belongs at belongs
  rw [own, if_pos going] at belongs
  exact regular.next c (Schedule.mem_live.mpr ⟨waiting, own, belongs.1⟩)

/-- **A tick as it begins.**  Its time is the one that was due, and the next call is already on the schedule. -/
theorem regular_make_of_own {c : Call} {others : List Call} (regular : IsRegular started period t)
    (taken : (c :: others).Perm t.schedule.calls) (own : c.timer = t.timer) (going : t.isActive = true) :
    IsRegular started period
      { t with schedule := (t.schedule.make c others).2, times := t.times ++ [c.time] } := by
  obtain ⟨orderly, -⟩ := Schedule.orderly_make regular.orderly taken
  have time := regular.time_of_own (taken.mem_iff.mp List.mem_cons_self) own going
  have length : (t.times ++ [c.time]).length = t.times.length + 1 := List.length_append
  refine ⟨orderly, fun d mem => ?_, ?_, (Schedule.period?_make _ _ _ _).trans regular.paced⟩
  · show d.time = dueTime started period ((t.times ++ [c.time]).length + 1)
    rw [length, dueTime, ← time]
    unfold isActive at going
    have paced := regular.paced
    rw [← own] at mem going paced
    exact Schedule.time_of_mem_live_make regular.orderly taken going paced mem
  · show t.times ++ [c.time] = (List.range' 1 (t.times ++ [c.time]).length).map (dueTime started period)
    rw [length, List.range'_1_concat, List.map_append, ← regular.times, time, Nat.add_comm 1]
    rfl

theorem regular_stop (regular : IsRegular started period t) (timer : Nat) :
    IsRegular started period { t with schedule := t.schedule.stop timer } :=
  ⟨Schedule.orderly_stop regular.orderly timer,
    fun c mem => regular.next c (Schedule.mem_live_of_mem_live_stop mem), regular.times,
    (Schedule.period?_stop _ _ _).trans regular.paced⟩

/-- **Stopping a timer**, which may be this one. -/
theorem follows_stop (work : Nat → Work) (regular : IsRegular started period t) (timer : Nat) :
    Follows work started period t (timer = t.timer) { t with schedule := t.schedule.stop timer } := by
  refine .of_silent (regular_stop regular timer) rfl rfl ?_
  show (t.schedule.stop timer).isActive t.timer = true ↔ _
  rw [Schedule.isActive_stop, Bool.and_eq_true, bne_iff_ne, ne_comm]
  rfl

/-- **Starting another timer.** -/
theorem follows_start (work : Nat → Work) (regular : IsRegular started period t) (other : Float) :
    Follows work started period t False { t with schedule := (t.schedule.start other).2 } := by
  have known := Schedule.lt_of_period? regular.paced
  refine .of_silent ⟨Schedule.orderly_start regular.orderly other, fun c mem => ?_, regular.times,
    (Schedule.period?_start_of_lt _ _ known).trans regular.paced⟩ rfl rfl ?_
  · rcases Schedule.mem_live_of_mem_live_start mem with old | ⟨same, -⟩
    · exact regular.next c old
    · exact absurd same (Nat.ne_of_gt known)
  · show (t.schedule.start other).2.isActive t.timer = true ↔ _
    have ne : t.timer ≠ (t.schedule.start other).1 := Nat.ne_of_lt known
    rw [Schedule.isActive_start, decide_eq_false ne, Bool.false_or]
    simp [isActive]

/-- **A tick**, from the state as it begins to whatever its work makes of it. -/
theorem follows_tick {s : Schedule}
    (begun : IsRegular started period { t with schedule := s, times := t.times ++ [s.now] })
    (going : t.isActive = true) (still : s.isActive t.timer = true) :
    Follows work started period t False (tick work { t with schedule := s }).state := by
  have goesOn (quiet : work (t.times.length + 1) ≠ .stop) : Follows work started period t False
      { t with schedule := s, times := t.times ++ [s.now] } :=
    .of_ticked begun rfl rfl going (iff_of_true still quiet)
  unfold tick
  simp only
  rw [List.length_append, List.length_singleton]
  cases does : work (t.times.length + 1) with
  | goOn => exact goesOn (does ▸ nofun)
  | fail => exact goesOn (does ▸ nofun)
  | stop =>
      refine .of_ticked (regular_stop begun t.timer) rfl rfl going (iff_of_false ?_ fun quiet => quiet does)
      show ¬(s.stop t.timer).isActive t.timer = true
      rw [Schedule.isActive_stop, bne_self_eq_false, Bool.and_false]
      nofun

/-- **Making any call**, of this timer or another, whether it has been cancelled or not. -/
theorem follows_fireAt (work : Nat → Work) (regular : IsRegular started period t) (place : Nat) :
    Follows work started period t False (fireAt work place t).state := by
  unfold fireAt
  cases fired : t.schedule.fireAt? place with
  | none => exact regular.follows
  | some made =>
      obtain ⟨c, others, taken, rfl⟩ := Schedule.exists_of_fireAt? fired
      obtain ⟨-, same⟩ := Schedule.orderly_make regular.orderly taken
      unfold serve
      simp only
      split
      · rename_i work
        obtain ⟨own, going⟩ := Schedule.fst_make_eq_some_iff.mp work
        have begun := regular_make_of_own regular taken own going
        rw [← Schedule.now_make t.schedule c others] at begun
        exact follows_tick begun going ((same t.timer).trans going)
      · rename_i idle
        refine .of_silent (regular_make_of_ne regular taken idle) rfl rfl ?_
        show (t.schedule.make c others).2.isActive t.timer = true ↔ _
        rw [same]
        exact iff_self_and.mpr fun _ => not_false

theorem exists_fire_eq_fireAt (work : Nat → Work) (t : Ticker) : ∃ place, fire work t = fireAt work place t := by
  obtain ⟨place, same⟩ := t.schedule.exists_fire?_eq_fireAt?
  refine ⟨place, ?_⟩
  unfold fire fireAt
  rw [same]

theorem follows_fire (work : Nat → Work) (regular : IsRegular started period t) :
    Follows work started period t False (fire work t).state := by
  obtain ⟨place, same⟩ := exists_fire_eq_fireAt work t
  rw [same]
  exact follows_fireAt work regular place

/-! ### Runs -/

theorem follows_fireUntil (work : Nat → Work) (time : Float) (count limit : Nat)
    (regular : IsRegular started period t) :
    Follows work started period t False (fireUntil work time count limit t).state := by
  induction limit generalizing count t with
  | zero => exact regular.follows
  | succ limit ih =>
      unfold fireUntil
      split
      · have first := follows_fire work regular
        refine Step.andThen_keeps first fun _ _ => ?_
        simpa only [or_false] using first.trans (ih (count + 1) first.toIsRegular)
      · exact regular.follows

/-- The time shown plays no part in the course: the next call is already on the schedule. -/
theorem Follows.at_time {stopped : Prop} (follows : Follows work started period t stopped t') (now : Float) :
    Follows work started period t stopped { t' with schedule := { t'.schedule with now } } :=
  ⟨⟨follows.orderly.at_time now, follows.next, follows.times, follows.paced⟩, follows.timer, follows.further,
    follows.active, follows.rests⟩

/-- **Every event** keeps a timer on its course. -/
theorem follows_perform (work : Nat → Work) (regular : IsRegular started period t) (event : Event) :
    Follows work started period t (event = .stop t.timer) (perform work event t) := by
  cases event with
  | fire => simpa [perform] using follows_fire work regular
  | fireAt place => simpa [perform] using follows_fireAt work regular place
  | advance limit seconds =>
      have calls := follows_fireUntil work (t.schedule.now + seconds) 0 limit regular
      have passed : Follows work started period t False (advance work limit seconds t).state :=
        Step.andThen_keeps calls fun _ _ => calls.at_time _
      simpa [perform] using passed
  | stop timer => simpa [perform] using follows_stop work regular timer
  | start other => simpa [perform] using follows_start work regular other

/-- What every event keeps is kept by every run. -/
theorem follows_performAll (work : Nat → Work) (regular : IsRegular started period t) (events : List Event) :
    Follows work started period t (.stop t.timer ∈ events) (performAll work events t) := by
  induction events generalizing t with
  | nil => simpa [performAll] using regular.follows
  | cons event events ih =>
      have first := follows_perform work regular event
      have whole := first.trans (ih first.toIsRegular)
      rw [first.timer] at whole
      simpa only [List.mem_cons, eq_comm, performAll] using whole

/-- A timer that has just been started is on its course. -/
theorem regular_startOn {loop : Schedule} (orderly : loop.IsOrderly none) (period : Float) :
    IsRegular loop.now period (startOn loop period) := by
  refine ⟨Schedule.orderly_start orderly period, fun c mem => ?_, rfl, Schedule.period?_start loop period⟩
  rcases Schedule.mem_live_of_mem_live_start mem with old | ⟨-, time⟩
  · obtain ⟨waiting, own, -⟩ := Schedule.mem_live.mp old
    exact absurd own (Nat.ne_of_lt (orderly.known c waiting))
  · exact time

/-- A call that gives the timer its work has been put off by a period before the work begins, so one call waits while
it is done. -/
theorem live_of_served (regular : IsRegular started period t) {place : Nat} {s : Schedule}
    (served : t.schedule.fireAt? place = some (some t.timer, s)) :
    ∃ c, s.live t.timer = [c] ∧ c.time = dueTime started period (t.times.length + 2) := by
  obtain ⟨c, others, taken, made⟩ := Schedule.exists_of_fireAt? served
  obtain ⟨work, rfl⟩ := Prod.ext_iff.mp made
  obtain ⟨own, going⟩ := Schedule.fst_make_eq_some_iff.mp work.symm
  obtain ⟨orderly, same⟩ := Schedule.orderly_make regular.orderly taken
  obtain ⟨d, only⟩ := Schedule.live_of_active orderly ((same t.timer).trans going)
  have time := (regular_make_of_own regular taken own going).next d (only ▸ List.mem_singleton_self d)
  rw [List.length_append] at time
  exact ⟨d, only, time⟩

/-- **The call that waits for a timer** gives it its next tick, at the time at which it is due. -/
theorem exists_place_of_active (regular : IsRegular started period t) (going : t.isActive = true) :
    ∃ (place : Nat) (c : Call), t.schedule.live t.timer = [c] ∧ t.schedule.calls[place]? = some c ∧
      c.time = dueTime started period (t.times.length + 1) ∧
      ∀ work, (fireAt work place t).state.times = t.times ++ [c.time] := by
  obtain ⟨place, c, only, here⟩ := Schedule.exists_place_of_active regular.orderly going
  have mem : c ∈ t.schedule.live t.timer := only ▸ List.mem_singleton_self c
  obtain ⟨-, own, -⟩ := Schedule.mem_live.mp mem
  refine ⟨place, c, only, here, regular.next c mem, fun work => ?_⟩
  have works : (t.schedule.make c (t.schedule.calls.eraseIdx place)).1 = some t.timer :=
    Schedule.fst_make_eq_some_iff.mpr ⟨own, going⟩
  unfold fireAt Schedule.fireAt? serve
  rw [here, Option.map_some]
  simp only
  rw [if_pos works, Step.state_map]
  unfold tick
  simp only
  rw [Schedule.now_make]
  split <;> rfl

/-- **The timer after every run.**  A timer is started on a schedule that may hold others, and then whatever can happen
happens in any order, while its work does nothing, stops it or fails, as it likes at each tick.  The timer is going
until it is stopped, from outside or by its work.  While it goes exactly one call of it waits, due when the next tick
is, and so it is while its work is done; the call, when it is made, gives the tick.  Once it is stopped no call of it
waits that is not cancelled, stopping it again changes nothing, and whatever happens later it does no work again.  All
its ticks have come at their times. -/
theorem course {loop : Schedule} (orderly : loop.IsOrderly none) (period : Float) (work : Nat → Work)
    (events : List Event) :
    let t := performAll work events (startOn loop period)
    (t.isActive = true ↔
      .stop (startOn loop period).timer ∉ events ∧
        ∀ tick, 1 ≤ tick → tick ≤ t.times.length → work tick ≠ .stop) ∧
      (t.isActive = true →
        ∃ (place : Nat) (c : Call), t.schedule.live t.timer = [c] ∧ t.schedule.calls[place]? = some c ∧
          c.time = dueTime loop.now period (t.times.length + 1) ∧
          (fireAt work place t).state.times = t.times ++ [c.time]) ∧
      (∀ place s, t.schedule.fireAt? place = some (some t.timer, s) → ∃ c, s.live t.timer = [c]) ∧
      (t.isActive = false →
        t.schedule.live t.timer = [] ∧ t.stop = t ∧
          ∀ later, let u := performAll work later t
            u.isActive = false ∧ u.schedule.live u.timer = [] ∧ u.times = t.times) ∧
      t.times = (List.range' 1 t.times.length).map (dueTime loop.now period) := by
  intro t
  have course : Follows work loop.now period (startOn loop period)
      (.stop (startOn loop period).timer ∈ events) t :=
    follows_performAll work (regular_startOn orderly period) events
  have begun : (startOn loop period).isActive = true := by
    unfold isActive startOn
    simp [Schedule.isActive_start]
  refine ⟨?_, ?_, ?_, ?_, course.times⟩
  · have active := course.active
    rw [begun] at active
    exact active.trans (and_iff_right rfl)
  · intro going
    obtain ⟨place, c, only, here, time, ticks⟩ := exists_place_of_active course.toIsRegular going
    exact ⟨place, c, only, here, time, ticks work⟩
  · intro place s served
    obtain ⟨c, only, -⟩ := live_of_served course.toIsRegular served
    exact ⟨c, only⟩
  · intro resting
    refine ⟨Schedule.live_of_not_active course.orderly resting, ?_, fun later => ?_⟩
    · unfold stop
      rw [Schedule.stop_of_not_active course.orderly resting]
    · have after := follows_performAll work course.toIsRegular later
      have still : (performAll work later t).isActive = false := by
        rw [Bool.eq_false_iff]
        intro going
        rw [(after.active.mp going).1] at resting
        cases resting
      exact ⟨still, Schedule.live_of_not_active after.orderly still, after.rests resting⟩

/-- A schedule that still holds the call of a timer that was stopped. -/
def leftover : Schedule :=
  { ((Schedule.initial true).start 0.3).2.stop 0 with now := 2.5 }

theorem orderly_leftover : leftover.IsOrderly none :=
  (Schedule.orderly_stop (Schedule.orderly_start (Schedule.orderly_initial true) 0.3) 0).at_time 2.5

/-- Work that fails at the first tick and stops the timer at the third. -/
def moodyWork (tick : Nat) : Work :=
  if tick = 1 then .fail else if tick = 3 then .stop else .goOn

/-- Three ticks, with another timer started and stopped in between.  The call made before it is the one left over, and
the call made last is the one that the third tick has cancelled. -/
def threeTicks : List Event :=
  [.fireAt 1, .start 7.0, .fireAt 0, .fireAt 0, .stop 2, .fireAt 1, .fireAt 1]

theorem course_of_moody :
    leftover.IsOrderly none ∧
      let t := performAll moodyWork threeTicks (startOn leftover 0.1)
      t.isActive = false ∧ t.schedule.live t.timer = [] ∧ t.stop = t ∧
        t.times = [1, 2, 3].map (dueTime 2.5 0.1) ∧
        ∀ later, (performAll moodyWork later t).times = t.times := by
  obtain ⟨-, -, -, stopped, times⟩ := course orderly_leftover 0.1 moodyWork threeTicks
  have resting : (performAll moodyWork threeTicks (startOn leftover 0.1)).isActive = false := rfl
  obtain ⟨silent, again, never⟩ := stopped resting
  exact ⟨orderly_leftover, resting, silent, again, times, fun later => (never later).2.2⟩

end Ticker

end EditHistory.Playback
