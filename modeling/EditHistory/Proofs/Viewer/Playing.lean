import EditHistory.Proofs.Actions
import EditHistory.Proofs.Playback.Content
import EditHistory.Proofs.Playback.Pace
import EditHistory.Viewer

/-!
# Playback on a screen

A viewer asks its engine for one thing or a few in a row, and then shows what has become of it; whether that can be
shown, or a speed can be stored, makes no difference to the engine.  So what holds of all runs of an engine holds on a
screen.  A change of speed is more than a change of the options: the viewer starts the timer anew, and therefore the
timer fits the speed at all times.

Two timers are at work between the commands of the user, in any order: that of the engine, each call of which moves the
cursor, and that of the screen, which shows the engine again.

## Main definitions

* `Viewer.Event`, `Viewer.follow` — what happens on an open screen
* `Command.operations` — what a command asks of the engine
* `Viewer.IsInTime` — the invariant of an open screen

## Main statements

* `Viewer.engine_run` — what becomes of the engine
* `Viewer.inTime_handle`, `Viewer.inTime_follow` — one event, and several
* `Viewer.plays_at_speed` — playback, whatever has happened
-/

namespace EditHistory

open Playback Number

namespace Viewer

/-! ### Events -/

/-- What happens on an open screen. -/
inductive Event where
  | command (c : Command)
  /-- A waiting call of the engine is made, whichever it is. -/
  | call (place : Nat)
  /-- The timer of the screen is up. -/
  | refresh

/-- What an event brings about. -/
def handle : Event → Action Viewer Error Unit
  | .command c => run c
  | .call place => do
    let _ ← onEngine (Engine.fireAt place)
  | .refresh => refresh

/-- The viewer after several events.  An event that fails leaves a viewer behind like any other. -/
def follow : List Event → Viewer → Viewer
  | [], v => v
  | event :: events, v => follow events (handle event v).state

/-- A viewer whose screen has just been opened. -/
def opened (revisions : List Revision) (options : Options) (title theme : String) (preferences : Option Path)
    (files : Files) : Viewer :=
  (mount (create revisions options title theme preferences files).state).state

/-- What a change of speed asks of the engine. -/
def speedOperations (delta : Int) (e : Engine) : List Operation :=
  if stepSpeed delta e.options.speed == e.options.speed then []
  else
    .setOptions (.object [("speed", .float (stepSpeed delta e.options.speed))]) ::
      if e.mode = .playing then [.pause, .play] else []

/-- What a command asks of the engine. -/
def Command.operations (e : Engine) : Command → List Operation
  | .togglePlay => if e.mode ≠ .playing ∧ e.cursor.atLeast e.last then [.reset, .toggle] else [.toggle]
  | .stepForward => [.stepForward]
  | .stepBackward => [.stepBackward]
  | .reset => [.reset]
  | .jumpToEnd => [.jumpToEnd]
  | .faster => speedOperations 1 e
  | .slower => speedOperations (-1) e

/-! ### The engine on the screen -/

/-- The second viewer has this engine, and its screen has the timers of the first one. -/
structure Drives (v : Viewer) (e : Engine) (w : Viewer) : Prop where
  engine : w.engine = e
  refreshes : w.refreshes = v.refreshes

theorem Drives.trans {v w u : Viewer} {e e' : Engine} (first : Drives v e w) (second : Drives w e' u) :
    Drives v e' u :=
  ⟨second.engine, second.refreshes.trans first.refreshes⟩

/-- A refresh that fails leaves the view as it was. -/
theorem drives_refresh (v : Viewer) : Drives v v.engine (refresh v).state := by
  unfold refresh
  split
  · split <;> exact ⟨rfl, rfl⟩
  · exact ⟨rfl, rfl⟩

theorem drives_storeSpeed (speed : Float) (v : Viewer) : Drives v v.engine (storeSpeed speed v).state := by
  show Action.ComesTo (storeSpeed speed) v fun _ w => Drives v v.engine w
  refine Action.ComesTo.done (a := v) rfl ?_
  cases v.preferences with
  | none => exact ⟨rfl, rfl⟩
  | some path => exact ⟨rfl, rfl⟩

/-- What comes after an action and leaves the engine alone makes no difference. -/
theorem Drives.bind {α β : Type} {x : Action Viewer Error α} {f : α → Action Viewer Error β} {v : Viewer} {e : Engine}
    (drives : Drives v e (x v).state) (rest : ∀ a w, Drives w w.engine (f a w).state) :
    Drives v e ((x >>= f) v).state := by
  refine Step.andThen_keeps drives fun a _ => ?_
  obtain ⟨engine, refreshes⟩ := rest a (x v).state
  exact ⟨engine.trans drives.engine, refreshes.trans drives.refreshes⟩

theorem drives_onEngine {α : Type} (x : Action Engine Fault α) (v : Viewer) :
    Drives v (x v.engine).state ((onEngine x >>= fun _ => refresh) v).state :=
  Drives.bind ⟨rfl, rfl⟩ fun _ w => drives_refresh w

theorem drives_restart (v : Viewer) :
    Drives v (Engine.run (if v.engine.mode = .playing then [.pause, .play] else []) v.engine) (restart v).state := by
  show Action.ComesTo restart v fun _ w =>
    Drives v (Engine.run (if v.engine.mode = .playing then [.pause, .play] else []) v.engine) w
  refine Action.ComesTo.done (a := v) rfl ?_
  split
  · rename_i playing
    have paused : (onEngine Engine.pause v).outcome = .ok true := by
      show (Engine.pause v.engine).outcome.mapError Error.playback = _
      rw [Engine.pause, if_pos playing]
      rfl
    -- Only if pausing succeeds is playback started again.
    have start : Drives v (Engine.pause v.engine).state (onEngine Engine.pause v).state := ⟨rfl, rfl⟩
    have played : Drives (onEngine Engine.pause v).state (Engine.play (Engine.pause v.engine).state).state
        ((onEngine Engine.play >>= fun _ => pure ()) (onEngine Engine.pause v).state).state :=
      Drives.bind ⟨rfl, rfl⟩ fun _ _ => ⟨rfl, rfl⟩
    exact Action.ComesTo.andThen paused (start.trans played)
  · exact ⟨rfl, rfl⟩

theorem drives_changeSpeed (delta : Int) (v : Viewer) :
    Drives v (Engine.run (speedOperations delta v.engine) v.engine) (changeSpeed delta v).state := by
  show Action.ComesTo (changeSpeed delta) v fun _ w =>
    Drives v (Engine.run (speedOperations delta v.engine) v.engine) w
  refine Action.ComesTo.done (a := v) rfl ?_
  unfold speedOperations
  simp only
  split
  · exact ⟨rfl, rfl⟩
  · have positive := isPositive_stepSpeed delta v.engine.options.speed
    generalize stepSpeed delta v.engine.options.speed = speed at positive
    -- The speed is one of the list, which the options take, so the restart is reached.
    have changed := Engine.setOptions_speed positive v.engine
    have done : onEngine (Engine.setOptions (.object [("speed", .float speed)])) v =
        .done () { v with engine := v.engine.atSpeed speed } := by
      show Step.mapError _ ⟨_, { v with engine := (Engine.setOptions _ v.engine).state }⟩ = _
      rw [changed]
      rfl
    refine Action.ComesTo.done done ?_
    rw [Engine.run, Engine.perform_setOptions_speed positive]
    have start : Drives v (v.engine.atSpeed speed) { v with engine := v.engine.atSpeed speed } := ⟨rfl, rfl⟩
    refine start.trans (Drives.bind (drives_restart _) fun _ w => ?_)
    exact Drives.bind (drives_storeSpeed speed w) fun _ => drives_refresh

/-- **What becomes of the engine** when the user gives a command. -/
theorem engine_run (c : Command) (v : Viewer) :
    Drives v (Engine.run (c.operations v.engine) v.engine) (run c v).state := by
  cases c with
  | togglePlay =>
      show Action.ComesTo togglePlay v fun _ w =>
        Drives v (Engine.run (Command.operations v.engine .togglePlay) v.engine) w
      refine Action.ComesTo.done (a := v) rfl ?_
      unfold Command.operations
      simp only
      split
      · have start : Drives v v.engine.reset { v with engine := v.engine.reset } := ⟨rfl, rfl⟩
        have toggled : Drives { v with engine := v.engine.reset } (Engine.toggle v.engine.reset).state _ :=
          drives_onEngine Engine.toggle { v with engine := v.engine.reset }
        exact Action.ComesTo.done (a := ()) rfl (start.trans toggled)
      · exact drives_onEngine Engine.toggle v
  | stepForward => exact drives_onEngine Engine.stepForward v
  | stepBackward => exact drives_onEngine Engine.stepBackward v
  | reset => exact Drives.bind (v := v) ⟨rfl, rfl⟩ fun _ w => drives_refresh w
  | jumpToEnd => exact drives_onEngine Engine.jumpToEnd v
  | faster => exact drives_changeSpeed 1 v
  | slower => exact drives_changeSpeed (-1) v

end Viewer

/-! ### The invariant -/

namespace Playback

/-- An operation that neither changes the options nor jumps to anything but an integer. -/
def Operation.IsPlain (op : Operation) : Prop :=
  op.IsIntegral ∧ ∀ v, op ≠ .setOptions v

namespace Engine

/-- **The invariant of an engine on a screen**: page and clock are in order, and the timer fits a positive speed. -/
structure IsInTime (e : Engine) : Prop where
  accurate : e.IsAccurate
  keeps : e.KeepsTime
  paced : IsPaced e.options e
  positive : IsPositive e.options.speed

variable {e : Engine}

theorem inTime_perform {op : Operation} (plain : op.IsPlain) (inTime : e.IsInTime) : (perform op e).state.IsInTime := by
  have paced := paced_perform plain.2 inTime.paced
  refine ⟨accurate_perform plain.1 inTime.accurate, keepsTime_perform op inTime.keeps, ?_, ?_⟩
  · rw [paced.options]
    exact paced
  · rw [paced.options]
    exact inTime.positive

/-- **Another speed** with the timer started anew leaves the page and the mode alone, and the timer fits again. -/
theorem inTime_atSpeed (inTime : e.IsInTime) {speed : Float} (positive : IsPositive speed) :
    let e' := run (if e.mode = .playing then [.pause, .play] else []) (e.atSpeed speed)
    e'.IsInTime ∧ SamePage e e' ∧ e'.mode = e.mode := by
  have page : SamePage e (e.atSpeed speed) := ⟨rfl, rfl, rfl, rfl, rfl⟩
  have accurate : (e.atSpeed speed).IsAccurate := inTime.accurate.of_samePage page
  have keeps : (e.atSpeed speed).KeepsTime := inTime.keeps.of_sameClock ⟨rfl, rfl, rfl, rfl⟩
  by_cases playing : e.mode = .playing
  · rw [if_pos playing]
    -- The timer in hand has the period of the old speed; the one that is started has that of the new one.
    obtain ⟨mode, options, free⟩ := pause_of_playing (e := e.atSpeed speed) playing
    have rests : (pause (e.atSpeed speed)).state.mode ≠ .playing := by
      rw [mode]
      nofun
    have paced := paced_play (paced_of_free options free)
    have positive' : IsPositive (pause (e.atSpeed speed)).state.options.speed := by
      rw [options]
      exact positive
    refine ⟨⟨?_, ?_, ?_, ?_⟩, ?_, ?_⟩
    · exact (accurate.of_samePage (samePage_pause _)).of_samePage (samePage_play _)
    · exact keepsTime_run [.pause, .play] keeps
    · show IsPaced (play (pause (e.atSpeed speed)).state).state.options _
      rw [paced.options]
      exact paced
    · show IsPositive (play (pause (e.atSpeed speed)).state).state.options.speed
      rw [paced.options]
      exact positive
    · exact page.trans ((samePage_pause _).trans (samePage_play _))
    · rw [playing]
      exact (play_of_resting rests positive').1
  · rw [if_neg playing]
    exact ⟨⟨accurate, keeps, paced_of_free rfl (inTime.keeps.timer_eq_none playing), positive⟩, page, rfl⟩

theorem inTime_initial {revisions : List Revision} (real : ∀ r ∈ revisions, r.IsReal) {options : Options}
    (positive : IsPositive options.speed) (keepsSnapshots keepsCancelled : Bool) (timerLog : Log) :
    (initial revisions options keepsSnapshots (Schedule.initial keepsCancelled) timerLog).IsInTime :=
  ⟨accurate_initial real _ _ _ _, keepsTime_initial revisions _ _ keepsCancelled 0.0 timerLog,
    paced_of_free rfl rfl, positive⟩

end Engine

end Playback

namespace Viewer

/-- **The invariant of an open screen.** -/
structure IsInTime (v : Viewer) : Prop where
  engine : v.engine.IsInTime
  refreshes : v.refreshes = [refreshPeriod]

/-- A change of speed leaves the page and the mode alone. -/
theorem inTime_speedOperations {e : Engine} (inTime : e.IsInTime) (delta : Int) :
    let e' := Engine.run (speedOperations delta e) e
    e'.IsInTime ∧ Engine.SamePage e e' ∧ e'.mode = e.mode := by
  unfold speedOperations
  split
  · exact ⟨inTime, Engine.SamePage.refl e, rfl⟩
  · have positive := isPositive_stepSpeed delta e.options.speed
    rw [Engine.run, Engine.perform_setOptions_speed positive]
    exact Engine.inTime_atSpeed inTime positive

/-- Every command keeps the engine in time. -/
theorem inTime_operations {e : Engine} (inTime : e.IsInTime) (c : Command) :
    (Engine.run (c.operations e) e).IsInTime := by
  have one {op : Operation} (plain : op.IsPlain) : (Engine.run [op] e).IsInTime := Engine.inTime_perform plain inTime
  cases c with
  | togglePlay =>
      unfold Command.operations
      simp only
      split
      · have plainReset : Operation.reset.IsPlain := ⟨trivial, nofun⟩
        have plainToggle : Operation.toggle.IsPlain := ⟨trivial, nofun⟩
        exact Engine.inTime_perform plainToggle (Engine.inTime_perform plainReset inTime)
      · exact one ⟨trivial, nofun⟩
  | stepForward => exact one ⟨trivial, nofun⟩
  | stepBackward => exact one ⟨trivial, nofun⟩
  | reset => exact one ⟨trivial, nofun⟩
  | jumpToEnd => exact one ⟨trivial, nofun⟩
  | faster => exact (inTime_speedOperations inTime 1).1
  | slower => exact (inTime_speedOperations inTime (-1)).1

theorem IsInTime.of_drives {v w : Viewer} {e : Engine} (inTime : v.IsInTime) (drives : Drives v e w)
    (kept : e.IsInTime) : w.IsInTime :=
  ⟨drives.engine ▸ kept, drives.refreshes.trans inTime.refreshes⟩

/-- **Every event keeps the invariant**, whether it succeeds or fails. -/
theorem inTime_handle (event : Event) {v : Viewer} (inTime : v.IsInTime) : (handle event v).state.IsInTime := by
  cases event with
  | command c => exact inTime.of_drives (engine_run c v) (inTime_operations inTime.engine c)
  | call place =>
      have plain : (Operation.fireAt place).IsPlain := ⟨trivial, nofun⟩
      -- The call works on the engine alone: the screen is not refreshed.
      have drives : Drives v (Engine.perform (.fireAt place) v.engine).state (handle (.call place) v).state :=
        Drives.bind ⟨rfl, rfl⟩ fun _ _ => ⟨rfl, rfl⟩
      exact inTime.of_drives drives (Engine.inTime_perform plain inTime.engine)
  | refresh => exact inTime.of_drives (drives_refresh v) inTime.engine

theorem inTime_follow (events : List Event) {v : Viewer} (inTime : v.IsInTime) : (follow events v).IsInTime := by
  induction events generalizing v with
  | nil => exact inTime
  | cons event events ih => exact ih (inTime_handle event inTime)

theorem inTime_mount {v : Viewer} (engine : v.engine.IsInTime) (closed : v.refreshes = []) :
    (mount v).state.IsInTime := by
  have opened : IsInTime { v with refreshes := refreshPeriod :: v.refreshes } :=
    ⟨engine, congrArg (refreshPeriod :: ·) closed⟩
  show Action.ComesTo mount v fun _ w => w.IsInTime
  refine Action.ComesTo.done (a := ()) rfl (Action.ComesTo.done (a := { v with refreshes := _ }) rfl ?_)
  split
  · have plain : Operation.play.IsPlain := ⟨trivial, nofun⟩
    exact opened.of_drives (drives_onEngine Engine.play _) (Engine.inTime_perform plain opened.engine)
  · exact opened.of_drives (drives_refresh _) opened.engine

theorem inTime_opened {revisions : List Revision} (real : ∀ r ∈ revisions, r.IsReal) {options : Options}
    (positive : IsPositive options.speed) (title theme : String) (preferences : Option Path) (files : Files) :
    (opened revisions options title theme preferences files).IsInTime := by
  have plain : Operation.play.IsPlain := ⟨trivial, nofun⟩
  have quiet : IsPositive ({ options with autoPlay := false } : Options).speed := positive
  refine inTime_mount ?_ rfl
  exact Engine.create_has (P := Engine.IsInTime) (Engine.inTime_initial real quiet true false [])
    fun _ inTime => Engine.inTime_perform plain inTime

/-! ### What the invariant means -/

/-- **Starting and pausing**: playback is started if it was paused and paused if it went on, and it starts from the
beginning if it was at the last revision. -/
theorem togglePlay_spec {v : Viewer} (inTime : v.IsInTime) {index : Int} (here : v.engine.StandsAt index) :
    ((run .togglePlay v).state.engine.mode = .playing ↔ v.engine.mode ≠ .playing) ∧
      (run .togglePlay v).state.engine.StandsAt
        (if v.engine.mode ≠ .playing ∧ index = v.engine.last then -1 else index) := by
  have positive := inTime.engine.positive
  have atEnd : v.engine.cursor.atLeast v.engine.last = true ↔ index = v.engine.last := by
    rw [Cursor.atLeast_of_number here.1, decide_eq_true_iff]
    exact ⟨fun reached => Int.le_antisymm here.2.2.1 reached, fun same => Int.le_of_eq same.symm⟩
  rw [(engine_run .togglePlay v).engine]
  unfold Command.operations
  simp only [atEnd]
  generalize v.engine = e at *
  by_cases playing : e.mode = .playing
  · have goesOn (p : Prop) : ¬(e.mode ≠ .playing ∧ p) := fun both => both.1 playing
    rw [if_neg (goesOn _), if_neg (goesOn _)]
    have paused : (Engine.toggle e).state.mode = .paused := Engine.toggle_of_playing playing
    refine ⟨iff_of_false ?_ fun rests => rests playing, here.of_samePage (Engine.samePage_toggle e)⟩
    show (Engine.toggle e).state.mode ≠ .playing
    rw [paused]
    nofun
  · by_cases last : index = e.last
    · rw [if_pos ⟨playing, last⟩, if_pos ⟨playing, last⟩]
      -- A reset is no pause: playback starts from there, at the same speed.
      have idle : e.reset.mode ≠ .playing := by
        show Mode.idle ≠ .playing
        nofun
      have kept : e.reset.options = e.options := Engine.options_stopTimer e
      have started : (Engine.toggle e.reset).state.mode = .playing :=
        Engine.toggle_of_resting idle (kept ▸ positive)
      exact ⟨iff_of_true started playing, (Engine.standsAt_reset e).of_samePage (Engine.samePage_toggle _)⟩
    · have before : ¬(e.mode ≠ .playing ∧ index = e.last) := fun both => last both.2
      rw [if_neg before, if_neg before]
      have started : (Engine.toggle e).state.mode = .playing := Engine.toggle_of_resting playing positive
      exact ⟨iff_of_true started playing, here.of_samePage (Engine.samePage_toggle e)⟩

/-- A change of speed shows the same text at the same place, and playback goes on just if it did. -/
theorem changeSpeed_spec {v : Viewer} (inTime : v.IsInTime) {c : Command} (changes : c = .faster ∨ c = .slower) :
    Engine.SamePage v.engine (run c v).state.engine ∧ (run c v).state.engine.mode = v.engine.mode := by
  rw [(engine_run c v).engine]
  rcases changes with rfl | rfl
  · exact (inTime_speedOperations inTime.engine 1).2
  · exact (inTime_speedOperations inTime.engine (-1)).2

/-- **Playback on a screen**, whatever has happened since it was opened.  While the engine plays, one timer is going,
with one call that is to be made, and its period is that of the speed as it is now; otherwise no timer is going.  A
change of speed leaves the place, the text and the mode as they are.  The command to start or pause always does so, and
starts from the beginning if there is nothing left.  The screen has one timer throughout. -/
theorem plays_at_speed {revisions : List Revision} (real : ∀ r ∈ revisions, r.IsReal) {options : Options}
    (positive : IsPositive options.speed) (title theme : String) (preferences : Option Path) (files : Files)
    (events : List Event) :
    let v := follow events (opened revisions options title theme preferences files)
    (v.engine.mode = .playing → ∃ timer,
        (∀ other, v.engine.schedule.isActive other = true ↔ other = timer) ∧
          (∃ c, v.engine.schedule.live timer = [c]) ∧
          v.engine.schedule.period? timer = some v.engine.interval) ∧
      (v.engine.mode ≠ .playing → ∀ timer, v.engine.schedule.isActive timer = false) ∧
      (∀ c, c = .faster ∨ c = .slower →
        (run c v).state.engine.cursor = v.engine.cursor ∧ (run c v).state.engine.content = v.engine.content ∧
          (run c v).state.engine.mode = v.engine.mode) ∧
      (∃ index, v.engine.StandsAt index ∧
        ((run .togglePlay v).state.engine.mode = .playing ↔ v.engine.mode ≠ .playing) ∧
        (v.engine.mode ≠ .playing →
          (run .togglePlay v).state.engine.StandsAt (if index = v.engine.last then -1 else index))) ∧
      v.refreshes = [refreshPeriod] := by
  intro v
  have inTime : v.IsInTime := inTime_follow events (inTime_opened real positive title theme preferences files)
  have keeps := inTime.engine.keeps
  refine ⟨fun playing => ?_, fun rests timer => ?_, fun c changes => ?_, ?_, inTime.refreshes⟩
  · obtain ⟨timer, held, -, waits⟩ := keeps.playing_iff.mp playing
    refine ⟨timer, fun other => ?_, waits, inTime.engine.paced.period timer held⟩
    rw [keeps.held, held, Option.some.injEq]
    exact eq_comm
  · rw [Bool.eq_false_iff]
    intro active
    rw [keeps.held, keeps.timer_eq_none rests] at active
    cases active
  · obtain ⟨page, mode⟩ := changeSpeed_spec inTime changes
    exact ⟨page.cursor, page.content, mode⟩
  · obtain ⟨index, here⟩ := inTime.engine.accurate.stands
    obtain ⟨flips, stands⟩ := togglePlay_spec inTime here
    refine ⟨index, here, flips, fun rests => ?_⟩
    simpa only [rests, ne_eq, not_false_eq_true, true_and] using stands

/-- Playback made faster at the start, and once more when the engine has moved on. -/
def impatientEvents : List Event :=
  [.command .togglePlay, .refresh, .command .faster, .call 0, .command .faster]

theorem plays_at_speed_of_impatient :
    (∀ r ∈ Engine.groupedHistory, r.IsReal) ∧ IsPositive Options.standard.speed ∧
      let v := follow impatientEvents (opened Engine.groupedHistory Options.standard "" "dark" none ⟨[]⟩)
      v.engine.mode = .playing ∧ (v.engine.options.speed == 4.0) = true ∧
        (∃ timer, (∀ other, v.engine.schedule.isActive other = true ↔ other = timer) ∧
          (∃ c, v.engine.schedule.live timer = [c]) ∧ v.engine.schedule.period? timer = some v.engine.interval) ∧
        (run .slower v).state.engine.mode = .playing ∧
        (run .togglePlay v).state.engine.mode ≠ .playing ∧
        v.refreshes = [refreshPeriod] := by
  have real : ∀ r ∈ Engine.groupedHistory, r.IsReal := by decide
  have positive : IsPositive Options.standard.speed :=
    isPositive_of_mem_speedSteps (by simp [Options.standard, speedSteps])
  have reached : let e := (follow impatientEvents
      (opened Engine.groupedHistory Options.standard "" "dark" none ⟨[]⟩)).engine
      e.mode = .playing ∧ (e.options.speed == 4.0) = true := by
    decide +kernel
  obtain ⟨playing, fast⟩ := reached
  obtain ⟨paced, -, changed, ⟨_, -, flips, -⟩, refreshes⟩ :=
    plays_at_speed real positive "" "dark" none ⟨[]⟩ impatientEvents
  refine ⟨real, positive, playing, fast, paced playing, ?_, ?_, refreshes⟩
  · exact (changed .slower (Or.inr rfl)).2.2.trans playing
  · exact fun starts => flips.mp starts playing

end Viewer

end EditHistory
