import EditHistory.Proofs.Playback.Speeds
import EditHistory.Proofs.Viewer.Playing

/-!
# Faster and slower

The speed of a viewer is the one that it was opened with until it is changed, and from then on one of the list.  A
change of speed is a step on the list, whether it can be stored and shown or not.  So the only speed that is off the
list is the first one, and it is the only one at which "faster" can make playback slower, or "slower" faster.

## Main definitions

* `Command.delta?` — the step that a command takes

## Main statements

* `Viewer.speed_run` — the speed after a command
* `Viewer.speed_follow` — the speed at all times
* `Viewer.faster_lowers_iff` — faster and slower, whatever has happened
-/

namespace EditHistory

open Playback Number

namespace Viewer

/-- The speed of the engine on the screen. -/
def speed (v : Viewer) : Float := v.engine.options.speed

/-- The step of speed that a command takes, if it takes one. -/
def Command.delta? : Command → Option Int
  | .faster => some 1
  | .slower => some (-1)
  | _ => none

/-- The speed after a command that asks for a speed. -/
def Command.speedFrom (c : Command) (speed : Float) : Float :=
  match c.delta? with
  | some delta => stepSpeed delta speed
  | none => speed

theorem options_of_plain {ops : List Operation} (plain : ∀ op ∈ ops, ∀ v, op ≠ .setOptions v) (e : Engine) :
    (Engine.run ops e).options = e.options := by
  induction ops generalizing e with
  | nil => rfl
  | cons op ops ih =>
      obtain ⟨first, rest⟩ := List.forall_mem_cons.mp plain
      exact (ih rest _).trans (Engine.options_perform first e)

/-- A change of speed takes the step, even where the step leads nowhere. -/
theorem speed_speedOperations (delta : Int) (e : Engine) :
    (Engine.run (speedOperations delta e) e).options.speed = stepSpeed delta e.options.speed := by
  have positive := isPositive_stepSpeed delta e.options.speed
  unfold speedOperations
  split
  · rename_i same
    exact (eq_of_beq positive same).symm
  · have plain : ∀ op ∈ (if e.mode = .playing then [.pause, .play] else [] : List Operation),
        ∀ v, op ≠ .setOptions v := by
      split <;> simp
    rw [Engine.run, Engine.perform_setOptions_speed positive, options_of_plain plain]
    rfl

/-- **The speed after a command.** -/
theorem speed_run (c : Command) (v : Viewer) : (run c v).state.speed = c.speedFrom v.speed := by
  unfold speed
  rw [(engine_run c v).engine]
  cases c with
  | faster => exact speed_speedOperations 1 v.engine
  | slower => exact speed_speedOperations (-1) v.engine
  | togglePlay =>
      refine congrArg Options.speed (options_of_plain ?_ v.engine)
      unfold Command.operations
      simp only
      split <;> simp
  | _ => exact congrArg Options.speed (options_of_plain (by simp [Command.operations]) v.engine)

/-- The speed after an event is the one before, or one of the list. -/
theorem speed_handle (event : Event) (v : Viewer) :
    (handle event v).state.speed = v.speed ∨ (handle event v).state.speed ∈ speedSteps := by
  cases event with
  | command c =>
      show (run c v).state.speed = v.speed ∨ (run c v).state.speed ∈ speedSteps
      rw [speed_run, Command.speedFrom]
      cases c.delta? with
      | none => exact Or.inl rfl
      | some delta => exact Or.inr (stepSpeed_mem delta v.speed)
  | call place =>
      have drives : Drives v (Engine.fireAt place v.engine).state (handle (.call place) v).state :=
        Drives.bind ⟨rfl, rfl⟩ fun _ _ => ⟨rfl, rfl⟩
      unfold speed
      rw [drives.engine]
      exact Or.inl (congrArg Options.speed (Engine.options_serve _ v.engine))
  | refresh =>
      unfold speed
      exact Or.inl (congrArg (fun e : Engine => e.options.speed) (drives_refresh v).engine)

/-- **The speed at all times** is the one at the start, or one of the list. -/
theorem speed_follow (events : List Event) (v : Viewer) :
    (follow events v).speed = v.speed ∨ (follow events v).speed ∈ speedSteps := by
  induction events generalizing v with
  | nil => exact Or.inl rfl
  | cons event events ih =>
      rcases ih (handle event v).state with same | step
      · rcases speed_handle event v with same' | step
        · exact Or.inl (same.trans same')
        · exact Or.inr (same ▸ step)
      · exact Or.inr step

theorem speed_mount (v : Viewer) : (mount v).state.speed = v.speed := by
  show Action.ComesTo mount v fun _ w => w.speed = v.speed
  refine Action.ComesTo.done (a := ()) rfl (Action.ComesTo.done (a := { v with refreshes := _ }) rfl ?_)
  unfold Action.ComesTo speed
  split
  · rw [(drives_onEngine Engine.play _).engine, Engine.options_play]
  · rw [(drives_refresh _).engine]

/-- A viewer is opened with the speed that it is given. -/
theorem speed_opened (revisions : List Revision) (options : Options) (title theme : String) (preferences : Option Path)
    (files : Files) : (opened revisions options title theme preferences files).speed = options.speed := by
  rw [opened, speed_mount]
  exact Engine.create_has (P := fun e : Engine => e.options.speed = options.speed) rfl
    fun e same => (congrArg Options.speed (Engine.options_play e)).trans same

theorem zero_lt_of_mem_speedSteps {speed : Float} (step : speed ∈ speedSteps) : 0.0 < speed :=
  zero_lt_iff.mpr (Or.inl (isPositive_of_mem_speedSteps step))

/-- **Faster and slower**, whatever has happened since a viewer was opened with a positive speed, be it infinite.  Both
commands lead to a speed of the list.  A faster one is not lower, unless the speed was above the list, and a slower one
is not higher, unless it was below.  That can only be the speed that the viewer was opened with: every other one is on
the list. -/
theorem faster_lowers_iff {options : Options} (positive : 0.0 < options.speed) (revisions : List Revision)
    (title theme : String) (preferences : Option Path) (files : Files) (events : List Event) :
    let v := follow events (opened revisions options title theme preferences files)
    let faster := (run .faster v).state.engine.options.speed
    let slower := (run .slower v).state.engine.options.speed
    faster ∈ speedSteps ∧ slower ∈ speedSteps ∧
      (faster < v.engine.options.speed ↔ 8.0 < v.engine.options.speed) ∧
      (v.engine.options.speed < slower ↔ v.engine.options.speed < 0.25) ∧
      (v.engine.options.speed = options.speed ∨ v.engine.options.speed ∈ speedSteps) := by
  intro v faster slower
  have now : v.speed = options.speed ∨ v.speed ∈ speedSteps := by
    have kept := speed_follow events (opened revisions options title theme preferences files)
    rwa [speed_opened] at kept
  have above : 0.0 < v.speed := by
    rcases now with same | step
    · rwa [same]
    · exact zero_lt_of_mem_speedSteps step
  have up : faster = stepSpeed 1 v.speed := speed_run .faster v
  have down : slower = stepSpeed (-1) v.speed := speed_run .slower v
  rw [up, down]
  have lowers := stepSpeed_lt_iff above (show (0 : Int) < 1 by decide)
  have raises := lt_stepSpeed_iff above (show (-1 : Int) < 0 by decide)
  exact ⟨stepSpeed_mem _ _, stepSpeed_mem _ _, lowers, raises, now⟩

/-- A viewer that is opened at sixteen times the normal speed, and on which nothing has happened but a refresh: asking
for more makes playback slower. -/
theorem faster_lowers_iff_of_sixteen :
    0.0 < (⟨16.0, false⟩ : Options).speed ∧
      let v := follow [.refresh] (opened [] ⟨16.0, false⟩ "" "dark" none ⟨[]⟩)
      8.0 < v.engine.options.speed ∧
        (run .faster v).state.engine.options.speed < v.engine.options.speed ∧
        (run .faster v).state.engine.options.speed ∈ speedSteps ∧
        ¬ v.engine.options.speed < (run .slower v).state.engine.options.speed := by
  have positive : 0.0 < (⟨16.0, false⟩ : Options).speed := by decide +kernel
  have beyond : 8.0 < (follow [.refresh] (opened [] ⟨16.0, false⟩ "" "dark" none ⟨[]⟩)).engine.options.speed ∧
      ¬ (follow [.refresh] (opened [] ⟨16.0, false⟩ "" "dark" none ⟨[]⟩)).engine.options.speed < 0.25 := by
    decide +kernel
  obtain ⟨step, -, lowers, raises, -⟩ := faster_lowers_iff positive [] "" "dark" none ⟨[]⟩ [.refresh]
  exact ⟨positive, beyond.1, lowers.mpr beyond.1, step, fun higher => beyond.2 (raises.mp higher)⟩

end Viewer

end EditHistory
