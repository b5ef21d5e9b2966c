import EditHistory.Playback.Speeds
import EditHistory.Preferences.Store
import EditHistory.Terminal.Cells
import EditHistory.Viewer.Tagged
import EditHistory.Viewer.View

/-!
# The viewer

The viewer shows an engine on a screen and lets a user control it with keys and buttons.  The engine tells nothing by
itself: the screen is refreshed after each command of the user, and regularly while it is open.  A change of speed
takes effect at once and is stored in the preferences.

## Main definitions

* `Viewer` — the engine, what is shown of it, and the files
* `Viewer.create`, `Viewer.mount`, `Viewer.unmount` — the screen opened and closed
* `Command`, `Viewer.run` — what the user can do
* `Viewer.press` — a button pressed
-/

namespace EditHistory

open Playback

/-- An engine on a screen. -/
structure Viewer where
  engine : Engine
  view : Viewer.View
  title : String
  /-- The colours that the user has chosen. -/
  theme : String
  /-- Whether playback starts when the screen opens. -/
  autoPlay : Bool
  /-- The file in which a change of speed is stored. -/
  preferences : Option Path
  files : Files
  /-- The periods, in seconds, of the timers that refresh the screen. -/
  refreshes : List Float

namespace Viewer

/-- Why a command fails. -/
inductive Error where
  | playback (fault : Fault)
  | preferences (error : Preferences.Error)
  /-- The tags in the header make no sense. -/
  | header

/-- The wording of an error. -/
def Error.message : Error → String
  | .playback fault => fault.message
  | .preferences e => e.message
  | .header => "the tags in the header make no sense"

/-- The title of a screen that has been given none. -/
def usualTitle : String := "DocRewind"

/-- The seconds between two refreshes of an open screen. -/
def refreshPeriod : Float := 0.1

/-- The colours that the screen has for those that the user has chosen. -/
def colours (theme : String) : String :=
  if theme = "light" then "textual-light" else "textual-dark"

/-- A viewer whose screen is not open yet.  The engine does not play before it is. -/
def create (revisions : List Revision) (options : Options) (title : String) (theme : String)
    (preferences : Option Path) (files : Files) : Step Viewer Error Unit :=
  let created := Engine.create revisions { options with autoPlay := false } true (Schedule.initial false) []
  let viewer : Viewer :=
    { engine := created.state, view := .blank, title := if title = "" then usualTitle else title, theme,
      autoPlay := options.autoPlay, preferences, files, refreshes := [] }
  ⟨⟨created.log, created.outcome.mapError .playback⟩, viewer⟩

/-- An action on the engine. -/
def onEngine {α : Type} (x : Action Engine Fault α) : Action Viewer Error α :=
  (x.within Viewer.engine fun v engine => { v with engine }).mapError .playback

/-- A change of the engine that cannot fail. -/
def changeEngine (f : Engine → Engine) : Action Viewer Error Unit :=
  Action.modify fun v => { v with engine := f v.engine }

/-- Whether the screen takes the header of a view. -/
def takesHeader (view : View) : Bool :=
  Tagged.isFit (view.info.toList.filter fun c => !Terminal.isCursorControl c)

/-- Shows the engine as it is now. -/
def refresh : Action Viewer Error Unit := fun v =>
  match View.ofEngine v.engine with
  | .ok view => if takesHeader view then .done () { v with view } else .failed .header v
  | .error fault => .failed (.playback fault) v

/-- Opens the screen. -/
def mount : Action Viewer Error Unit := do
  Action.modify fun v => { v with refreshes := refreshPeriod :: v.refreshes }
  let v ← Action.get
  if v.autoPlay && !v.engine.revisions.isEmpty then
    let _ ← onEngine Engine.play
    refresh
  else refresh

/-- Closes the screen. -/
def unmount (v : Viewer) : Viewer :=
  { v with engine := v.engine.close }

/-! ### Commands -/

/-- What the user can do. -/
inductive Command where
  | togglePlay
  | stepForward
  | stepBackward
  | reset
  | jumpToEnd
  | faster
  | slower
  deriving DecidableEq, Repr

/-- The commands by name. -/
def Command.names : List (String × Command) :=
  [("toggle_play", .togglePlay), ("step_forward", .stepForward), ("step_backward", .stepBackward), ("reset", .reset),
    ("jump_end", .jumpToEnd), ("faster", .faster), ("slower", .slower)]

/-- The command that has a name. -/
def Command.ofName? (name : String) : Option Command := Command.names.lookup name

/-- The command of a key. -/
def Command.ofKey? (key : String) : Option Command :=
  [("space", Command.togglePlay), ("right", .stepForward), ("left", .stepBackward), ("home", .reset),
    ("end", .jumpToEnd), ("plus", .faster), ("minus", .slower)].lookup key

/-- The command of a button. -/
def Command.ofButton : Button → Command
  | .reset => .reset
  | .stepBack => .stepBackward
  | .playPause => .togglePlay
  | .stepForward => .stepForward

/-- Starts or pauses playback; at the last revision it starts from the beginning. -/
def togglePlay : Action Viewer Error Unit := do
  let v ← Action.get
  if v.engine.mode ≠ .playing ∧ v.engine.cursor.atLeast v.engine.last then
    changeEngine Engine.reset
    let _ ← onEngine Engine.toggle
    refresh
  else
    let _ ← onEngine Engine.toggle
    refresh

/-- Starts the timer anew if playback goes on, so that a new speed takes effect. -/
def restart : Action Viewer Error Unit := do
  let v ← Action.get
  if v.engine.mode = .playing then
    let _ ← onEngine Engine.pause
    let _ ← onEngine Engine.play
    return ()
  else return ()

/-- Stores a speed in the preferences, if the viewer has any. -/
def storeSpeed (speed : Float) : Action Viewer Error Unit := do
  let v ← Action.get
  match v.preferences with
  | none => return ()
  | some path =>
    ((Preferences.saveSpeed path (.float speed)).within Viewer.files fun v files => { v with files }).mapError
      .preferences

/-- Changes the speed by a number of steps; at the end of the steps nothing happens. -/
def changeSpeed (delta : Int) : Action Viewer Error Unit := do
  let v ← Action.get
  let speed := stepSpeed delta v.engine.options.speed
  if speed == v.engine.options.speed then return ()
  else
    onEngine (Engine.setOptions (.object [("speed", .float speed)]))
    restart
    storeSpeed speed
    refresh

/-- Does what a command says. -/
def run : Command → Action Viewer Error Unit
  | .togglePlay => togglePlay
  | .stepForward => do
    let _ ← onEngine Engine.stepForward
    refresh
  | .stepBackward => do
    let _ ← onEngine Engine.stepBackward
    refresh
  | .reset => do
    changeEngine Engine.reset
    refresh
  | .jumpToEnd => do
    let _ ← onEngine Engine.jumpToEnd
    refresh
  | .faster => changeSpeed 1
  | .slower => changeSpeed (-1)

/-- Presses a button; one that is shown as disabled does nothing. -/
def press (button : Button) : Action Viewer Error Unit := fun v =>
  if v.view.disabled.contains button then .done () v else run (.ofButton button) v

/-- Makes the earliest waiting call of the engine; false if there is none.  The screen stays as it is. -/
def fire : Action Viewer Error Bool := onEngine Engine.fire

end Viewer

end EditHistory
