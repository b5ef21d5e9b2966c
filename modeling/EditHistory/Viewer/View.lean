import EditHistory.Playback.Status

/-!
# What the viewer shows

A view is what the parts of the screen show: a header about the playback, the document, and four buttons.  It is
taken from the engine when the screen is refreshed and stays as it is until the next time.

## Main definitions

* `Button` — the buttons
* `View` — what is shown
* `View.ofEngine` — what is to be shown of an engine
-/

namespace EditHistory.Viewer

open Playback

/-- The buttons below the document. -/
inductive Button where
  | reset
  | stepBack
  | playPause
  | stepForward
  deriving DecidableEq, Repr

/-- The buttons from left to right. -/
def Button.all : List Button := [.reset, .stepBack, .playPause, .stepForward]

/-- The name of a button. -/
def Button.name : Button → String
  | .reset => "reset"
  | .stepBack => "step-back"
  | .playPause => "play-pause"
  | .stepForward => "step-forward"

/-- The button that has a name. -/
def Button.ofName? (name : String) : Option Button :=
  Button.all.find? fun b => b.name == name

/-- What the screen shows. -/
structure View where
  /-- The header, with markup. -/
  info : String
  /-- The text of the document. -/
  text : Document
  /-- Whether playback goes on, which the label of a button tells. -/
  playing : Bool
  disabled : List Button

namespace View

/-- The screen before it is first refreshed. -/
def blank : View := ⟨"", [], false, []⟩

/-- What stands in place of a document without text, with markup. -/
def placeholder : String := "[dim]No document content to display[/dim]"

/-- The label of a button. -/
def label (view : View) : Button → String
  | .reset => "⏮ Reset"
  | .stepBack => "◀ Back"
  | .playPause => if view.playing then "⏸ Pause" else "▶ Play"
  | .stepForward => "Next ▶"

/-- The name of the revision at the cursor, with markup. -/
def revisionPart : Option Revision → String
  | some r => "  [dim]" ++ r.id ++ "[/dim]"
  | none => ""

/-- The header about an engine, with markup. -/
def header (e : Engine) (current : Option Revision) : String :=
  "Revision: " ++ String.ofList e.position.text ++ "/" ++ showNat e.revisions.length ++ revisionPart current ++
    "   State: " ++ e.mode.name ++ "   Speed: " ++ e.speedText

/-- Whether a button would do nothing: back before the first revision, and forward at the last. -/
def isDisabled (e : Engine) : Button → Bool
  | .stepBack => e.cursor.isBefore
  | .stepForward => e.cursor.atLeast e.last
  | _ => false

/-- What is to be shown of an engine. -/
def ofEngine (e : Engine) : Except Fault View :=
  e.current?.map fun current =>
    { info := header e current
      text := e.content
      playing := e.mode = .playing
      disabled := Button.all.filter (isDisabled e) }

end View

end EditHistory.Viewer
