import EditHistory.Playback.Engine

/-!
# The status of playback

A few lines about the engine, with markup for a terminal.
-/

namespace EditHistory.Playback

/-- The mode, with markup. -/
def Mode.markup : Mode → String
  | .idle => "[dim]idle[/dim]"
  | .playing => "[green]▶ playing[/green]"
  | .paused => "[yellow]⏸ paused[/yellow]"
  | .loading => "[blue]loading[/blue]"
  | .error => "[red]error[/red]"

namespace Engine

/-- The position counted from one: the cursor plus one. -/
def position (e : Engine) : Number :=
  (e.cursor.moved 1).number

/-- How much of the history has been shown, from 0 to 100. -/
def progress (e : Engine) : Float :=
  if e.revisions.isEmpty then 0.0
  else (e.position.toFloat?.getD 0.0) / Float.ofNat e.revisions.length * 100.0

/-- The width of the progress bar. -/
def barWidth : Nat := 30

/-- The progress bar. -/
def bar (e : Engine) : String :=
  let filled := (Number.truncated? (e.progress / 100.0 * Float.ofNat barWidth)).getD 0
  String.ofList (List.replicate filled.toNat '█' ++ List.replicate (barWidth - filled).toNat '░')

/-- The speed as it is shown: six significant digits. -/
def speedText (e : Engine) : String :=
  String.ofList (Number.general e.options.speed) ++ "x"

/-- The line about the revision at the cursor. -/
def currentLine : Option Revision → List String
  | none => []
  | some r => ["  Current: " ++ r.id ++ " (" ++ showNat r.commands.length ++ " commands)"]

/-- The status of playback, with markup. -/
def status (e : Engine) : Except Fault String :=
  e.current?.map fun current =>
    String.intercalate "\n"
      (["[bold]Playback[/bold] " ++ e.mode.markup, "",
        "  Revision: " ++ String.ofList e.position.text ++ "/" ++ showNat e.revisions.length,
        "  Speed: " ++ e.speedText,
        "  [" ++ e.bar ++ "]"] ++ currentLine current)

end Engine

end EditHistory.Playback
