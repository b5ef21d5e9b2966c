import EditHistory.Playback.Options
import EditHistory.Text.Uppercase
import EditHistory.Yaml.Load

/-!
# Preferences

What a user has chosen: how playback starts, the colours, the client that signs in, and how much is logged.  They are
read from a document whose sections may hold anything; what cannot be used keeps its usual value.

## Main definitions

* `Preferences`, `Preferences.usual` — the preferences, and those of a user who has chosen nothing
* `Preferences.ofData` — the preferences in a document
-/

namespace EditHistory

open Playback Yaml

/-- The colours that a user may ask for. -/
inductive Theme where
  | light
  | dark
  | system
  deriving DecidableEq, Repr

/-- The name of a choice of colours. -/
def Theme.name : Theme → String
  | .light => "light"
  | .dark => "dark"
  | .system => "system"

/-- The choice of colours that has a name. -/
def Theme.ofName? (name : String) : Option Theme :=
  [Theme.light, .dark, .system].find? fun t => t.name == name

/-- What a user has chosen. -/
structure Preferences where
  playback : Options
  theme : Theme
  clientId : String
  logLevel : String

namespace Preferences

/-- The preferences of a user who has chosen nothing. -/
def usual : Preferences := ⟨Options.standard, .system, "", "WARNING"⟩

/-- Why the preferences in a document cannot be used at all. -/
inductive DataFault where
  /-- The speed is an integer beyond the largest double. -/
  | speedTooLarge
  /-- The name of the client holds an integer that is too long to be written. -/
  | clientIdTooLong
  deriving DecidableEq, Repr

/-- The wording of a fault. -/
def DataFault.message : DataFault → String
  | .speedTooLarge => "int too large to convert to float"
  | .clientIdTooLong => Number.limitMessage none

/-- The speed in a section: a number above zero. -/
def readSpeed (usual : Float) : Option Data → Except DataFault Float
  | some (.int n) =>
    if 0 < n then
      match Number.ofInt? n with
      | some x => .ok x
      | none => .error .speedTooLarge
    else .ok usual
  | some (.float x) => .ok (if x > 0 then x else usual)
  | _ => .ok usual

/-- The value of a name in a section. -/
def choice? (part : Option Place) (name : String) : Option Place :=
  part.bind fun p => p.get? name

/-- The choices for playback in a section. -/
def readPlayback (o : Options) (part : Option Place) : Except DataFault Options := do
  let speed ← readSpeed o.speed ((choice? part "speed").map Place.data)
  return ⟨speed, (choice? part "auto_play").elim o.autoPlay fun p => p.data.truthy⟩

/-- The choice of colours in a section. -/
def readTheme (usual : Theme) (part : Option Place) : Theme :=
  match (choice? part "theme").map Place.data with
  | some (.str name) => (Theme.ofName? (String.ofList name)).getD usual
  | _ => usual

/-- The name of the client in a section. -/
def readClientId (usual : String) (part : Option Place) : Except DataFault String :=
  match choice? part "client_id" with
  | some p =>
    if !p.data.truthy then .ok usual
    else if p.data.holdsLongInt then .error .clientIdTooLong
    else .ok (String.ofList p.text)
  | none => .ok usual

/-- The name of the level in a section. -/
def readLogLevel (usual : String) (part : Option Place) : String :=
  match (choice? part "level").map Place.data with
  | some (.str name) => String.ofList (Text.upper name)
  | _ => usual

/-- The preferences in a document. -/
def ofData (d : Data) : Except DataFault Preferences := do
  let root : Place := ⟨d, []⟩
  let playback ← readPlayback usual.playback (root.get? "playback")
  let clientId ← readClientId usual.clientId (root.get? "auth")
  return ⟨playback, readTheme usual.theme (root.get? "display"), clientId,
    readLogLevel usual.logLevel (root.get? "logging")⟩

end Preferences

end EditHistory
