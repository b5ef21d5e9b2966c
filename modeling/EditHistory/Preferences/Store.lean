import EditHistory.Action
import EditHistory.Files
import EditHistory.Preferences
import EditHistory.Preferences.SpeedLine
import EditHistory.Value.Field

/-!
# The file of the preferences

The preferences are kept in a file that the user may edit.  Where there is none yet, one is made that explains them.
A file that cannot be read, or that is malformed, counts as if the user had chosen nothing.

## Main definitions

* `Preferences.load` — the preferences in a file
* `Preferences.saveSpeed` — a speed stored in a file
-/

namespace EditHistory.Preferences

open Yaml

/-- The text of a file in which nothing has been chosen. -/
def usualText : String :=
  "# DocRewind Preferences
# Delete this file to reset to defaults.

playback:
  speed: 1.0                     # autoplay speed multiplier (0.25 - 8.0)
  auto_play: false               # start playing as soon as revisions load

display:
  theme: \"system\"                # light, dark or system

auth:
  client_id: \"\"                  # Google OAuth client id

logging:
  level: \"WARNING\"               # DEBUG, INFO, WARNING or ERROR
"

/-- Why the preferences in a file cannot be had. -/
inductive Error where
  /-- The path names no file. -/
  | path (file : Path) (fault : FileFault)
  /-- The file is not text. -/
  | undecodable
  /-- The file holds a scalar that stands for nothing. -/
  | yaml (error : Yaml.Error)
  | data (fault : DataFault)
  /-- The speed to be stored is no number. -/
  | speed (error : DoubleError)

/-- The wording of an error. -/
def Error.message : Error → String
  | .path file fault => fault.message file
  | .undecodable => "the file is not text"
  | .yaml e => e.message
  | .data fault => fault.message
  | .speed e => e.message

/-- The files after as many steps of making a file and its directory as succeed, and what kept the next one from
succeeding. -/
def writeWithDirs (path : Path) (text : List Char) (files : Files) : Option FileFault × Files :=
  match files.makeDirs path.parent with
  | (some fault, made) => (some fault, made)
  | (none, made) =>
    match made.writeText path text with
    | .error fault => (some fault, made)
    | .ok written => (none, written)

/-- Makes the file in which nothing has been chosen. -/
def writeUsual (path : Path) : Action Files Error Preferences := fun files =>
  match writeWithDirs path usualText.toList files with
  | (none, files) => .done usual files
  | (some .nul, files) => .failed (.path path .nul) files
  | (some _, files) => (Step.done usual files).noting .debug ("Could not write default preferences to " ++ path.text)

/-- The preferences in the text of a file. -/
def ofText (text : List Char) : Except Error Preferences :=
  match Yaml.load text with
  | .error e => .error (.yaml e)
  | .ok d => (ofData d).mapError .data

/-- The preferences in a file that is there. -/
def readFrom (path : Path) : Action Files Error Preferences := fun files =>
  let unreadable :=
    (Step.done usual files).noting .warning ("Could not read preferences from " ++ path.text ++ ", using defaults")
  match files.readText path with
  | .error .undecodable => .failed .undecodable files
  | .error (.fault _) => unreadable
  | .ok text =>
    match ofText text with
    | .ok prefs => .done prefs files
    | .error (.yaml e) => if e.isMalformed then unreadable else .failed (.yaml e) files
    | .error e => .failed e files

/-- The preferences in a file.  A name that is too long is no missing file. -/
def load (path : Path) : Action Files Error Preferences := fun files =>
  match files.locate path with
  | .ok _ => readFrom path files
  | .error .nameTooLong => .failed (.path path .nameTooLong) files
  | .error _ => writeUsual path files

/-- The text in which a speed is to be stored, and the files, in which the directory has been made; nothing if that
cannot be done. -/
def textToChange (path : Path) (files : Files) : Except Error (Option (List Char) × Files) :=
  match files.readText path with
  | .ok text => .ok (some text, files)
  | .error .undecodable => .error .undecodable
  | .error (.fault fault) =>
    if files.has path || fault = .nameTooLong then .ok (none, files)
    else match files.makeDirs path.parent with
      | (none, made) => .ok (some usualText.toList, made)
      | (some .nul, _) => .error (.path path .nul)
      | (some _, made) => .ok (none, made)

/-- Stores a speed in a file. -/
def saveSpeed (path : Path) (speed : Value) : Action Files Error Unit := fun files =>
  let notSaved (files : Files) : Step Files Error Unit :=
    (Step.done () files).noting .debug "Could not persist playback speed"
  match textToChange path files with
  | .error e => .failed e files
  | .ok (none, files) => notSaved files
  | .ok (some text, files) =>
    match speed.toDouble with
    | .error e => .failed (.speed e) files
    | .ok x =>
      match files.writeText path (SpeedLine.replace x text) with
      | .ok files => .done () files
      | .error .nul => .failed (.path path .nul) files
      | .error _ => notSaved files

end EditHistory.Preferences
