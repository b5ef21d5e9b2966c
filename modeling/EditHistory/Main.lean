import EditHistory.CommandLine.Program

/-!
# The executable

Runs the program on the files of the disk and shows the viewer line by line on a terminal.  There is no connection to
the document service, so every request fails.
-/

namespace EditHistory.Executable

open CommandLine

/-- The service that cannot be reached. -/
def unreachable : Web.Server := fun _ _ => .failure "no connection"

/-- The files with the one that is on the disk at a path added. -/
def addFromDisk (files : Files) (path : Path) : IO Files := do
  let place := (← IO.currentDir) / path.text
  if ← place.isDir then
    return (files.makeDirs path).2
  else if ← place.pathExists then
    let bytes ← IO.FS.readBinFile place
    let made := (files.makeDirs path.parent).2
    return (made.write path bytes.toList).toOption.getD made
  else return files

/-- Writes the files that have changed to the disk, and removes those that are gone. -/
def writeToDisk (before after : Files) : IO Unit := do
  let here ← IO.currentDir
  for path in after.paths do
    let p := Path.read path
    match after.read p, before.read p with
    | .ok bytes, .ok old =>
      if bytes ≠ old then IO.FS.writeBinFile (here / path) ⟨bytes.toArray⟩
    | .ok bytes, .error _ =>
      IO.FS.createDirAll (here / p.parent.text)
      IO.FS.writeBinFile (here / path) ⟨bytes.toArray⟩
    | .error _, _ => pure ()
  for path in before.paths do
    if !after.has (Path.read path) then IO.FS.removeFile (here / path)

/-- Shows a viewer. -/
def draw (v : Viewer) : IO Unit := do
  let info := match Terminal.Markup.plain v.view.info.toList with
    | .ok cs => String.ofList cs
    | .error _ => v.view.info
  IO.println info
  IO.println (String.ofList (Terminal.printed v.view.text))

/-- What is left of a viewer after a command, whether or not it failed. -/
def after (x : Action Viewer Viewer.Error Unit) (v : Viewer) : IO Viewer := do
  let step := x v
  match step.outcome with
  | .ok _ => pure ()
  | .error e => IO.eprintln e.message
  return step.state

/-- Lets a viewer play until playback ends. -/
partial def play (v : Viewer) : IO Viewer := do
  draw v
  if v.engine.mode = .playing then
    IO.sleep (v.engine.interval * 1000.0).toUInt32
    play (← after (do
      let _ ← Viewer.fire
      Viewer.refresh) v)
  else return v

/-- Shows a viewer and follows the keys that are typed, one on a line, up to `q`. -/
partial def follow (input : IO.FS.Stream) (v : Viewer) : IO Viewer := do
  let v ← play v
  let line ← input.getLine
  let key := line.trimAscii.toString
  if line.isEmpty || key = "q" then return v.unmount
  else match Viewer.Command.ofKey? key with
    | some command => follow input (← after (Viewer.run command) v)
    | none => follow input v

/-- The directory in which files are kept unless something else is said. -/
def homeDirectory : IO String := do
  return (← IO.getEnv "HOME").getD "." ++ "/.docrewind/"

end EditHistory.Executable

open EditHistory CommandLine in
/-- Runs the program with the words of the command line. -/
def main (words : List String) : IO UInt32 := do
  let home ← Executable.homeDirectory
  let surroundings : Surroundings :=
    { preferences := Path.read (home ++ "preferences.yaml")
      tokenFile := Path.read (home ++ "auth_token.json")
      token := ← IO.getEnv "DOCREWIND_ACCESS_TOKEN" }
  let args := (Arguments.read words).toOption.getD Arguments.none
  let files ← ([surroundings.preferences, surroundings.tokenFile] ++ args.preferences.toList ++
    (args.source.map Path.read).toList).foldlM Executable.addFromDisk Files.empty
  let input ← IO.getStdin
  let typed ← if args.login then input.getLine else pure ""
  let x := Program.start surroundings words
    (Console.begin (Session.begin Executable.unreachable files (.float 0.0)) typed.toList)
  IO.print (String.ofList x.state.out)
  IO.eprint (String.ofList x.state.err)
  for record in x.log do
    IO.eprintln (record.level.name ++ " " ++ record.message)
  Executable.writeToDisk files x.state.session.files
  for viewer in x.state.launched do
    let opened ← Executable.after Viewer.mount viewer
    let closed ← Executable.follow input opened
    Executable.writeToDisk x.state.session.files closed.files
  match x.outcome with
  | .ok ending =>
    IO.print ending.banner
    return UInt32.ofNat ending.code
  | .error e =>
    IO.eprintln e.message
    return 1
