import EditHistory.CommandLine.Arguments
import EditHistory.Docs.Client
import EditHistory.Log.Logger
import EditHistory.Revision.Archive
import EditHistory.Terminal.Cells
import EditHistory.Terminal.Markup
import EditHistory.Viewer

/-!
# The program

What the words of a command line bring about: signing in, printing a document as it was at a revision, or showing the
history in the viewer.  The history comes from a file or from the document service.

A run ends with a code: zero if all went well, one if there is no history to be had, two if the arguments make no
sense.

## Main definitions

* `Console` — what the program prints and starts, and the world around it
* `Surroundings` — where files are kept, and what the environment says
* `Program.run` — a run
* `Program.start` — a run from the words of the command line
-/

namespace EditHistory.CommandLine

open Playback Terminal

/-- Where files are kept unless something else is said, and the token that the environment gives. -/
structure Surroundings where
  preferences : Path
  tokenFile : Path
  token : Option String

/-- What the program has printed and started so far, what is still to be typed, and the world around it. -/
structure Console where
  session : Session
  /-- What is still to be typed. -/
  typed : List Char
  out : List Char
  err : List Char
  launched : List Viewer

/-- A console on which nothing has been printed. -/
def Console.begin (session : Session) (typed : List Char) : Console := ⟨session, typed, [], [], []⟩

/-- Why a run stops. -/
inductive Error where
  | preferences (error : Preferences.Error)
  | archive (error : ArchiveError)
  | docs (error : Docs.Error)
  | auth (error : Auth.Error)
  | payload (error : PayloadError)
  | code (error : Auth.CodeError)
  /-- The document is named by something that is neither its address nor its name. -/
  | noDocument
  /-- The preferences do not say which client signs in. -/
  | noClient
  /-- A message has markup that makes no sense. -/
  | markup (fault : Markup.Fault)
  /-- Nothing more is typed. -/
  | endOfInput
  | playback (fault : Fault)
  | viewer (error : Viewer.Error)

/-- The wording of an error. -/
def Error.message : Error → String
  | .preferences e => e.message
  | .archive e => e.message
  | .docs e => e.message
  | .auth e => e.message
  | .payload e => e.message
  | .code e => e.message
  | .noDocument => Docs.invalidIdMessage
  | .noClient => "Set auth.client_id in the preferences file to sign in"
  | .markup fault => fault.message
  | .endOfInput => "the input has ended"
  | .playback fault => fault.message
  | .viewer e => e.message

/-- Whether a question to the document service failed in a way that is reported. -/
def isExpectedFailure : Docs.Error → Bool
  | .signedOut | .failed .. => true
  | .auth e => e.isExpected
  | _ => false

/-- Whether an error is reported to the user as the reason why there is no history. -/
def Error.isExpected : Error → Bool
  | .archive e => e.isExpected
  | .docs e => isExpectedFailure e
  | .auth e => e.isExpected
  | .payload _ | .code .noCode | .noDocument | .noClient => true
  | _ => false

namespace Program

/-- An action of the program. -/
abbrev Task (α : Type) := Action Console Error α

/-- An action on the world. -/
def onSession {ε α : Type} (f : ε → Error) (x : Action Session ε α) : Task α :=
  (x.within Console.session fun c session => { c with session }).mapError f

/-- An action of which the log keeps what a logger passes on. -/
def logged {α : Type} (logger : Logger) (x : Task α) : Task α := fun c =>
  ⟨⟨logger.filter (x c).log, (x c).outcome⟩, (x c).state⟩

/-! ### Printing -/

/-- Prints a text with markup; no line end follows. -/
def write (text : String) : Task Unit := do
  let plain ← Action.ofExcept ((Markup.plain text.toList).mapError .markup)
  Action.modify fun c => { c with out := c.out ++ printed plain }

/-- Prints a line with markup. -/
def say (text : String) : Task Unit := do
  write text
  Action.modify fun c => { c with out := c.out ++ ['\n'] }

/-- Prints a line as it is. -/
def sayPlain (text : List Char) : Task Unit :=
  Action.modify fun c => { c with out := c.out ++ printed text ++ ['\n'] }

/-- Prints a line with markup beside the output. -/
def warn (text : String) : Task Unit := do
  let plain ← Action.ofExcept ((Markup.plain text.toList).mapError .markup)
  Action.modify fun c => { c with err := c.err ++ printed plain ++ ['\n'] }

/-- Prints an error. -/
def complain (text : String) : Task Unit := warn ("[red]Error:[/red] " ++ text)

/-- Takes the next line that is typed. -/
def readLine : Task (List Char) := fun c =>
  match c.typed with
  | [] => .failed .endOfInput c
  | typed =>
    let (line, rest) := Text.cutAt '\n' typed
    .done line { c with typed := rest.getD [] }

/-! ### Signing in -/

/-- The authenticator of the client in the preferences. -/
def authenticator (s : Surroundings) (prefs : Preferences) : Except Error Auth.Authenticator :=
  if prefs.clientId = "" then .error .noClient
  else .ok ⟨Auth.Config.usual (.str prefs.clientId), ⟨s.tokenFile⟩⟩

/-- The address at which the user of an authenticator gives consent. -/
def consentAddress (a : Auth.Authenticator) : String :=
  match Auth.consentUrl a.config with
  | .ok url => url
  | .error _ => Auth.consentEndpoint

/-- Signs in: shows the address to open and takes the address to which the browser was sent. -/
def login (s : Surroundings) (prefs : Preferences) : Task Unit := do
  let a ← Action.ofExcept (authenticator s prefs)
  say "Open this URL in a browser and approve access:\n"
  say (consentAddress a)
  write "\nPaste the URL you were redirected to: "
  let line ← readLine
  let code ← Action.ofExcept ((Auth.readCode (Text.trim line)).mapError .code)
  let _ ← onSession .auth (a.exchange (.str (String.ofList code)))
  say "[green]Signed in.[/green]"

/-! ### The history -/

/-- The token that the arguments or the environment give; an empty one is none. -/
def givenToken (s : Surroundings) (args : Arguments) : Option String :=
  (args.token.filter (· ≠ "")).or (s.token.filter (· ≠ ""))

/-- The client of the document service. -/
def client (s : Surroundings) (args : Arguments) (prefs : Preferences) : Except Error Docs.Client :=
  match givenToken s args with
  | some token => .ok (Docs.Client.ofCredentials [some (.value (.str token))])
  | none => (authenticator s prefs).map Docs.Client.ofAuthenticator

/-- The revisions in the chunks of an edit log. -/
def readChunks : List Value → Task (List Revision)
  | [] => return []
  | chunk :: chunks => do
    let batch ← Action.ofNoted ⟨(Revision.readBatch chunk).log, (Revision.readBatch chunk).outcome.mapError .payload⟩
    let others ← readChunks chunks
    return batch ++ others

/-- The pause between two requests for chunks, in seconds. -/
def chunkPause : Value := .float 0.1

/-- The history that the document service has of a document. -/
def fetch (s : Surroundings) (args : Arguments) (prefs : Preferences) (source : String) : Task (List Revision) := do
  match Docs.readId? source.toList with
  | none => Action.fail .noDocument
  | some doc =>
    let client ← Action.ofExcept (client s args prefs)
    let chunks ← onSession .docs (client.allRevisionData (String.ofList doc) args.chunkSize chunkPause)
    readChunks chunks

/-- The history in a file. -/
def readFrom (source : String) : Task (List Revision) := do
  let c ← Action.get
  let loaded := Revision.load c.session.files (Path.read source)
  Action.ofNoted ⟨loaded.log, loaded.outcome.mapError .archive⟩

/-- The history, or the code with which the run ends without one. -/
def history (s : Surroundings) (args : Arguments) (prefs : Preferences) :
    Task (Except Nat (String × List Revision)) := do
  if args.login then
    login s prefs
    return .error 0
  else match args.source.filter (· ≠ "") with
    | none =>
      complain "a revision file or document is required"
      return .error 2
    | some source =>
      if args.chunkSize < 1 then
        complain "--chunk-size must be positive"
        return .error 2
      else if args.fetch then return .ok (source, ← fetch s args prefs source)
      else return .ok (source, ← readFrom source)

/-! ### Showing it -/

/-- A question to an engine that writes no records. -/
def ask {α : Type} (x : Except Fault α) : Task α := Action.ofExcept (x.mapError .playback)

/-- The identity of the revision at the cursor. -/
def currentId (e : Engine) : Except Fault String :=
  e.current?.map fun current => (current.map Revision.id).getD ""

/-- Prints the document as it was at a revision. -/
def printRevision (revisions : List Revision) (index : Int) : Task Unit := do
  let shown := (Engine.create revisions Options.standard true (Schedule.initial false) []).andThen fun _ e =>
    Engine.jump (.int index) e
  let _ ← Action.ofNoted ⟨shown.log, shown.outcome.mapError .playback⟩
  say (← ask shown.state.status)
  Action.modify fun c => { c with out := c.out ++ rule ++ ['\n'] }
  sayPlain shown.state.content
  let same ← ask shown.state.verify
  if same = some false then
    let id ← ask (currentId shown.state)
    Action.note .warning ("Replayed text differs from the snapshot of " ++ id)
    warn ("[yellow]Warning:[/yellow] replayed text differs from the recorded snapshot of revision " ++ id)
  else return ()

/-- Opens the viewer. -/
def launch (args : Arguments) (prefs : Preferences) (path : Path) (source : String) (revisions : List Revision)
    (speed : Float) : Task Unit := fun c =>
  let created := Viewer.create revisions ⟨speed, prefs.playback.autoPlay || args.play⟩
    (if args.fetch then source else (Path.read source).name) prefs.theme.name (some path) c.session.files
  ⟨⟨created.log, created.outcome.mapError .viewer⟩, { c with launched := c.launched ++ [created.state] }⟩

/-- Shows a history as the arguments say, and the code with which the run ends. -/
def present (args : Arguments) (prefs : Preferences) (path : Path) (source : String) (revisions : List Revision) :
    Task Nat := do
  Action.note .info ("Loaded " ++ showNat revisions.length ++ " revisions")
  if args.printLast then
    printRevision revisions (revisions.length - 1)
    return 0
  else match args.revision with
    | some index =>
      printRevision revisions index
      return 0
    | none =>
      let speed := args.speed.getD prefs.playback.speed
      if args.speed.isSome && speed ≤ 0.0 then
        complain "--speed must be positive"
        return 2
      else
        launch args prefs path source revisions speed
        return 0

/-- The run after the preferences have been read. -/
def runWith (s : Surroundings) (args : Arguments) (path : Path) (prefs : Preferences) : Task Nat := do
  match ← Action.attempt (history s args prefs) with
  | .ok (.ok (source, revisions)) => present args prefs path source revisions
  | .ok (.error code) => return code
  | .error e =>
    if e.isExpected then
      Action.note .debug "Loading revisions failed"
      complain e.message
      return 1
    else Action.fail e

/-- The name of the level from which on records are logged. -/
def levelName (args : Arguments) (prefs : Preferences) : String :=
  if args.verbose then Level.debug.name else prefs.logLevel

/-- A run.  Until the preferences have been read the usual level is logged. -/
def run (s : Surroundings) (args : Arguments) : Task Nat := do
  let path := args.preferences.getD s.preferences
  let prefs ← logged Logger.initial (onSession .preferences (Session.onFiles (Preferences.load path)))
  logged (Logger.initial.named (levelName args prefs)) (runWith s args path prefs)

/-- The version of the program. -/
def versionText : String := "docrewind 0.1.0"

/-- How a run of the program ends: with a code, perhaps after a line about the program itself. -/
structure Outcome where
  code : Nat
  banner : String

/-- A run from the words of the command line. -/
def start (s : Surroundings) (words : List String) : Task Outcome := do
  match Arguments.read words with
  | .ok args => return ⟨← run s args, ""⟩
  | .error .version => return ⟨0, versionText ++ "\n"⟩
  | .error .help => return ⟨0, ""⟩
  | .error .refused => return ⟨2, ""⟩

end Program

end EditHistory.CommandLine
