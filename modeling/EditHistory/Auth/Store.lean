import EditHistory.Action
import EditHistory.Auth.Token
import EditHistory.Files
import EditHistory.Json.Reader
import EditHistory.Json.Writer

/-!
# The token file

The token of the user who has signed in is kept in a file.  A file that is missing, unreadable or malformed means that
nobody has signed in.  A token is written to a file beside its place and then moved there.

## Main definitions

* `Store` — the place of the file
* `Store.load`, `Store.save`, `Store.clear` — the token read, written and forgotten
-/

namespace EditHistory.Auth

/-- The place of the token file. -/
structure Store where
  path : Path

namespace Store

/-- What keeps the token from being read as data. -/
inductive Unreadable where
  | absent
  | damaged
  deriving DecidableEq, Repr

/-- The data in the token file. -/
def readValue (store : Store) (files : Files) : Except Unreadable Value :=
  match files.readText store.path with
  | .error (.fault .notFound) => .error .absent
  | .error _ => .error .damaged
  | .ok text => (Json.parse text).mapError fun _ => .damaged

/-- The token in the file.  The only failure is an expiry that is an integer beyond the largest double. -/
def load (store : Store) : Action Files OutOfRange (Option Token) := fun files =>
  match store.readValue files with
  | .error .absent => .done none files
  | .error .damaged =>
    (Step.done none files).noting .warning ("Could not read token file " ++ store.path.text)
  | .ok v =>
    match Token.read v with
    | .ok token => .done (some token) files
    | .error (.expiry .tooLarge) => .failed .mk files
    | .error _ => (Step.done none files).noting .warning ("Ignoring malformed token file " ++ store.path.text)

/-- The file beside the token file by way of which it is written. -/
def draft (store : Store) : Path :=
  store.path.withSuffix ".tmp"

/-- The text of a token file. -/
def tokenText (token : Token) : List Char :=
  Json.pretty token.value

/-- Why the path of a token file names no file. -/
inductive PathError where
  /-- There is no last name. -/
  | nameless (path : Path)
  /-- There is the character NUL. -/
  | nul
  deriving DecidableEq, Repr

/-- The wording of the error. -/
def PathError.message : PathError → String
  | .nameless path => "PosixPath(" ++ showQuoted path.text ++ ") has an empty name"
  | .nul => "embedded null byte"

/-- The files after as many steps of writing a token as succeed, and what kept the next one from succeeding. -/
def write (store : Store) (token : Token) (files : Files) : Option FileFault × Files :=
  match files.makeDirs store.path.parent with
  | (some fault, made) => (some fault, made)
  | (none, made) =>
    match made.writeText store.draft (tokenText token) with
    | .error fault => (some fault, made)
    | .ok drafted =>
      match drafted.replace store.draft store.path with
      | .error fault => (some fault, drafted)
      | .ok moved => (none, moved)

/-- Writes a token. -/
def save (store : Store) (token : Token) : Action Files PathError Unit := fun files =>
  if store.path.name = "" then .failed (.nameless store.path) files
  else match store.write token files with
    | (none, files) => .done () files
    | (some .nul, files) => .failed .nul files
    | (some _, files) =>
      (Step.done () files).noting .warning ("Could not persist auth token to " ++ store.path.text)

/-- Forgets the token. -/
def clear (store : Store) : Action Files PathError Unit := fun files =>
  match files.remove store.path with
  | .ok files => .done () files
  | .error .nul => .failed .nul files
  | .error _ =>
    (Step.done () files).noting .warning ("Could not remove token file " ++ store.path.text)

end Store

end EditHistory.Auth
