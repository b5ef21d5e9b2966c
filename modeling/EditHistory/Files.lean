import EditHistory.Files.Path
import EditHistory.Text.Quoted
import EditHistory.Text.Utf8
import EditHistory.Value

/-!
# A tree of files

The files below a working directory, as far as a program can tell by reading, writing, replacing and removing
them.  Directories are entries of their own, so an empty directory exists and a path below a file does not.

## Main definitions

* `Files` — the tree
* `Files.locate` — what a path leads to, or why it leads nowhere
* `Files.read`, `Files.readText` — the content of a file
* `Files.makeDirs` — directories made as far as they can be
* `Files.write`, `Files.replace`, `Files.remove` — changes; a change that fails changes nothing
-/

namespace EditHistory

/-- An entry of a tree of files. -/
inductive FileEntry where
  | file (bytes : List UInt8)
  | dir
  deriving DecidableEq, Repr

/-- Why an operation on files fails. -/
inductive FileFault where
  | notFound
  | exists
  | notADirectory
  | isADirectory
  | nameTooLong
  /-- The path holds the character NUL, so the system is not even asked. -/
  | nul
  deriving DecidableEq, Repr

/-- The system's number for a fault, and its wording, if the system reports it. -/
def FileFault.report? : FileFault → Option (Nat × String)
  | .notFound => some (2, "No such file or directory")
  | .exists => some (17, "File exists")
  | .notADirectory => some (20, "Not a directory")
  | .isADirectory => some (21, "Is a directory")
  | .nameTooLong => some (36, "File name too long")
  | .nul => none

/-- The wording of a fault met at a path. -/
def FileFault.message (fault : FileFault) (p : Path) : String :=
  match fault.report? with
  | some (number, wording) => "[Errno " ++ showNat number ++ "] " ++ wording ++ ": " ++ showQuoted p.text
  | none => "embedded null byte"

/-- A tree of files.  An entry is named by its path from the working directory, or by its path from the root after
the name `/`. -/
structure Files where
  entries : List (List String × FileEntry)

namespace Files

/-- The tree without files. -/
def empty : Files := ⟨[]⟩

/-- The name of the root. -/
def rootName : String := "/"

/-- The directory at which a path starts. -/
def start (p : Path) : List String := if p.rooted then [rootName] else []

/-- The directory above another one; there is none above the root. -/
def above (place : List String) : List String :=
  if place = [rootName] then place else place.dropLast

/-- The entry of a path; the working directory and the root are always there. -/
def entry? (fs : Files) (place : List String) : Option FileEntry :=
  if place = [] ∨ place = [rootName] then some .dir
  else (fs.entries.find? fun e => e.1 == place).map Prod.snd

/-- The tree with one entry set. -/
def set (fs : Files) (place : List String) (node : FileEntry) : Files :=
  ⟨(place, node) :: fs.entries.filter fun e => e.1 != place⟩

/-- The tree without one entry. -/
def erase (fs : Files) (place : List String) : Files :=
  ⟨fs.entries.filter fun e => e.1 != place⟩

/-- The most bytes that a name may have. -/
def nameLimit : Nat := 255

/-- Whether a name has more bytes than a name may have. -/
def isTooLong (name : String) : Bool :=
  nameLimit < (Text.utf8 name.toList).length

/-- Follows names from a directory: the place they lead to and the entry there.  Every name but the last must be
that of a directory. -/
def follow (fs : Files) (place : List String) : List String → Except FileFault (List String × FileEntry)
  | [] => .ok (place, .dir)
  | name :: rest =>
    if name = ".." then follow fs (above place) rest
    else if isTooLong name then .error .nameTooLong
    else match fs.entry? (place ++ [name]) with
      | none => .error .notFound
      | some .dir => follow fs (place ++ [name]) rest
      | some (.file bytes) => if rest = [] then .ok (place ++ [name], .file bytes) else .error .notADirectory

/-- What a path leads to. -/
def locate (fs : Files) (p : Path) : Except FileFault (List String × FileEntry) :=
  if p.hasNul then .error .nul else fs.follow (start p) p.names

/-- Whether a path leads to an entry. -/
def has (fs : Files) (p : Path) : Bool :=
  match fs.locate p with
  | .ok _ => true
  | .error _ => false

/-- The content of a file. -/
def read (fs : Files) (p : Path) : Except FileFault (List UInt8) :=
  match fs.locate p with
  | .ok (_, .file bytes) => .ok bytes
  | .ok (_, .dir) => .error .isADirectory
  | .error fault => .error fault

/-- Why the text of a file cannot be read. -/
inductive ReadError where
  | fault (fault : FileFault)
  | undecodable
  deriving DecidableEq, Repr

/-- The text of a file, its line ends unified. -/
def readText (fs : Files) (p : Path) : Except ReadError (List Char) :=
  match fs.read p with
  | .error fault => .error (.fault fault)
  | .ok bytes =>
    match Text.decodeUtf8? bytes with
    | none => .error .undecodable
    | some cs => .ok (Text.unifyLineEnds cs)

/-- The place at which a path names a file that is there or could be made there. -/
def placeFor (fs : Files) (p : Path) : Except FileFault (List String) :=
  match fs.locate p with
  | .ok (place, .file _) => .ok place
  | .ok (_, .dir) => .error .isADirectory
  | .error .notFound =>
    match fs.locate p.parent with
    | .ok (place, .dir) => .ok (place ++ [p.name])
    | .ok (_, .file _) => .error .notADirectory
    | .error fault => .error fault
  | .error fault => .error fault

/-- The tree with the content of a file set; its directory must exist. -/
def write (fs : Files) (p : Path) (bytes : List UInt8) : Except FileFault Files :=
  (fs.placeFor p).map fun place => fs.set place (.file bytes)

/-- The tree with the text of a file set. -/
def writeText (fs : Files) (p : Path) (cs : List Char) : Except FileFault Files :=
  fs.write p (Text.utf8 cs)

/-- Makes directories along names, from a directory, up to the first that cannot be made. -/
def makeDirsFrom (fs : Files) (place : List String) : List String → Option FileFault × Files
  | [] => (none, fs)
  | name :: rest =>
    if name = ".." then makeDirsFrom fs (above place) rest
    else if isTooLong name then (some .nameTooLong, fs)
    else match fs.entry? (place ++ [name]) with
      | none => makeDirsFrom (fs.set (place ++ [name]) .dir) (place ++ [name]) rest
      | some .dir => makeDirsFrom fs (place ++ [name]) rest
      | some (.file _) => (some (if rest = [] then .exists else .notADirectory), fs)

/-- The tree with a directory and all those above it, or with those that could be made, and why the next one could
not. -/
def makeDirs (fs : Files) (p : Path) : Option FileFault × Files :=
  if p.hasNul then (some .nul, fs) else fs.makeDirsFrom (start p) p.names

/-- The tree with a file moved to another path, where it replaces any file. -/
def replace (fs : Files) (source target : Path) : Except FileFault Files :=
  match fs.locate source with
  | .error fault => .error fault
  | .ok (_, .dir) => .error .isADirectory
  | .ok (origin, .file bytes) =>
    (fs.placeFor target).map fun place =>
      if origin = place then fs else (fs.erase origin).set place (.file bytes)

/-- The tree without a file; a file that is not there counts as removed. -/
def remove (fs : Files) (p : Path) : Except FileFault Files :=
  match fs.locate p with
  | .ok (place, .file _) => .ok (fs.erase place)
  | .ok (_, .dir) => .error .isADirectory
  | .error .notFound => .ok fs
  | .error fault => .error fault

/-- The path of an entry as text. -/
def placeText : List String → String
  | name :: names =>
    if name = rootName then rootName ++ String.intercalate "/" names else String.intercalate "/" (name :: names)
  | [] => ""

/-- The paths of all files, in ascending order. -/
def paths (fs : Files) : List String :=
  (fs.entries.filterMap fun e =>
    match e.2 with
    | .file _ => some (placeText e.1)
    | .dir => none).mergeSort fun a b => a ≤ b

end Files

end EditHistory
