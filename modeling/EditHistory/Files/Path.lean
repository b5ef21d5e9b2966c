import EditHistory.Text.Lines

/-!
# Paths

A path is a list of names, perhaps below the root.  Empty names and single dots are dropped when a path is read;
double dots are kept.

## Main definitions

* `Path.read`, `Path.text` — a path and its written form
* `Path.name`, `Path.parent` — the last name, and the path without it
* `Path.withSuffix` — the path with another extension
-/

namespace EditHistory

/-- A list of names, perhaps below the root. -/
structure Path where
  rooted : Bool
  names : List String
  deriving DecidableEq, Repr

namespace Path

/-- The path that a text writes. -/
def read (s : String) : Path :=
  { rooted := s.toList.head? == some '/'
    names := ((Text.splitOn '/' s.toList).filter fun name => name ≠ [] ∧ name ≠ ['.']).map String.ofList }

/-- The names between slashes; the empty path is a dot. -/
def text (p : Path) : String :=
  let body := String.intercalate "/" p.names
  if p.rooted then "/" ++ body
  else if p.names.isEmpty then "."
  else body

/-- Whether a name holds the character NUL, which no file can be named by. -/
def hasNul (p : Path) : Bool :=
  p.names.any fun name => name.toList.contains '\x00'

/-- The last name, or nothing for the empty path. -/
def name (p : Path) : String :=
  p.names.getLast?.getD ""

/-- The path without its last name. -/
def parent (p : Path) : Path :=
  { p with names := p.names.dropLast }

/-- The name without its extension.  An extension starts at the last dot, which may be neither the first nor the
last character. -/
def stem (name : List Char) : List Char :=
  match Text.cutAtLast? '.' name with
  | some (before, after) => if before = [] ∨ after = [] then name else before
  | none => name

/-- The path with the extension of its last name replaced, or added if there is none. -/
def withSuffix (p : Path) (suffix : String) : Path :=
  { p with names := p.names.dropLast ++ [String.ofList (stem p.name.toList) ++ suffix] }

end Path

end EditHistory
