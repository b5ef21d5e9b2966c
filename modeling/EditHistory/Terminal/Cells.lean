import EditHistory.Text.Lines
import EditHistory.Text.Width

/-!
# Lines on a terminal

What is left of a text when it is printed: control characters that would move the cursor are dropped, and a tab becomes
spaces up to the next of the columns that are multiples of eight.

## Main definitions

* `printed` — the text as it is printed
* `rule` — a line across the terminal
-/

namespace EditHistory.Terminal

open EditHistory.Text

/-- The columns of a terminal. -/
def columns : Nat := 120

/-- The distance of the columns to which tabs lead. -/
def tabWidth : Nat := 8

/-- Whether a character rings, steps back, or moves the cursor to another line without ending the line. -/
def isCursorControl (c : Char) : Bool :=
  c.toNat == 7 || c.toNat == 8 || c.toNat == 11 || c.toNat == 12 || c.toNat == 13

/-- The parts of a line between tabs, from a column on, with spaces for the tabs: one space, which is counted with the
part before it, and as many as lead to the next column to which tabs lead. -/
def joinAtTabs (column : Nat) : List (List Char) → List Char
  | [] => []
  | [part] => part
  | part :: parts =>
    let reached := column + cells (part ++ [' '])
    let missing := (tabWidth - reached % tabWidth) % tabWidth
    part ++ List.replicate (missing + 1) ' ' ++ joinAtTabs (reached + missing) parts

/-- The text with its tabs turned into spaces. -/
def expandTabs (cs : List Char) : List Char :=
  ['\n'].intercalate ((splitOn '\n' cs).map fun line => joinAtTabs 0 (splitOn '\t' line))

/-- The text as it is printed. -/
def printed (cs : List Char) : List Char :=
  expandTabs (cs.filter fun c => !isCursorControl c)

/-- A line across the terminal. -/
def rule : List Char := List.replicate columns '─'

end EditHistory.Terminal
