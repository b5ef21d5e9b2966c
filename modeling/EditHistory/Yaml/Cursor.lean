/-!
# Reading positions

A position in a text that is read from left to right: what is still to be read, and how many characters, lines and
columns lie before it.  The mark of the byte order takes up no column.

## Main definitions

* `Cursor` — a position
* `Cursor.skip`, `Cursor.takeWhile` — moving on
* `Cursor.lineBreak` — the end of a line, read as it counts in the value of a scalar
-/

namespace EditHistory.Yaml

/-- Whether a character ends a line. -/
def isBreak (c : Char) : Bool :=
  c == '\n' || c == '\r' || c == '\x85' || c == '\u2028' || c == '\u2029'

/-- Whether a character is a space or ends a line. -/
def isSpaceOrBreak (c : Char) : Bool :=
  c == ' ' || isBreak c

/-- Whether a character is a space or a tab or ends a line. -/
def isWhite (c : Char) : Bool :=
  c == '\t' || isSpaceOrBreak c

/-- Whether the text ends or goes on with a character for which `p` holds. -/
def endsOr (p : Char → Bool) : List Char → Bool
  | [] => true
  | c :: _ => p c

/-- Whether the text goes on with a character for which `p` holds. -/
def startsWith (p : Char → Bool) : List Char → Bool
  | [] => false
  | c :: _ => p c

/-- A position in a text. -/
structure Cursor where
  rest : List Char
  index : Nat
  line : Nat
  column : Nat

namespace Cursor

/-- The position before a text. -/
def start (cs : List Char) : Cursor := ⟨cs, 0, 0, 0⟩

/-- The position after the next character. -/
def next (c : Cursor) : Cursor :=
  match c.rest with
  | [] => c
  | ch :: rest =>
    if isBreak ch then ⟨rest, c.index + 1, c.line + 1, 0⟩
    else ⟨rest, c.index + 1, c.line, if ch = '\uFEFF' then c.column else c.column + 1⟩

/-- The position some characters further on. -/
def skip (c : Cursor) : Nat → Cursor
  | 0 => c
  | n + 1 => c.next.skip n

/-- The next character. -/
def peek? (c : Cursor) : Option Char := c.rest.head?

/-- The longest run of characters for which `p` holds, and the position after it. -/
def takeWhile (p : Char → Bool) (c : Cursor) : List Char × Cursor :=
  let taken := c.rest.takeWhile p
  (taken, c.skip taken.length)

/-- The position after the longest run of characters for which `p` holds. -/
def dropWhile (p : Char → Bool) (c : Cursor) : Cursor :=
  (c.takeWhile p).2

/-- The end of a line as it counts in the value of a scalar, and the position after it; nothing if the line goes
on. -/
def lineBreak (c : Cursor) : List Char × Cursor :=
  match c.rest with
  | '\r' :: '\n' :: _ => (['\n'], c.skip 2)
  | ch :: _ =>
    if ch = '\u2028' ∨ ch = '\u2029' then ([ch], c.next)
    else if isBreak ch then (['\n'], c.next)
    else ([], c)
  | [] => ([], c)

/-- Whether a mark between documents stands here: three dashes or dots with white space after them. -/
def atDocumentMark (c : Cursor) : Bool :=
  match c.rest with
  | '-' :: '-' :: '-' :: rest => endsOr isWhite rest
  | '.' :: '.' :: '.' :: rest => endsOr isWhite rest
  | _ => false

/-- The position after the comment that starts here, if one does. -/
def dropComment (c : Cursor) : Cursor :=
  if c.peek? = some '#' then c.dropWhile fun ch => !isBreak ch else c

end Cursor

end EditHistory.Yaml
