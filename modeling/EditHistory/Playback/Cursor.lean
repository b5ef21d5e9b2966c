import EditHistory.Value

/-!
# Cursors into a history

The cursor of a playback is the index of the revision shown, or -1 before the first.  A jump takes any number, so a
cursor may also be a double or a switch; a double is never the index of a revision, a switch counts as zero or one.

## Main definitions

* `Cursor` — a place in the history
* `Cursor.clamp?` — the cursor that a jump to a value leads to
* `Cursor.target` — what is shown at a cursor
-/

namespace EditHistory.Playback

/-- A place in the history. -/
inductive Cursor where
  | whole (n : Int)
  | fraction (x : Float)
  | flag (b : Bool)

namespace Cursor

/-- The cursor as a number. -/
def number : Cursor → Number
  | .whole n => .int n
  | .fraction x => .float x
  | .flag b => .int b.toNat

/-- The cursor as a value. -/
def value : Cursor → Value
  | .whole n => .int n
  | .fraction x => .float x
  | .flag b => .bool b

/-- The cursor that a value writes, if it is a number. -/
def ofValue? : Value → Option Cursor
  | .int n => some (.whole n)
  | .float x => some (.fraction x)
  | .bool b => some (.flag b)
  | _ => none

/-- The cursor moved by one, forward or backward. -/
def moved (delta : Int) : Cursor → Cursor
  | .whole n => .whole (n + delta)
  | .fraction x => .fraction (x + Float.ofInt delta)
  | .flag b => .whole (b.toNat + delta)

/-- Whether the cursor is at an index or beyond it. -/
def atLeast (c : Cursor) (index : Int) : Bool :=
  Number.le (.int index) c.number

/-- Whether the cursor is at an index or before it. -/
def atMost (c : Cursor) (index : Int) : Bool :=
  c.number.le (.int index)

/-- Whether the cursor is before the first revision. -/
def isBefore (c : Cursor) : Bool :=
  c.number.lt (.int 0)

/-- The cursor moved between -1 and the last index.  A value that is not a number leads nowhere. -/
def clamp? (v : Value) (last : Int) : Option Cursor :=
  (ofValue? v).map fun c =>
    let c := if Number.lt (.int last) c.number then .whole last else c
    if Number.lt (.int (-1)) c.number then c else .whole (-1)

/-- What is shown at a cursor. -/
inductive Target where
  /-- The empty document before the first revision. -/
  | start
  /-- The revision at an index. -/
  | revision (index : Nat)
  /-- Nothing: the cursor is not an index. -/
  | nowhere

/-- What is shown at the cursor. -/
def target : Cursor → Target
  | .whole n => if n < 0 then .start else .revision n.toNat
  | .fraction x => if x < 0.0 then .start else .nowhere
  | .flag b => .revision b.toNat

/-- The cursor as a whole number, its fraction cut off, for messages. -/
def shown (c : Cursor) : String :=
  match c.number with
  | .int n => showInt n
  | .float x => showInt ((Number.truncated? x).getD 0)

end Cursor

end EditHistory.Playback
