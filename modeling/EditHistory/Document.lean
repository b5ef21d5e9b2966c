import EditHistory.Log
import EditHistory.Revision

/-!
# Documents and replay

A document is a list of characters.  Applying a command clamps its positions into the document: a position before
the start counts as the start, one beyond the end as the end.  A range whose end does not come after its start is
empty.  Styles do not change the text.

Clamping is recorded in the log; a foreign entry ends the application.

## Main definitions

* `clamp` — a position inside a document
* `Document.apply`, `Document.applyAll` — commands carried out in order
* `replay` — the document after the first revisions of a history
-/

namespace EditHistory

/-- The text of a document. -/
abbrev Document := List Char

/-- An entry that was to be applied and is no command. -/
structure NotACommand where
  value : Value

/-- The wording of the error. -/
def NotACommand.message (e : NotACommand) : String :=
  "Not a revision command: " ++ e.value.shown

/-- A position clamped into a document of a given length. -/
def clamp (position : Int) (length : Nat) : Nat :=
  min position.toNat length

/-- The record of clamping a position of a command, if the position lies outside. -/
def clampLog (position : Int) (length : Nat) (c : Command) : Log :=
  if 0 ≤ position ∧ position ≤ length then []
  else [⟨.debug, "Clamped index " ++ showInt position ++ " to " ++ showNat (clamp position length) ++
    " for " ++ c.shown⟩]

namespace Document

/-- The document with a text inserted at a place. -/
def insertAt (doc : Document) (place : Nat) (text : List Char) : Document :=
  doc.take place ++ text ++ doc.drop place

/-- The document without the half-open range from `start` to `stop`. -/
def deleteRange (doc : Document) (start stop : Nat) : Document :=
  if stop ≤ start then doc else doc.take start ++ doc.drop stop

mutual

/-- Applies a command. -/
def apply (doc : Document) : Command → Noted NotACommand Document
  | .insert position text timestamp =>
    ⟨clampLog position doc.length (.insert position text timestamp),
      .ok (doc.insertAt (clamp position doc.length) text)⟩
  | .delete start stop timestamp =>
    ⟨clampLog start doc.length (.delete start stop timestamp) ++
        clampLog stop doc.length (.delete start stop timestamp),
      .ok (doc.deleteRange (clamp start doc.length) (clamp stop doc.length))⟩
  | .style .. => pure doc
  | .group parts _ => applyAll doc parts
  | .foreign value => .fail ⟨value⟩

/-- Applies commands in order. -/
def applyAll (doc : Document) : List Command → Noted NotACommand Document
  | [] => pure doc
  | c :: cs => do
    let doc ← apply doc c
    applyAll doc cs

end

/-- Applies the commands of revisions in order. -/
def applyRevisions (doc : Document) : List Revision → Noted NotACommand Document
  | [] => pure doc
  | r :: rs => do
    let doc ← applyAll doc r.commands
    applyRevisions doc rs

end Document

/-- The document after the revisions up to and including the index `upto`, from a given start.  A negative index
is the state before any revision. -/
def replayFrom (start : Document) (revisions : List Revision) (upto : Int) : Noted NotACommand Document :=
  start.applyRevisions (revisions.take (upto + 1).toNat)

/-- The document after the revisions up to and including the index `upto`, from the empty document. -/
def replay (revisions : List Revision) (upto : Int) : Noted NotACommand Document :=
  replayFrom [] revisions upto

end EditHistory
