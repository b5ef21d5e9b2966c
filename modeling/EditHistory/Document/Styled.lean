import EditHistory.Document

/-!
# Styled documents

A text with the properties of each character.  Style commands merge their properties into the characters of their
range, a later value replacing an earlier one under the same name; inserts and deletes have no effect here.

## Main definitions

* `StyledChar` — a character with its properties
* `styled` — a text with the properties that commands give it
-/

namespace EditHistory

/-- A character with its properties. -/
structure StyledChar where
  char : Char
  timestamp : Int
  styles : List (String × Value)

/-- Properties merged over others: an existing name keeps its place and takes the new value. -/
def mergeStyles (styles properties : List (String × Value)) : List (String × Value) :=
  properties.foldl (fun fields p => Value.put fields p.1 p.2) styles

/-- The characters with properties merged into those at the places from `start` to before `stop`; the first
character stands at `place`. -/
def restyle (start stop : Int) (properties : List (String × Value)) (place : Nat) :
    List StyledChar → List StyledChar
  | [] => []
  | c :: cs =>
    (if start ≤ place ∧ place < stop then { c with styles := mergeStyles c.styles properties } else c) ::
      restyle start stop properties (place + 1) cs

mutual

/-- The effect of a command on the properties. -/
def applyStyles (chars : List StyledChar) : Command → List StyledChar
  | .style start stop properties _ => restyle start stop properties 0 chars
  | .group parts _ => applyAllStyles chars parts
  | _ => chars

/-- The effect of commands on the properties, in order. -/
def applyAllStyles (chars : List StyledChar) : List Command → List StyledChar
  | [] => chars
  | c :: cs => applyAllStyles (applyStyles chars c) cs

end

/-- A text with the properties that commands give it. -/
def styled (text : Document) (commands : List Command) : List StyledChar :=
  applyAllStyles (text.map fun c => ⟨c, 0, []⟩) commands

end EditHistory
