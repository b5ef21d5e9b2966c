import EditHistory.Text.Blank

/-!
# Document ids

A document is named by its id, a run of letters, digits, underscores and hyphens, or by an address that holds the id
after `/document/d/`.

## Main definitions

* `readId?` — the id that a text names
-/

namespace EditHistory.Docs

open EditHistory.Text

/-- Whether a character may stand in an id. -/
def isIdChar (c : Char) : Bool :=
  c.isAlphanum || c == '_' || c == '-'

/-- The mark before the id in an address. -/
def idMark : List Char := "/document/d/".toList

/-- The id after the first mark that is followed by one. -/
def findId? : List Char → Option (List Char)
  | [] => none
  | c :: cs =>
    match dropMark? idMark (c :: cs) with
    | some (d :: rest) => if isIdChar d then some ((d :: rest).takeWhile isIdChar) else findId? cs
    | _ => findId? cs

/-- The id that a text names, blanks around it aside. -/
def readId? (text : List Char) : Option (List Char) :=
  let text := trim text
  if text ≠ [] ∧ text.all isIdChar then some text else findId? text

/-- The wording for a text that names no document. -/
def invalidIdMessage : String := "Invalid Google Docs URL or document ID"

end EditHistory.Docs
