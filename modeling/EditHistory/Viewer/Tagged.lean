import EditHistory.Viewer.Tag

/-!
# Texts with tags

A text for a screen may hold tags in square brackets, each of which opens a look up to the tag that closes it with a
slash.  A closing tag names the look that it closes, or nothing to close the latest.  An opening tag that holds
anything but words is text, and so is one that is blank or that never ends.  A backslash before a bracket makes it text.

A text is refused if a tag closes what is not open, or if the value of a key holds anything but words, quoted texts,
brackets and commas.

## Main definitions

* `Tagged.tags?` — the tags of a text
* `Tagged.isFit` — whether a screen takes a text
-/

namespace EditHistory.Viewer.Tagged

open EditHistory.Text

/-- A tag of a text. -/
inductive Tag where
  | opens (body : List Char)
  | closes (body : List Char)
  deriving DecidableEq, Repr

/-- A tag read from a text: what is between its brackets, whether there is anything but words, whether it ends, and
what follows. -/
structure Found where
  body : List Char
  hasText : Bool
  isEnded : Bool
  rest : List Char
  deriving DecidableEq, Repr

/-- A tag of which a part has been read before. -/
def Found.after (part : List Char) (found : Found) : Found := { found with body := part ++ found.body }

/-- The characters before what is left of a text. -/
def partBefore (cs rest : List Char) : List Char := cs.take (cs.length - rest.length)

/-- The rest of a tag from within the value of a key, which goes on to the end of the tag; the fuel bounds its
letters. -/
def readValue? : Nat → List Char → Option Found
  | 0, cs => some ⟨[], false, false, cs⟩
  | _, [] => some ⟨[], false, false, []⟩
  | fuel + 1, c :: cs =>
    if c = ']' then some ⟨[], false, true, cs⟩
    else if c = '"' ∨ c = '\'' then
      match dropQuoted? c cs with
      | some rest => (readValue? fuel rest).map (.after (partBefore (c :: cs) rest))
      | none => none
    else if isValueChar c then (readValue? fuel cs).map (.after [c])
    else none

/-- The rest of a tag after a character; the fuel bounds its letters. -/
def readTag? : Nat → Char → List Char → Option Found
  | 0, _, cs => some ⟨[], false, false, cs⟩
  | _, _, [] => some ⟨[], false, false, []⟩
  | fuel + 1, before, c :: cs =>
    if c = ']' ∧ before ≠ '\\' then some ⟨[], false, true, cs⟩
    else match TagWord.ofText? (c :: cs) with
      | some (.key _, rest) => (readValue? fuel rest).map (.after (partBefore (c :: cs) rest))
      | some (_, rest) =>
        let part := partBefore (c :: cs) rest
        (readTag? fuel (part.getLast?.getD c) rest).map (.after part)
      | none => (readTag? fuel c cs).map fun found => { found.after [c] with hasText := true }

/-- The tags of a text after a character; nothing if a value in a tag makes no sense.  The fuel bounds the letters. -/
def tagsAfter? : Nat → Char → List Char → Option (List Tag)
  | 0, _, _ => some []
  | _, _, [] => some []
  | fuel + 1, before, c :: cs =>
    if c = '[' ∧ before ≠ '\\' then
      match cs with
      | '/' :: cs =>
        match readTag? cs.length '/' cs with
        | none => none
        | some found => (tagsAfter? fuel ']' found.rest).map (.closes found.body :: ·)
      | cs =>
        match readTag? cs.length '[' cs with
        | none => none
        | some found =>
          let isText := found.hasText || !found.isEnded || trim found.body = []
          (tagsAfter? fuel ']' found.rest).map ((if isText then [] else [.opens found.body]) ++ ·)
    else tagsAfter? fuel c cs

/-- The tags of a text; nothing if a value in a tag makes no sense. -/
def tags? (cs : List Char) : Option (List Tag) :=
  tagsAfter? cs.length ' ' cs

/-- Whether every tag that closes a look has one to close, given the open ones, the latest first. -/
def areMatched (opened : List (List Char)) : List Tag → Bool
  | [] => true
  | .opens body :: rest => areMatched (normalTag (trim body) :: opened) rest
  | .closes body :: rest =>
    match normalTag (trim body), opened with
    | [], [] => false
    | [], _ :: opened => areMatched opened rest
    | name, opened => opened.contains name && areMatched (opened.erase name) rest

/-- Whether a screen takes a text. -/
def isFit (cs : List Char) : Bool :=
  match tags? cs with
  | some tags => areMatched [] tags
  | none => false

end EditHistory.Viewer.Tagged
