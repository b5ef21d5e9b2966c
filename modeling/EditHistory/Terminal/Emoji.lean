import EditHistory.Terminal.Emoji.Table
import EditHistory.Text.Blank
import EditHistory.Text.Lowercase

/-!
# Pictures by name

In a text for a terminal a name between two colons stands for a picture.  Capitals in the name do not count.  The name
may end in `-text` or `-emoji`, which asks for the picture in black and white or in colours.  What stands between two
colons but is no name stays as it is, with both its colons.

## Main definitions

* `Emoji.picture?` — the picture with a name
* `Emoji.replace` — a text with pictures for their names
-/

namespace EditHistory.Terminal.Emoji

open EditHistory.Text

/-- What follows a mark, up to the next blank, where a word of a text first starts with it; told whether the text itself
starts a word. -/
def afterMark? (mark : List Char) : Bool → List Char → Option (List Char)
  | _, [] => none
  | startsWord, c :: cs =>
    match if startsWord then dropMark? mark (c :: cs) else none with
    | some rest => some (rest.takeWhile fun d => !isBlank d)
    | none => afterMark? mark (isBlank c) cs

/-- The picture with a name in small letters. -/
def picture? (name : List Char) : Option (List Char) :=
  afterMark? (name ++ ['=']) true table.toList

/-- How a picture is to be drawn. -/
inductive Variant where
  | usual
  | text
  | emoji
  deriving DecidableEq, Repr

/-- What is written after a picture to have it drawn so. -/
def Variant.selector : Variant → List Char
  | .usual => []
  | .text => ['\uFE0E']
  | .emoji => ['\uFE0F']

/-- The end of a name that stands at the front of a text: what it says about the drawing, and what follows the second
colon. -/
def ending? (cs : List Char) : Option (Variant × List Char) :=
  match dropMark? "-emoji:".toList cs, dropMark? "-text:".toList cs, cs with
  | some rest, _, _ => some (.emoji, rest)
  | none, some rest, _ => some (.text, rest)
  | none, none, ':' :: rest => some (.usual, rest)
  | _, _, _ => none

/-- The name at the front of a text, up to the first ending without a blank before it, and what follows. -/
def name? : List Char → Option (List Char × Variant × List Char)
  | [] => none
  | c :: cs =>
    match ending? (c :: cs) with
    | some (variant, rest) => some ([], variant, rest)
    | none => if isBlank c then none else (name? cs).map fun (name, found) => (c :: name, found)

/-- A text with pictures for their names; the fuel bounds its length. -/
def replaceWithin : Nat → List Char → List Char
  | 0, cs => cs
  | _, [] => []
  | fuel + 1, c :: cs =>
    if c = ':' then
      match name? cs with
      | some (name, variant, rest) =>
        let shown := match picture? (lower name) with
          | some picture => picture ++ variant.selector
          | none => ':' :: cs.take (cs.length - rest.length)
        shown ++ replaceWithin fuel rest
      | none => c :: replaceWithin fuel cs
    else c :: replaceWithin fuel cs

/-- A text with pictures for their names. -/
def replace (cs : List Char) : List Char :=
  replaceWithin cs.length cs

end EditHistory.Terminal.Emoji
