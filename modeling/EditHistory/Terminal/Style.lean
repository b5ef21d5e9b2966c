import EditHistory.Terminal.Color

/-!
# Styles of a terminal

A style is defined by words: what letters are to be and are not to be, the colour of the letters, after `on` the colour
behind them, and after `link` where they lead.  Of two words on the same matter the last counts.  Two definitions of one
style differ in the order and the spelling of their words; the normal form does not.

## Main definitions

* `Attribute` — what letters can be
* `Style` — a style
* `Style.read` — the style that a text defines
* `Style.normal?` — the normal form of a definition
-/

namespace EditHistory.Terminal

open EditHistory.Text

/-- What letters can be. -/
inductive Attribute where
  | bold
  | dim
  | italic
  | underline
  | blink
  | fastBlink
  | reverse
  | conceal
  | strike
  | doubleUnderline
  | frame
  | encircle
  | overline
  deriving DecidableEq, Repr

namespace Attribute

/-- The attributes in the order in which a style shows them. -/
def all : List Attribute :=
  [bold, dim, italic, underline, blink, fastBlink, reverse, conceal, strike, doubleUnderline, frame, encircle, overline]

/-- The name of an attribute. -/
def name : Attribute → String
  | bold => "bold"
  | dim => "dim"
  | italic => "italic"
  | underline => "underline"
  | blink => "blink"
  | fastBlink => "blink2"
  | reverse => "reverse"
  | conceal => "conceal"
  | strike => "strike"
  | doubleUnderline => "underline2"
  | frame => "frame"
  | encircle => "encircle"
  | overline => "overline"

/-- The short name of an attribute, if it has one. -/
def shortName? : Attribute → Option String
  | bold => some "b"
  | dim => some "d"
  | italic => some "i"
  | underline => some "u"
  | reverse => some "r"
  | conceal => some "c"
  | strike => some "s"
  | doubleUnderline => some "uu"
  | overline => some "o"
  | blink | fastBlink | frame | encircle => none

/-- The attribute with a name or a short name. -/
def ofName? (word : List Char) : Option Attribute :=
  all.find? fun a => a.name.toList = word || a.shortName?.any fun short => short.toList = word

end Attribute

/-- A style: for some attributes whether the letters are to have them, the colour of the letters and the one behind
them, and where they lead. -/
structure Style where
  attributes : List (Attribute × Bool)
  color : Option (List Char)
  background : Option (List Char)
  link : Option (List Char)
  deriving DecidableEq, Repr

namespace Style

/-- The style that changes nothing. -/
def plain : Style := ⟨[], none, none, none⟩

/-- Why a text defines no style. -/
inductive Fault where
  | unknownWord
  /-- A colour mixed of three shares lacks one. -/
  | lacksShare
  deriving DecidableEq, Repr

/-- The colour that a word names, in small letters. -/
def readColor (word : List Char) : Except Fault (List Char) :=
  match Color.read word with
  | .color => .ok (lower word)
  | .other => .error .unknownWord
  | .lacksShare => .error .lacksShare

/-- A style with what some words say added. -/
def addWords (style : Style) : List (List Char) → Except Fault Style
  | [] => .ok style
  | word :: rest =>
    let small := lower word
    if small = "on".toList then
      match rest with
      | [] => .error .unknownWord
      | color :: rest =>
        match readColor color with
        | .ok color => addWords { style with background := some color } rest
        | .error fault => .error fault
    else if small = "not".toList then
      match rest with
      | [] => .error .unknownWord
      | name :: rest =>
        match Attribute.ofName? name with
        | some a => addWords { style with attributes := (a, false) :: style.attributes } rest
        | none => .error .unknownWord
    else if small = "link".toList then
      match rest with
      | [] => .error .unknownWord
      | place :: rest => addWords { style with link := some place } rest
    else match Attribute.ofName? small with
      | some a => addWords { style with attributes := (a, true) :: style.attributes } rest
      | none =>
        match readColor word with
        | .ok color => addWords { style with color := some color } rest
        | .error fault => .error fault

/-- The style that a text defines. -/
def read (definition : List Char) : Except Fault Style :=
  if trim definition = "none".toList then .ok plain else addWords plain (words definition)

/-- The words of a definition of a style, in the order that they have in the normal form. -/
def wordsOf (style : Style) : List (List Char) :=
  let attributes := Attribute.all.flatMap fun a =>
    match style.attributes.lookup a with
    | some true => [a.name.toList]
    | some false => ["not".toList, a.name.toList]
    | none => []
  attributes ++ style.color.toList ++ (style.background.elim [] fun c => ["on".toList, c]) ++
    style.link.elim [] fun place => ["link".toList, place]

/-- The definition of a style that is the same for all its definitions. -/
def text (style : Style) : List Char :=
  match style.wordsOf with
  | [] => "none".toList
  | words => [' '].intercalate words

/-- The normal form of a definition; of a text that defines no style, its small letters.  Nothing if a mixed colour
lacks a share. -/
def normal? (definition : List Char) : Option (List Char) :=
  match read definition with
  | .ok style => some style.text
  | .error .unknownWord => some (lower (trim definition))
  | .error .lacksShare => none

end Style

end EditHistory.Terminal
