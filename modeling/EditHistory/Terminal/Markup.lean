import EditHistory.Terminal.Emoji
import EditHistory.Terminal.Literal
import EditHistory.Terminal.Style
import EditHistory.Text.Letter

/-!
# Markup

Text for a terminal may hold tags in square brackets that open and close styles.  A tag starts with a small letter, a
slash, a number sign or an at sign; other brackets are text.  Of backslashes before a tag every two make one, and one
that is left over makes the tag text; a backslash before another opening bracket is dropped.  What is between tags may
hold names of pictures.

A closing tag closes the latest style with the normal form that it names, or the latest if it names none, and every
closing tag must have something to close.  A style with an at sign is something that a click starts: the values that
its tag hands over, after an equals sign and perhaps a name, must be a literal by the time it is closed.

Here only the text counts, so the styles are read and dropped.

## Main definitions

* `Markup.pieces` — a text taken apart into tags and what is between them
* `Markup.plain` — the text without its tags
-/

namespace EditHistory.Terminal.Markup

open EditHistory.Text

/-- A part of a text with markup. -/
inductive Piece where
  /-- What is between tags. -/
  | between (cs : List Char)
  /-- A text that backslashes have kept from being a tag, or what is left of the backslashes. -/
  | kept (cs : List Char)
  | tag (name : List Char) (values : Option (List Char))
  deriving DecidableEq, Repr

/-- What is wrong with a text with markup. -/
inductive Fault where
  /-- A closing tag has nothing to close. -/
  | unmatched (name : List Char)
  /-- What a tag hands over is no literal. -/
  | badValues (name : List Char)
  /-- A colour mixed of three shares lacks one. -/
  | lacksShare
  deriving DecidableEq, Repr

/-- The wording of a fault. -/
def Fault.message : Fault → String
  | .unmatched _ => "a closing tag has nothing to close"
  | .badValues _ => "a tag hands over something that is no literal"
  | .lacksShare => "invalid literal for int() with base 10: ''"

/-! ### Taking a text apart -/

/-- Whether a character may start a tag. -/
def startsTag (c : Char) : Bool :=
  ('a' ≤ c && c ≤ 'z') || c == '#' || c == '/' || c == '@'

/-- The body of the tag at the front of a text, and the text after it. -/
def tagAt? : List Char → Option (List Char × List Char)
  | '[' :: c :: rest =>
    if startsTag c then
      match rest.dropWhile fun d => d != '[' && d != ']' with
      | ']' :: after => some (c :: rest.takeWhile (fun d => d != '[' && d != ']'), after)
      | _ => none
    else none
  | _ => none

/-- The pieces with a character before them that belongs to no tag. -/
def addBetween (c : Char) : List Piece → List Piece
  | .between cs :: rest => .between (c :: cs) :: rest
  | rest => .between [c] :: rest

/-- The pieces of a tag with a body after some backslashes. -/
def tagPieces (slashes : Nat) (body : List Char) : List Piece :=
  let before := if slashes < 2 then [] else [.kept (List.replicate (slashes / 2) '\\')]
  let (name, values) := cutAt '=' body
  before ++ [if slashes % 2 = 1 then .kept ('[' :: body ++ [']']) else .tag name values]

/-- The pieces of a text; the fuel bounds its length. -/
def piecesUpTo : Nat → List Char → List Piece
  | 0, _ => []
  | _, [] => []
  | fuel + 1, c :: cs =>
    match tagAt? ((c :: cs).dropWhile (· == '\\')) with
    | some (body, rest) => tagPieces ((c :: cs).takeWhile (· == '\\')).length body ++ piecesUpTo fuel rest
    | none => addBetween c (piecesUpTo fuel cs)

/-- The pieces of a text. -/
def pieces (cs : List Char) : List Piece := piecesUpTo cs.length cs

/-- A text without the backslashes before its opening brackets. -/
def dropEscapes : List Char → List Char
  | '\\' :: '[' :: cs => '[' :: dropEscapes cs
  | c :: cs => c :: dropEscapes cs
  | [] => []

/-! ### Styles -/

/-- An open style: its normal form, and what its tag hands over. -/
structure Opened where
  name : List Char
  values : Option (List Char)
  deriving DecidableEq, Repr

/-- The definition of the style that a tag opens. -/
def Opened.definition (o : Opened) : List Char :=
  o.name ++ (o.values.elim [] fun values => ' ' :: values)

/-- Whether a colour in the definition of the style lacks a share. -/
def Opened.lacksShare (o : Opened) : Bool :=
  match Style.read o.definition with
  | .error .lacksShare => true
  | _ => false

/-- The values that a tag hands over: after a name those in the parentheses up to the end of the text, and none after a
name alone; else the whole text. -/
def valuesOf (cs : List Char) : List Char :=
  let rest := cs.dropWhile fun c => isWordChar c || c == '.'
  match rest with
  | [] => ['(', ')']
  | '(' :: _ => if rest.getLast? = some ')' ∧ !rest.contains '\n' then rest else cs
  | _ => cs

/-- Whether what the tag of a style hands over is fit to be handed over. -/
def Opened.isFit (o : Opened) : Bool :=
  match o.name, o.values with
  | '@' :: _, some (c :: values) => Literal.isLiteral (valuesOf (trim (c :: values)))
  | _, _ => true

/-- The latest open style with a normal form, and the other ones. -/
def take? (name : List Char) : List Opened → Option (Opened × List Opened)
  | [] => none
  | o :: rest => if o.name = name then some (o, rest) else (take? name rest).map fun (found, left) => (found, o :: left)

/-- The style that a closing tag closes, and the styles that stay open. -/
def close (name : List Char) (opened : List Opened) : Except Fault (Opened × List Opened) :=
  match trim name with
  | [] =>
    match opened with
    | [] => .error (.unmatched name)
    | o :: rest => .ok (o, rest)
  | closed =>
    match Style.normal? closed with
    | none => .error .lacksShare
    | some normal =>
      match take? normal opened with
      | none => .error (.unmatched name)
      | some found => .ok found

/-- The text of some pieces, given the open styles, and the styles that the pieces open. -/
def readPieces (opened : List Opened) : List Piece → Except Fault (List Char × List Opened)
  | [] => .ok ([], [])
  | .between cs :: rest =>
    (readPieces opened rest).map fun (text, styles) => (Emoji.replace (dropEscapes cs) ++ text, styles)
  | .kept cs :: rest => (readPieces opened rest).map fun (text, styles) => (Emoji.replace cs ++ text, styles)
  | .tag ('/' :: name) _ :: rest =>
    match close name opened with
    | .ok (o, left) => if o.isFit then readPieces left rest else .error (.badValues o.name)
    | .error fault => .error fault
  | .tag name values :: rest =>
    match Style.normal? name with
    | some normal =>
      (readPieces (⟨normal, values⟩ :: opened) rest).map fun (text, styles) => (text, ⟨normal, values⟩ :: styles)
    | none => .error .lacksShare

/-- The text without its tags. -/
def plain (cs : List Char) : Except Fault (List Char) :=
  match readPieces [] (pieces cs) with
  | .ok (text, styles) =>
    if styles.any Opened.lacksShare then .error .lacksShare else .ok text
  | .error fault => .error fault

end EditHistory.Terminal.Markup
