import EditHistory.Terminal.Style
import EditHistory.Text.Letter
import EditHistory.Viewer.Shade

/-!
# Tags on a screen

A tag in a text for a screen holds words: names of attributes and of shades, shades written out, `on` before what is
behind the letters, `not` before an attribute, and keys with a value after an equals sign.  Two tags name one look if
they say the same about each matter; a tag that names no look stands for its text.

## Main definitions

* `TagWord.ofText?` — the word at the front of a tag
* `Look` — what the words of a tag say
* `normalTag` — what all tags with one look have in common
-/

namespace EditHistory.Viewer

open EditHistory.Text

/-- A word of a tag. -/
inductive TagWord where
  | key (name : List Char)
  | percent (number : List Char)
  /-- A shade written out; nothing if its numbers make no sense. -/
  | shade (found : Option Shade)
  | name (cs : List Char)
  | variable (cs : List Char)
  | blank
  deriving DecidableEq, Repr

namespace TagWord

/-- Whether a character is an ASCII letter, a hyphen or an underscore. -/
def isLetter (c : Char) : Bool := c.isAlpha || c == '-' || c == '_'

/-- The key at the front, which ends at an equals sign. -/
def key? : List Char → Option (TagWord × List Char)
  | [] => none
  | c :: cs =>
    if isLetter c || c == '@' then
      match cs.dropWhile fun d => isLetter d || d.isDigit with
      | '=' :: rest => some (.key (c :: cs.takeWhile fun d => isLetter d || d.isDigit), rest)
      | _ => none
    else none

/-- The digits at the front, with a point among them or after them. -/
def unsigned? (cs : List Char) : Option (List Char × List Char) :=
  let isDigit := fun c => (digitValue? c).isSome
  match cs.takeWhile isDigit, cs.dropWhile isDigit with
  | [], _ => none
  | whole, '.' :: rest => some (whole ++ '.' :: rest.takeWhile isDigit, rest.dropWhile isDigit)
  | whole, rest => some (whole, rest)

/-- The decimal number at the front. -/
def decimal? : List Char → Option (List Char × List Char)
  | '-' :: cs => (unsigned? cs).map fun (digits, rest) => ('-' :: digits, rest)
  | cs => unsigned? cs

/-- The percentage at the front, and whether it is one. -/
def share? (cs : List Char) : Option ((List Char × Bool) × List Char) :=
  match decimal? cs with
  | some (number, '%' :: rest) => some ((number, true), rest)
  | some (number, rest) => some ((number, false), rest)
  | none => none

/-- The numbers at the front between commas, up to a closing parenthesis; the fuel bounds their letters. -/
def shares? : Nat → List Char → Option (List (List Char × Bool) × List Char)
  | 0, _ => none
  | fuel + 1, cs =>
    match share? (cs.dropWhile isBlank) with
    | none => none
    | some (share, rest) =>
      match rest.dropWhile isBlank with
      | ')' :: rest => some ([share], rest)
      | ',' :: rest => (shares? fuel rest).map fun (shares, rest) => (share :: shares, rest)
      | _ => none

/-- The shade that a word before numbers mixes of them, if it takes such numbers.  A shade that is not mixed of red,
green and blue is left as it is written. -/
def mix? (word : String) (shares : List (List Char × Bool)) : Option Shade :=
  match word, shares with
  | "rgb", [(r, false), (g, false), (b, false)] => some (.ofShares r g b [])
  | "rgba", [(r, false), (g, false), (b, false), (a, false)] => some (.ofShares r g b a)
  | "hsl", [(h, false), (s, true), (l, true)] => some (.terminal (String.ofList (h ++ ',' :: s ++ ',' :: l)))
  | "hsla", [(h, false), (s, true), (l, true), (a, false)] =>
    some (.terminal (String.ofList (h ++ ',' :: s ++ ',' :: l ++ ',' :: a)))
  | _, _ => none

/-- The shade written out at the front. -/
def shade? (cs : List Char) : Option (TagWord × List Char) :=
  match cs with
  | '#' :: digits =>
    let count := (digits.takeWhile fun c => (hexDigit? c).isSome).length
    let used := if 8 ≤ count then 8 else if 6 ≤ count then 6 else if 4 ≤ count then 4 else count
    if used < 3 then none else some (.shade (Shade.ofHex? (digits.take used)), digits.drop used)
  | cs =>
    match cs.dropWhile Char.isAlpha with
    | '(' :: rest =>
      match shares? rest.length rest with
      | some (shares, rest) =>
        (mix? (String.ofList (cs.takeWhile Char.isAlpha)) shares).map fun shade => (.shade (some shade), rest)
      | none => none
    | _ => none

/-- The percentage at the front. -/
def percent? (cs : List Char) : Option (TagWord × List Char) :=
  match share? cs with
  | some ((number, true), rest) => some (.percent number, rest)
  | _ => none

/-- The name, the variable or the blanks at the front. -/
def plain? (cs : List Char) : Option (TagWord × List Char) :=
  match cs with
  | [] => none
  | c :: rest =>
    if isLetter c then some (.name (cs.takeWhile isLetter), cs.dropWhile isLetter)
    else if isBlank c then some (.blank, cs.dropWhile isBlank)
    else if c = '$' then
      let isPart := fun d => isLetter d || d.isDigit
      if rest.head?.any isPart then some (.variable (rest.takeWhile isPart), rest.dropWhile isPart) else none
    else none

/-- The word at the front of a tag, and what follows. -/
def ofText? (cs : List Char) : Option (TagWord × List Char) :=
  (key? cs).or ((percent? cs).or ((shade? cs).or (plain? cs)))

end TagWord

/-! ### Values of keys -/

/-- What follows a quoted text of which the opening quote has been read; it ends on its line. -/
def dropQuoted? (quote : Char) : List Char → Option (List Char)
  | [] => none
  | c :: cs =>
    if c = quote then some cs
    else if c = '\n' ∨ ('\x1c' ≤ c ∧ c ≤ '\x1e') ∨ c = '\u0085' ∨ c = '\u2028' ∨ c = '\u2029' then none
    else dropQuoted? quote cs

/-- Whether a character may stand outside quotes in the value of a key. -/
def isValueChar (c : Char) : Bool :=
  isWordChar c || isBlank c || ['.', '(', ')', '[', '\x7b', '\x7d', ','].contains c

/-- What follows the value of a key: a blank with no comma beside it ends it outside brackets, and so does the bracket
that closes the outermost one.  Nothing if the value makes no sense; the fuel bounds its letters. -/
def dropValue? : Nat → Nat → List Char → Option (List Char)
  | 0, _, cs => some cs
  | _, _, [] => some []
  | fuel + 1, depth, c :: cs =>
    if isBlank c then
      match cs.dropWhile isBlank with
      | ',' :: rest => dropValue? fuel depth (rest.dropWhile isBlank)
      | rest => if depth = 0 then some rest else dropValue? fuel depth rest
    else if c = ',' then dropValue? fuel depth (cs.dropWhile isBlank)
    else if c = '(' ∨ c = '[' ∨ c = '\x7b' then dropValue? fuel (depth + 1) cs
    else if c = ')' ∨ c = '\x7d' then
      if depth = 0 then none
      else if depth = 1 then some cs
      else dropValue? fuel (depth - 1) cs
    else if c = '"' ∨ c = '\'' then
      match dropQuoted? c cs with
      | some rest => dropValue? fuel depth rest
      | none => none
    else if isValueChar c then dropValue? fuel depth cs
    else none

/-- What follows the first word of the value of a key; brackets in it do not count. -/
def dropFirst? : List Char → Option (List Char)
  | [] => some []
  | c :: cs =>
    if isWordChar c || c == '.' then some (cs.dropWhile fun d => isWordChar d || d == '.')
    else if isBlank c then
      match cs.dropWhile isBlank with
      | ',' :: rest => some (rest.dropWhile isBlank)
      | rest => some rest
    else if c = ',' then some (cs.dropWhile isBlank)
    else if isValueChar c then some cs
    else none

/-! ### Looks -/

/-- What the words of a tag say: the shade of the letters and the one behind them, attributes, and keys. -/
structure Look where
  letters : Option Shade
  behind : Option Shade
  attributes : List (Terminal.Attribute × Bool)
  keys : List (List Char)
  deriving DecidableEq, Repr

namespace Look

/-- A look of which nothing is said. -/
def plain : Look := ⟨none, none, [], []⟩

/-- The attribute with a name, of those that letters on a screen can have. -/
def attribute? (name : List Char) : Option Terminal.Attribute :=
  match Terminal.Attribute.ofName? name with
  | some .conceal | some .overline | some .frame | some .encircle | some .fastBlink | none => none
  | some a => some a

/-- The look with a shade of the letters or behind them. -/
def withShade (look : Look) (isBehind : Bool) (shade : Shade) : Look :=
  if isBehind then { look with behind := some shade } else { look with letters := some shade }

/-- The look with its shade covering less. -/
def withPercent (look : Look) (isBehind : Bool) (percent : List Char) : Look :=
  if isBehind then { look with behind := look.behind.map (Shade.thinned percent) }
  else { look with letters := look.letters.map (Shade.thinned percent) }

/-- The look with a key. -/
def withKey (look : Look) (key : List Char) : Look :=
  if look.keys.contains key then look else { look with keys := look.keys ++ [key] }

/-- The look of a tag's words after some others, given whether they are about what is behind the letters and what the
next attribute is to be.  Nothing if they name no look; the fuel bounds their letters. -/
def read? : Nat → Look → Bool → Bool → List Char → Option Look
  | 0, look, _, _, _ => some look
  | _, look, _, _, [] => some look
  | fuel + 1, look, isBehind, state, c :: cs =>
    if c = '"' ∨ c = '\'' then
      match dropQuoted? c cs with
      | some rest => read? fuel look isBehind state rest
      | none => none
    else match TagWord.ofText? (c :: cs) with
      | none | some (.variable _, _) | some (.shade none, _) => none
      | some (.blank, rest) => read? fuel look isBehind state rest
      | some (.shade (some shade), rest) => read? fuel (look.withShade isBehind shade) isBehind state rest
      | some (.percent number, rest) =>
        if number.contains '.' then none else read? fuel (look.withPercent isBehind number) isBehind state rest
      | some (.name name, rest) =>
        if name = "on".toList then read? fuel look true state rest
        else if name = "not".toList then read? fuel look isBehind false rest
        else match attribute? name, Shade.ofName? (String.ofList name) with
          | some a, _ => read? fuel { look with attributes := (a, state) :: look.attributes } isBehind true rest
          | none, some shade => read? fuel (look.withShade isBehind shade) isBehind state rest
          | none, none => none
      | some (.key key, rest) =>
        match rest with
        | '"' :: quoted => (dropQuoted? '"' quoted).map fun _ => look.withKey key
        | '\'' :: quoted => (dropQuoted? '\'' quoted).map fun _ => look.withKey key
        | rest =>
          match (dropFirst? rest).bind fun after => dropValue? after.length 0 after with
          | some after => read? fuel (look.withKey key) isBehind state after
          | none => none

/-- The look that the words of a tag name. -/
def ofTag? (tag : List Char) : Option Look :=
  read? tag.length plain false true tag

/-- The words of a look, in a fixed order. -/
def words (look : Look) : List (List Char) :=
  let attributes := Terminal.Attribute.all.flatMap fun a =>
    match look.attributes.lookup a with
    | some true => [a.name.toList]
    | some false => ["not".toList, a.name.toList]
    | none => []
  let link := if look.keys.contains "link".toList then ["link".toList] else []
  (look.letters.map Shade.text).toList ++ (look.behind.elim [] fun shade => ["on".toList, shade.text]) ++ attributes ++
    link ++ (look.keys.filter (· ≠ "link".toList)).map (· ++ ['='])

end Look

/-- What all tags with one look have in common: the words of the look, or the text of a tag that names none. -/
def normalTag (tag : List Char) : List Char :=
  match Look.ofTag? tag with
  | some look => [' '].intercalate look.words
  | none => trim tag

end EditHistory.Viewer
