import EditHistory.Value

/-!
# Writing JSON

A value in ASCII.  Characters beyond ASCII are escaped by their UTF-16 units, so a character beyond the basic plane
is written as a pair of surrogates.  A double is written by its shortest digits; infinities and not-a-number by
their names.

## Main definitions

* `escapeChar`, `quote` — a text inside double quotes
* `pretty` — one field or item per line, two blanks per level
* `compact` — no blanks at all
-/

namespace EditHistory.Json

open EditHistory.Text

/-- An escape by four hexadecimal digits. -/
def unitEscape (n : Nat) : List Char :=
  '\\' :: 'u' :: hexDigits 4 n

/-- One character inside double quotes. -/
def escapeChar (c : Char) : List Char :=
  if c = '"' then ['\\', '"']
  else if c = '\\' then ['\\', '\\']
  else if c = '\n' then ['\\', 'n']
  else if c = '\r' then ['\\', 'r']
  else if c = '\t' then ['\\', 't']
  else if c = '\x0c' then ['\\', 'f']
  else if c = '\x08' then ['\\', 'b']
  else if 0x20 ≤ c.toNat ∧ c.toNat < 0x7f then [c]
  else if c.toNat < 0x10000 then unitEscape c.toNat
  else unitEscape (0xd800 + (c.toNat - 0x10000) / 0x400) ++ unitEscape (0xdc00 + (c.toNat - 0x10000) % 0x400)

/-- A text inside double quotes. -/
def quote (s : String) : List Char :=
  '"' :: s.toList.flatMap escapeChar ++ ['"']

/-- A double, with names for those that are not finite. -/
def floatText (x : Float) : List Char :=
  match Number.parts x with
  | .nan => "NaN".toList
  | .infinite negative => Number.withSign negative "Infinity".toList
  | .finite .. => Number.display x

/-- A new line indented to a level. -/
def newLine (level : Nat) : List Char :=
  '\n' :: List.replicate (2 * level) ' '

mutual

/-- A value laid out over several lines, standing at a level. -/
def prettyAt (level : Nat) : Value → List Char
  | .null => "null".toList
  | .bool true => "true".toList
  | .bool false => "false".toList
  | .int n => Number.intText n
  | .float x => floatText x
  | .str s => quote s
  | .list [] => ['[', ']']
  | .list (v :: vs) =>
    '[' :: newLine (level + 1) ++ prettyItems (level + 1) (v :: vs) ++ newLine level ++ [']']
  | .object [] => ['{', '}']
  | .object (f :: fs) =>
    '{' :: newLine (level + 1) ++ prettyFields (level + 1) (f :: fs) ++ newLine level ++ ['}']

/-- Items on lines of their own. -/
def prettyItems (level : Nat) : List Value → List Char
  | [] => []
  | [v] => prettyAt level v
  | v :: w :: rest => prettyAt level v ++ ',' :: newLine level ++ prettyItems level (w :: rest)

/-- Fields on lines of their own. -/
def prettyFields (level : Nat) : List (String × Value) → List Char
  | [] => []
  | [(k, v)] => quote k ++ ':' :: ' ' :: prettyAt level v
  | (k, v) :: f :: rest =>
    quote k ++ ':' :: ' ' :: prettyAt level v ++ ',' :: newLine level ++ prettyFields level (f :: rest)

end

/-- A value laid out over several lines. -/
def pretty (v : Value) : List Char :=
  prettyAt 0 v

mutual

/-- A value on one line, without blanks. -/
def compact : Value → List Char
  | .null => "null".toList
  | .bool true => "true".toList
  | .bool false => "false".toList
  | .int n => Number.intText n
  | .float x => floatText x
  | .str s => quote s
  | .list items => '[' :: compactItems items ++ [']']
  | .object fields => '{' :: compactFields fields ++ ['}']

/-- Items separated by commas. -/
def compactItems : List Value → List Char
  | [] => []
  | [v] => compact v
  | v :: w :: rest => compact v ++ ',' :: compactItems (w :: rest)

/-- Fields separated by commas. -/
def compactFields : List (String × Value) → List Char
  | [] => []
  | [(k, v)] => quote k ++ ':' :: compact v
  | (k, v) :: f :: rest => quote k ++ ':' :: compact v ++ ',' :: compactFields (f :: rest)

end

end EditHistory.Json
