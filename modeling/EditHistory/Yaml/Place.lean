import EditHistory.Yaml.Data

/-!
# Data in their places

Data that are met again inside themselves are found again among the data around the place.  What is shown of a list or
mapping inside itself is dots in its brackets.

## Main definitions

* `Place` — data, and the lists and mappings around them
* `Place.get?` — the value of a name in a mapping
* `Place.text` — the data as text
-/

namespace EditHistory.Yaml

/-- Data, and the lists and mappings around them, the closest first. -/
structure Place where
  data : Data
  around : List Data

namespace Place

/-- The first of some lists and mappings that has a number, and those after it. -/
def find (id : Nat) : List Data → Option Place
  | [] => none
  | d :: ds => if d.id? = some id then some ⟨d, ds⟩ else find id ds

/-- The place of data inside the lists and mappings around them. -/
def enter (around : List Data) (d : Data) : Place :=
  match d with
  | .again id => (find id around).getD ⟨d, around⟩
  | d => ⟨d, around⟩

/-- The value of a text in a mapping; nothing for any other data. -/
def get? (p : Place) (key : String) : Option Place :=
  match p.data with
  | .mapping _ pairs => (Data.lookup? pairs key).map (enter (p.data :: p.around))
  | _ => none

/-- A byte as it is shown between quotes. -/
def byteText (quote : Char) (b : UInt8) : List Char :=
  let c := Char.ofNat b.toNat
  if c = quote ∨ c = '\\' then ['\\', c]
  else if c = '\n' then ['\\', 'n']
  else if c = '\r' then ['\\', 'r']
  else if c = '\t' then ['\\', 't']
  else if 0x20 ≤ b ∧ b < 0x7f then [c]
  else '\\' :: 'x' :: Text.hexDigits 2 b.toNat

/-- Bytes as they are shown. -/
def bytesText (bs : List UInt8) : List Char :=
  let quote := Text.quoteFor (bs.map fun b => Char.ofNat b.toNat)
  'b' :: quote :: bs.flatMap (byteText quote) ++ [quote]

/-- Texts with commas between them. -/
def commas : List (List Char) → List Char
  | [] => []
  | [t] => t
  | t :: u :: rest => t ++ ',' :: ' ' :: commas (u :: rest)

/-- The data as they are shown, inside other data of which some are being shown already; the fuel bounds the depth. -/
def display (shown : List Nat) : Nat → Place → List Char
  | 0, _ => []
  | fuel + 1, p =>
    let isOpen (id : Nat) : Bool := shown.contains id
    let part (id : Nat) (d : Data) : List Char := display (id :: shown) fuel (enter (p.data :: p.around) d)
    match p.data with
    | .null => "None".toList
    | .bool true => "True".toList
    | .bool false => "False".toList
    | .int n => Number.intText n
    | .float x => Number.display x
    | .str s => Text.quoted s
    | .bytes bs => bytesText bs
    | .moment _ text => text
    | .pair a b =>
      '(' :: display shown fuel (enter p.around a) ++ ',' :: ' ' :: display shown fuel (enter p.around b) ++ [')']
    | .list id items => if isOpen id then "[...]".toList else '[' :: commas (items.map (part id)) ++ [']']
    | .set _ [] => "set()".toList
    | .set id items => '\x7b' :: commas (items.map (part id)) ++ ['\x7d']
    | .mapping id pairs =>
      if isOpen id then "\x7b...\x7d".toList
      else '\x7b' :: commas (pairs.map fun f => part id f.1 ++ ':' :: ' ' :: part id f.2) ++ ['\x7d']
    | .again _ => "...".toList

/-- More steps than lead down to any data that are shown: every list and mapping on the way is another one. -/
def depthLimit (p : Place) : Nat :=
  2 * (Data.sizeOfItems (p.data :: p.around) + 1)

/-- The data as text: a text is itself, anything else is displayed. -/
def text (p : Place) : List Char :=
  match p.data with
  | .str s => s
  | .moment text _ => text
  | _ => display [] p.depthLimit p

end Place

end EditHistory.Yaml
