import EditHistory.Number.Layout
import EditHistory.Text.Digit

/-!
# Shades on a screen

A shade is mixed of red, green and blue, one byte each.  It may be written by its name, or by three or six hexadecimal
digits, to which one or two may be added that say how far it covers what is behind it.  The colours of the terminal,
which the terminal mixes, have names of their own.

## Main definitions

* `Shade` — a shade
* `Shade.ofName?`, `Shade.ofHex?`, `Shade.ofShares` — the shade that is written
-/

namespace EditHistory.Viewer

open EditHistory.Text Number

/-- A shade on a screen; `cover` tells how far it covers what is behind it, unless it does so wholly. -/
inductive Shade where
  | mixed (red green blue : Nat) (cover : List Char)
  | terminal (name : String)
  /-- Black or white, whichever is easier to read. -/
  | automatic
  deriving DecidableEq, Repr

namespace Shade

/-- The named shades. -/
def names : List (String × Nat) := [
  ("aliceblue", 0xf0f8ff), ("antiquewhite", 0xfaebd7), ("aqua", 0x00ffff), ("aquamarine", 0x7fffd4),
  ("azure", 0xf0ffff), ("beige", 0xf5f5dc), ("bisque", 0xffe4c4), ("black", 0x000000), ("blanchedalmond", 0xffebcd),
  ("blue", 0x0000ff), ("blueviolet", 0x8a2be2), ("brown", 0xa52a2a), ("burlywood", 0xdeb887), ("cadetblue", 0x5f9ea0),
  ("chartreuse", 0x7fff00), ("chocolate", 0xd2691e), ("coral", 0xff7f50), ("cornflowerblue", 0x6495ed),
  ("cornsilk", 0xfff8dc), ("crimson", 0xdc143c), ("cyan", 0x00ffff), ("darkblue", 0x00008b), ("darkcyan", 0x008b8b),
  ("darkgoldenrod", 0xb8860b), ("darkgray", 0xa9a9a9), ("darkgreen", 0x006400), ("darkgrey", 0xa9a9a9),
  ("darkkhaki", 0xbdb76b), ("darkmagenta", 0x8b008b), ("darkolivegreen", 0x556b2f), ("darkorange", 0xff8c00),
  ("darkorchid", 0x9932cc), ("darkred", 0x8b0000), ("darksalmon", 0xe9967a), ("darkseagreen", 0x8fbc8f),
  ("darkslateblue", 0x483d8b), ("darkslategray", 0x2f4f4f), ("darkslategrey", 0x2f4f4f), ("darkturquoise", 0x00ced1),
  ("darkviolet", 0x9400d3), ("deeppink", 0xff1493), ("deepskyblue", 0x00bfff), ("dimgray", 0x696969),
  ("dimgrey", 0x696969), ("dodgerblue", 0x1e90ff), ("firebrick", 0xb22222), ("floralwhite", 0xfffaf0),
  ("forestgreen", 0x228b22), ("fuchsia", 0xff00ff), ("gainsboro", 0xdcdcdc), ("ghostwhite", 0xf8f8ff),
  ("gold", 0xffd700), ("goldenrod", 0xdaa520), ("gray", 0x808080), ("green", 0x008000), ("greenyellow", 0xadff2f),
  ("grey", 0x808080), ("honeydew", 0xf0fff0), ("hotpink", 0xff69b4), ("indianred", 0xcd5c5c), ("indigo", 0x4b0082),
  ("ivory", 0xfffff0), ("khaki", 0xf0e68c), ("lavender", 0xe6e6fa), ("lavenderblush", 0xfff0f5),
  ("lawngreen", 0x7cfc00), ("lemonchiffon", 0xfffacd), ("lightblue", 0xadd8e6), ("lightcoral", 0xf08080),
  ("lightcyan", 0xe0ffff), ("lightgoldenrodyellow", 0xfafad2), ("lightgray", 0xd3d3d3), ("lightgreen", 0x90ee90),
  ("lightgrey", 0xd3d3d3), ("lightpink", 0xffb6c1), ("lightsalmon", 0xffa07a), ("lightseagreen", 0x20b2aa),
  ("lightskyblue", 0x87cefa), ("lightslategray", 0x778899), ("lightslategrey", 0x778899),
  ("lightsteelblue", 0xb0c4de), ("lightyellow", 0xffffe0), ("lime", 0x00ff00), ("limegreen", 0x32cd32),
  ("linen", 0xfaf0e6), ("magenta", 0xff00ff), ("maroon", 0x800000), ("mediumaquamarine", 0x66cdaa),
  ("mediumblue", 0x0000cd), ("mediumorchid", 0xba55d3), ("mediumpurple", 0x9370db), ("mediumseagreen", 0x3cb371),
  ("mediumslateblue", 0x7b68ee), ("mediumspringgreen", 0x00fa9a), ("mediumturquoise", 0x48d1cc),
  ("mediumvioletred", 0xc71585), ("midnightblue", 0x191970), ("mintcream", 0xf5fffa), ("mistyrose", 0xffe4e1),
  ("moccasin", 0xffe4b5), ("navajowhite", 0xffdead), ("navy", 0x000080), ("oldlace", 0xfdf5e6), ("olive", 0x808000),
  ("olivedrab", 0x6b8e23), ("orange", 0xffa500), ("orangered", 0xff4500), ("orchid", 0xda70d6),
  ("palegoldenrod", 0xeee8aa), ("palegreen", 0x98fb98), ("paleturquoise", 0xafeeee), ("palevioletred", 0xdb7093),
  ("papayawhip", 0xffefd5), ("peachpuff", 0xffdab9), ("peru", 0xcd853f), ("pink", 0xffc0cb), ("plum", 0xdda0dd),
  ("powderblue", 0xb0e0e6), ("purple", 0x800080), ("rebeccapurple", 0x663399), ("red", 0xff0000),
  ("rosybrown", 0xbc8f8f), ("royalblue", 0x4169e1), ("saddlebrown", 0x8b4513), ("salmon", 0xfa8072),
  ("sandybrown", 0xf4a460), ("seagreen", 0x2e8b57), ("seashell", 0xfff5ee), ("sienna", 0xa0522d),
  ("silver", 0xc0c0c0), ("skyblue", 0x87ceeb), ("slateblue", 0x6a5acd), ("slategray", 0x708090),
  ("slategrey", 0x708090), ("snow", 0xfffafa), ("springgreen", 0x00ff7f), ("steelblue", 0x4682b4), ("tan", 0xd2b48c),
  ("teal", 0x008080), ("thistle", 0xd8bfd8), ("tomato", 0xff6347), ("turquoise", 0x40e0d0), ("violet", 0xee82ee),
  ("wheat", 0xf5deb3), ("white", 0xffffff), ("whitesmoke", 0xf5f5f5), ("yellow", 0xffff00), ("yellowgreen", 0x9acd32)]

/-- The shades of a terminal; each has a bright variant. -/
def terminalNames : List String := ["black", "red", "green", "yellow", "blue", "magenta", "cyan", "white"]

/-- The shade of a number, the bytes of which are red, green and blue. -/
def ofNat (n : Nat) (cover : List Char) : Shade :=
  .mixed (n / 0x10000) (n / 0x100 % 0x100) (n % 0x100) cover

/-- The shade with a name. -/
def ofName? (name : String) : Option Shade :=
  if name = "auto" then some .automatic
  else if name = "transparent" then some (ofNat 0 ['0'])
  else if name = "ansi_default" ∨ terminalNames.any (fun n => name = "ansi_" ++ n || name = "ansi_bright_" ++ n) then
    some (.terminal name)
  else (names.lookup name).map fun n => ofNat n []

/-- How far a shade covers what is behind it, of 255 parts. -/
def coverOf (parts : Nat) : List Char :=
  if parts = 255 then [] else hexDigits 2 parts

/-- The shade written by hexadecimal digits. -/
def ofHex? (digits : List Char) : Option Shade :=
  match digits.mapM hexDigit? with
  | some [r, g, b] => some (.mixed (r * 17) (g * 17) (b * 17) [])
  | some [r, g, b, a] => some (.mixed (r * 17) (g * 17) (b * 17) (coverOf (a * 17)))
  | some [r, r', g, g', b, b'] => some (.mixed (r * 16 + r') (g * 16 + g') (b * 16 + b') [])
  | some [r, r', g, g', b, b', a, a'] =>
    some (.mixed (r * 16 + r') (g * 16 + g') (b * 16 + b') (coverOf (a * 16 + a')))
  | _ => none

/-- The byte nearest below a decimal number, given by its letters. -/
def byteOf (decimal : List Char) : Nat :=
  match decimal with
  | '-' :: _ => 0
  | digits => min 255 (ofDigits ((digits.takeWhile (· != '.')).filterMap digitValue?))

/-- The shade of three shares, given by decimal numbers. -/
def ofShares (red green blue cover : List Char) : Shade :=
  .mixed (byteOf red) (byteOf green) (byteOf blue) cover

/-- The shade that covers less of what is behind it. -/
def thinned (percent : List Char) : Shade → Shade
  | .mixed r g b cover => .mixed r g b (cover ++ percent)
  | shade => shade

/-- A shade written in the one way that it has. -/
def text : Shade → List Char
  | .mixed r g b cover =>
    let shares := natText r ++ ',' :: natText g ++ ',' :: natText b
    if cover = [] then "rgb(".toList ++ shares ++ [')'] else "rgba(".toList ++ shares ++ ',' :: cover ++ [')']
  | .terminal name => name.toList
  | .automatic => "auto".toList

end Shade

end EditHistory.Viewer
