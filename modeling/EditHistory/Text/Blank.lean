/-!
# Blank characters

The white space of this library: the ASCII blanks together with the four information separators, the next-line
character and every space, line and paragraph separator of the character database.  Zero-width spaces and the
byte order mark are not blank.

## Main definitions

* `isBlank` — membership in the class
* `isAsciiSpace` — the space and the five ASCII control characters that move the cursor
* `trimStart`, `trimEnd`, `trim` — a text without the blanks at its ends
* `trimAsciiSpace` — a text without the ASCII spaces at its ends
* `words` — the parts of a text between blanks
-/

namespace EditHistory.Text

/-- Whether a character is white space. -/
def isBlank (c : Char) : Bool :=
  let n := c.toNat
  (0x09 ≤ n && n ≤ 0x0d) || (0x1c ≤ n && n ≤ 0x20) || n == 0x85 || n == 0xa0 || n == 0x1680 ||
    (0x2000 ≤ n && n ≤ 0x200a) || n == 0x2028 || n == 0x2029 || n == 0x202f || n == 0x205f || n == 0x3000

/-- Whether a character is the space, the tab or a line control of ASCII; the separators that `isBlank` adds among
the control characters are not. -/
def isAsciiSpace (c : Char) : Bool :=
  c == ' ' || (0x09 ≤ c.toNat && c.toNat ≤ 0x0d)

/-- The text without its leading blanks. -/
def trimStart (cs : List Char) : List Char :=
  cs.dropWhile isBlank

/-- The text without the run of characters of a class that ends it. -/
def dropEndWhile (inClass : Char → Bool) : List Char → List Char
  | [] => []
  | c :: cs =>
    match dropEndWhile inClass cs with
    | [] => if inClass c then [] else [c]
    | rest => c :: rest

/-- The text without its trailing blanks. -/
def trimEnd (cs : List Char) : List Char :=
  dropEndWhile isBlank cs

/-- The text without the blanks at both ends. -/
def trim (cs : List Char) : List Char :=
  trimEnd (trimStart cs)

/-- The text without the ASCII spaces at both ends. -/
def trimAsciiSpace (cs : List Char) : List Char :=
  dropEndWhile isAsciiSpace (cs.dropWhile isAsciiSpace)

/-- The first word of a text put before other words; a text that starts with a blank ends a word. -/
def wordsFrom : List Char → List Char × List (List Char)
  | [] => ([], [])
  | c :: cs =>
    let (word, rest) := wordsFrom cs
    if isBlank c then ([], if word = [] then rest else word :: rest) else (c :: word, rest)

/-- The parts of a text between blanks, none of them empty. -/
def words (cs : List Char) : List (List Char) :=
  match wordsFrom cs with
  | ([], rest) => rest
  | (word, rest) => word :: rest

/-- The text without the `mark` it starts with, if it starts with it. -/
def dropMark? (mark : List Char) (cs : List Char) : Option (List Char) :=
  match mark, cs with
  | [], cs => some cs
  | _ :: _, [] => none
  | m :: mark, c :: cs => if m = c then dropMark? mark cs else none

end EditHistory.Text
