import EditHistory.Number.Layout
import EditHistory.Text.Blank

/-!
# The speed in the text of the preferences

Storing a speed changes nothing else in the text.  The first line that consists of the key of a speed after white
space gets the new value in place of the first word after the key.  Where there is no such line, one is added below
the first line that opens the section of playback, or in a new section at the end.

White space may go across line ends, both before the key and between the key and its value.

## Main definitions

* `SpeedLine.replace` — the text with a speed stored in it
-/

namespace EditHistory.Preferences.SpeedLine

open EditHistory.Text

/-- The key of a speed. -/
def key : List Char := "speed:".toList

/-- The key of the section of playback. -/
def sectionKey : List Char := "playback:".toList

/-- The key of a speed after white space at the front of a text, and what follows it. -/
def keyAt? (cs : List Char) : Option (List Char × List Char) :=
  match cs.takeWhile isBlank with
  | [] => none
  | blanks => (dropMark? key (cs.dropWhile isBlank)).map fun rest => (blanks ++ key, rest)

/-- The section of playback at the front of a text: the line that opens it, and what follows that line. -/
def sectionAt? (cs : List Char) : Option (List Char × List Char) :=
  (dropMark? sectionKey cs).map fun _ => (cs.takeWhile (· != '\n'), cs.dropWhile (· != '\n'))

/-- The text up to the end of what `at?` finds at the first start of a line where it finds something, and the text
after that.  `fresh` says whether the text begins at the start of a line. -/
def findAtLineStart (at? : List Char → Option (List Char × List Char)) (fresh : Bool) :
    List Char → Option (List Char × List Char)
  | [] => none
  | c :: cs =>
    match if fresh then at? (c :: cs) else none with
    | some found => some found
    | none => (findAtLineStart at? (c == '\n') cs).map fun p => (c :: p.1, p.2)

/-- The text after a key with its first word replaced; without a word nothing changes. -/
def replaceWord (word rest : List Char) : List Char :=
  match rest.dropWhile isBlank with
  | [] => rest
  | after => ' ' :: word ++ after.dropWhile fun c => !isBlank c

/-- The text with a value stored as its speed. -/
def replaceValue (value cs : List Char) : List Char :=
  match findAtLineStart keyAt? true cs with
  | some (before, rest) => before ++ replaceWord value rest
  | none =>
    match findAtLineStart sectionAt? true cs with
    | some (before, rest) => before ++ "\n  speed: ".toList ++ value ++ rest
    | none => trimEnd cs ++ "\n\nplayback:\n  speed: ".toList ++ value ++ ['\n']

/-- The text with a speed stored in it; six digits of the speed count. -/
def replace (speed : Float) (cs : List Char) : List Char :=
  replaceValue (Number.general speed) cs

end EditHistory.Preferences.SpeedLine
