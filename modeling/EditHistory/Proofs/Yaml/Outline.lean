import EditHistory.Text.Blank
import EditHistory.Yaml.Plain
import EditHistory.Yaml.Token

/-!
# Outlines

A text that is an outline has on each line at most one key, with at most one scalar after its colon, and perhaps a
comment.  How deep the key stands says to which of the keys above it belongs.  No scalar goes on to another line.

## Main definitions

* `Outline.Name`, `Outline.Value`, `Outline.Comment` — what stands on a line
* `Outline.Line`, `Outline.text` — the lines, and the text they make
* `Outline.tokens` — the tokens that the text should be cut into
-/

namespace EditHistory.Yaml.Outline

open EditHistory.Text (isBlank)

/-! ### What stands on a line -/

/-- A key: a name that starts with a letter and is read as a text. -/
structure Name where
  chars : List Char
  startsWithLetter : chars.head?.any Char.isAlpha = true
  inAlphabet : chars.all Lexer.isNameChar = true
  /-- A key that is longer is not found any more when its colon comes. -/
  short : chars.length ≤ 1024
  isText : Kind.of chars = .text

theorem Name.exists_letter (name : Name) : ∃ c cs, name.chars = c :: cs ∧ c.isAlpha = true := by
  have first := name.startsWithLetter
  cases chars : name.chars with
  | nil => rw [chars] at first; cases first
  | cons c cs => exact ⟨c, cs, rfl, by simpa [chars] using first⟩

/-- Whether a text can stand without quotes as a single word. -/
def isWord : List Char → Bool
  | [] => false
  | c :: cs => Lexer.startsPlain false c cs && (c :: cs).all (fun ch => !isBlank ch) && (c :: cs).getLast? != some ':'

theorem solid_of_isWord {cs : List Char} (word : isWord cs = true) : ∀ c ∈ cs, isBlank c = false := by
  cases cs with
  | nil => exact fun c mem => absurd mem List.not_mem_nil
  | cons c cs =>
      simp only [isWord, Bool.and_eq_true] at word
      exact fun d mem => by simpa using List.all_eq_true.mp word.1.2 d mem

/-- Whether a text can stand between double quotes as it is. -/
def isQuotable (cs : List Char) : Bool :=
  cs.all fun c => c != '"' && c != '\\' && !isBreak c

/-- A scalar on a line: a word, or a text in double quotes. -/
inductive Value where
  | word (chars : List Char) (isWord : isWord chars = true)
  | quoted (chars : List Char) (isQuotable : isQuotable chars = true)

namespace Value

/-- The scalar as it is written. -/
def text : Value → List Char
  | word cs _ => cs
  | quoted cs _ => '"' :: cs ++ ['"']

/-- The scalar as a token. -/
def token : Value → Token
  | word cs _ => .scalar cs true
  | quoted cs _ => .scalar cs false

end Value

/-- The text of a comment after its mark. -/
structure Comment where
  chars : List Char
  onOneLine : chars.all (fun c => !isBreak c) = true
  trimmed : chars.getLast?.all (fun c => !isBlank c) = true

/-! ### Lines -/

/-- A line without a key. -/
inductive Note where
  | blank (width : Nat)
  | comment (indent : Nat) (comment : Comment)

/-- A key with what follows it on its line.  One space at least stands before a value, and before a comment; the
numbers say how many there are beyond that. -/
structure Entry where
  name : Name
  value : Option (Nat × Value)
  remark : Option (Nat × Comment)

/-- A line of an outline. -/
inductive Line where
  | note (note : Note)
  | key (indent : Nat) (entry : Entry)

/-- Some spaces. -/
def spaces (n : Nat) : List Char := List.replicate n ' '

/-- A note as it is written. -/
def Note.text : Note → List Char
  | blank width => spaces width
  | comment indent c => spaces indent ++ '#' :: c.chars

namespace Entry

/-- The value after the colon as it is written. -/
def valueText (e : Entry) : List Char :=
  e.value.elim [] fun v => spaces (v.1 + 1) ++ v.2.text

/-- The comment at the end of the line as it is written. -/
def remarkText (e : Entry) : List Char :=
  e.remark.elim [] fun r => spaces (r.1 + 1) ++ '#' :: r.2.chars

/-- What stands after the colon. -/
def afterColon (e : Entry) : List Char := e.valueText ++ e.remarkText

/-- The tokens of the value. -/
def valueTokens (e : Entry) : List Token :=
  e.value.elim [] fun v => [v.2.token]

end Entry

namespace Line

/-- A line as it is written. -/
def text : Line → List Char
  | note n => n.text
  | key indent e => spaces indent ++ (e.name.chars ++ ':' :: e.afterColon)

end Line

/-- Lines, each of them on a new line. -/
def after : List Line → List Char
  | [] => []
  | l :: ls => '\n' :: (l.text ++ after ls)

/-- The text of an outline. -/
def text : List Line → List Char
  | [] => []
  | l :: ls => l.text ++ after ls

@[simp] theorem text_cons (l : Line) (ls : List Line) : text (l :: ls) = l.text ++ after ls := rfl

theorem after_cons (l : Line) (ls : List Line) : after (l :: ls) = '\n' :: text (l :: ls) := rfl

/-! ### Tokens -/

/-- The column of the first key, if there is one. -/
def firstColumn? : List Line → Option Nat
  | [] => none
  | .note _ :: ls => firstColumn? ls
  | .key indent _ :: _ => some indent

/-- No key stands deeper than the one before it, if that one has a value. -/
def Steady : List Line → Prop
  | [] => True
  | .note _ :: ls => Steady ls
  | .key indent e :: ls => (e.value.isSome → ∀ k ∈ firstColumn? ls, k ≤ indent) ∧ Steady ls

/-- The columns of the open blocks that a key does not end, the innermost first. -/
def kept (indent : Nat) (columns : List Nat) : List Nat := columns.dropWhile (indent < ·)

/-- The number of open blocks that a key ends. -/
def ended (indent : Nat) (columns : List Nat) : Nat := (columns.takeWhile (indent < ·)).length

/-- The columns of the blocks that are open after a key, which opens one if it is the first in it. -/
def opened (indent : Nat) (columns : List Nat) : List Nat :=
  if (kept indent columns).head? = some indent then kept indent columns else indent :: kept indent columns

/-- The token in front of a key that opens a block. -/
def opening (indent : Nat) (columns : List Nat) : List Token :=
  if (kept indent columns).head? = some indent then [] else [.blockMappingStart]

/-- The tokens of an outline inside blocks that are open already. -/
def tokensIn (columns : List Nat) : List Line → List Token
  | [] => List.replicate columns.length .blockEnd
  | .note _ :: ls => tokensIn columns ls
  | .key indent e :: ls =>
    List.replicate (ended indent columns) .blockEnd ++ opening indent columns ++
      .key :: .scalar e.name.chars true :: .value :: (e.valueTokens ++ tokensIn (opened indent columns) ls)

/-- The tokens of an outline. -/
def tokens (ls : List Line) : List Token := tokensIn [] ls

end EditHistory.Yaml.Outline
