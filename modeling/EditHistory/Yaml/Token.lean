import EditHistory.Text.Utf8
import EditHistory.Yaml.Scalar

/-!
# Tokens

A text is cut into tokens: the marks of the structure, and the scalars between them.  Indentation becomes tokens too:
one where a sequence or mapping starts, one where it ends.

A key of a mapping need not be marked.  Whatever may turn out to be a key is remembered, one candidate per level of
brackets; a colon that follows on the same line makes it one, and its marks are put in before it.

## Main definitions

* `Token` — the pieces
* `Lexer` — a position with all that bears on how the text goes on
* `Token.scan` — the tokens of a text
-/

namespace EditHistory.Yaml

/-- The name of a type as it was written: perhaps a handle, and the rest. -/
structure TagName where
  handle : Option (List Char)
  suffix : List Char
  deriving DecidableEq, Repr

/-- A line that speaks about the document after it. -/
inductive Directive where
  /-- The version of the language. -/
  | version (major : Nat)
  /-- What a handle stands for. -/
  | handle (name meaning : List Char)
  | unknown
  deriving DecidableEq, Repr

/-- A piece of a text. -/
inductive Token where
  | directive (d : Directive)
  | documentStart
  | documentEnd
  | blockSequenceStart
  | blockMappingStart
  | blockEnd
  | flowSequenceStart
  | flowSequenceEnd
  | flowMappingStart
  | flowMappingEnd
  | flowEntry
  | blockEntry
  | key
  | value
  | alias (name : List Char)
  | anchor (name : List Char)
  | tag (name : TagName)
  | scalar (text : List Char) (plain : Bool)
  deriving DecidableEq, Repr

/-- What may turn out to be a key: where its token is, where it starts, and whether it has to be one. -/
structure Candidate where
  place : Nat
  required : Bool
  index : Nat
  line : Nat
  column : Nat

/-- A position with all that bears on how the text goes on. -/
structure Lexer where
  cursor : Cursor
  /-- How many brackets are open. -/
  flow : Nat
  /-- The column of the innermost block, and those of the blocks around it. -/
  indent : Int
  indents : List Int
  /-- Whether a key may start here. -/
  keyAllowed : Bool
  /-- The candidates for keys, by the number of brackets around them. -/
  candidates : List (Nat × Candidate)
  /-- The tokens so far, the last one first. -/
  tokens : List Token
  finished : Bool

namespace Lexer

open Scalar (Fault)

/-- The position before a text. -/
def start (cs : List Char) : Lexer :=
  { cursor := .start cs, flow := 0, indent := -1, indents := [], keyAllowed := true, candidates := [], tokens := [],
    finished := false }

/-- The text with a token added. -/
def push (l : Lexer) (t : Token) : Lexer :=
  { l with tokens := t :: l.tokens }

/-- The position after a token of some characters. -/
def pushOver (l : Lexer) (t : Token) (width : Nat) : Lexer :=
  { l with tokens := t :: l.tokens, cursor := l.cursor.skip width }

/-- A token put in at a place among the tokens. -/
def insertAt (l : Lexer) (place : Nat) (t : Token) : Lexer :=
  let later := l.tokens.length - place
  { l with tokens := l.tokens.take later ++ t :: l.tokens.drop later }

/-! ### White space and indentation -/

/-- The position of the next token: spaces, comments and line ends are passed over. -/
def dropWhite : Nat → Bool → Cursor → Bool × Cursor
  | 0, crossed, c => (crossed, c)
  | fuel + 1, crossed, c =>
    let c := (c.dropWhile (· == ' ')).dropComment
    match c.lineBreak with
    | ([], c) => (crossed, c)
    | (_, c) => dropWhite fuel true c

/-- The position of the next token; a key may start on a new line outside of brackets. -/
def toNextToken (l : Lexer) : Lexer :=
  let c := if l.cursor.index = 0 && l.cursor.peek? == some '\uFEFF' then l.cursor.next else l.cursor
  let (crossed, c) := dropWhite (c.rest.length + 1) false c
  { l with cursor := c, keyAllowed := l.keyAllowed || crossed && l.flow == 0 }

/-- Ends the blocks that stand to the right of a column. -/
def unwindTo (column : Int) : List Int → Lexer → Lexer
  | [], l => l
  | outer :: rest, l =>
    if column < l.indent then unwindTo column rest (push { l with indent := outer, indents := rest } .blockEnd) else l

/-- Ends the blocks that stand to the right of a column, unless inside brackets. -/
def unwind (l : Lexer) (column : Int) : Lexer :=
  if l.flow = 0 then unwindTo column l.indents l else l

/-- Starts a block at a column if there is none that far to the right; whether it did. -/
def indentTo (l : Lexer) (column : Nat) : Bool × Lexer :=
  if l.indent < column then (true, { l with indent := column, indents := l.indent :: l.indents }) else (false, l)

/-! ### Candidates for keys -/

/-- Gives up the candidates that can be no keys any more; a required one must not be given up. -/
def dropStale (l : Lexer) : Except Fault Lexer :=
  let stale (p : Nat × Candidate) : Bool := p.2.line != l.cursor.line || p.2.index + 1024 < l.cursor.index
  if l.candidates.any fun p => stale p && p.2.required then .error .malformed
  else .ok { l with candidates := l.candidates.filter fun p => !stale p }

/-- Gives up the candidate at the level of brackets. -/
def dropCandidate (l : Lexer) : Except Fault Lexer :=
  if l.candidates.any fun p => p.1 == l.flow && p.2.required then .error .malformed
  else .ok { l with candidates := l.candidates.filter fun p => p.1 != l.flow }

/-- Remembers that the next token may be a key. -/
def addCandidate (l : Lexer) : Except Fault Lexer :=
  if l.keyAllowed then
    let c := l.cursor
    l.dropCandidate.map fun l =>
      { l with candidates := (l.flow, ⟨l.tokens.length, l.flow == 0 && l.indent == c.column, c.index, c.line,
          c.column⟩) :: l.candidates }
  else .ok l

/-! ### The tokens -/

/-- The end of the text. -/
def finish (l : Lexer) : Except Fault Lexer :=
  (l.unwind (-1)).dropCandidate.map fun l => { l with finished := true, candidates := [], keyAllowed := false }

/-- A character of a name. -/
def isNameChar (c : Char) : Bool :=
  c.isAlphanum || c == '-' || c == '_'

/-- A mark between documents. -/
def documentMark (l : Lexer) (t : Token) : Except Fault Lexer :=
  (l.unwind (-1)).dropCandidate.map fun l => pushOver { l with keyAllowed := false } t 3

/-- An opening bracket. -/
def openFlow (l : Lexer) (t : Token) : Except Fault Lexer :=
  l.addCandidate.map fun l => pushOver { l with flow := l.flow + 1, keyAllowed := true } t 1

/-- A closing bracket. -/
def closeFlow (l : Lexer) (t : Token) : Except Fault Lexer :=
  if l.flow = 0 then .error .malformed
  else l.dropCandidate.map fun l => pushOver { l with flow := l.flow - 1, keyAllowed := false } t 1

/-- A comma between brackets. -/
def flowEntry (l : Lexer) : Except Fault Lexer :=
  l.dropCandidate.map fun l => pushOver { l with keyAllowed := true } .flowEntry 1

/-- Starts a block for a token at the position if it stands far enough to the right. -/
def startBlock (l : Lexer) (t : Token) : Lexer :=
  match l.indentTo l.cursor.column with
  | (true, l) => l.push t
  | (false, l) => l

/-- The dash before an entry of a sequence. -/
def blockEntry (l : Lexer) : Except Fault Lexer :=
  if l.flow = 0 && !l.keyAllowed then .error .malformed
  else
    let l := if l.flow = 0 then l.startBlock .blockSequenceStart else l
    l.dropCandidate.map fun l => pushOver { l with keyAllowed := true } .blockEntry 1

/-- The question mark before a key. -/
def explicitKey (l : Lexer) : Except Fault Lexer :=
  if l.flow = 0 && !l.keyAllowed then .error .malformed
  else
    let l := if l.flow = 0 then l.startBlock .blockMappingStart else l
    l.dropCandidate.map fun l => pushOver { l with keyAllowed := l.flow == 0 } .key 1

/-- The colon after a candidate, which it makes a key. -/
def valueAfter (l : Lexer) (c : Candidate) : Lexer :=
  let l := { l with candidates := l.candidates.filter fun p => p.1 != l.flow }
  let l := l.insertAt c.place .key
  let l :=
    if l.flow = 0 then
      match l.indentTo c.column with
      | (true, l) => l.insertAt c.place .blockMappingStart
      | (false, l) => l
    else l
  pushOver { l with keyAllowed := false } .value 1

/-- The colon before a value. -/
def value (l : Lexer) : Except Fault Lexer :=
  match l.candidates.find? fun p => p.1 == l.flow with
  | some p => .ok (l.valueAfter p.2)
  | none =>
    if l.flow = 0 && !l.keyAllowed then .error .malformed
    else
      let l := if l.flow = 0 then l.startBlock .blockMappingStart else l
      l.dropCandidate.map fun l => pushOver { l with keyAllowed := l.flow == 0 } .value 1

/-- A mark that may follow a name directly. -/
def isNameEnd (c : Char) : Bool :=
  c == '}' || c.toNat == 0x60 || "?:,]%@".toList.contains c

/-- The name after an asterisk or an ampersand. -/
def named (l : Lexer) (t : List Char → Token) : Except Fault Lexer := do
  let l ← l.addCandidate
  let (name, c) := l.cursor.next.takeWhile isNameChar
  let ends := endsOr (fun ch => isWhite ch || isNameEnd ch) c.rest
  if name = [] || !ends then .error .malformed
  else return push { l with keyAllowed := false, cursor := c } (t name)

/-- A scalar that was read. -/
def pushScalar (l : Lexer) (s : ScalarText) (plain : Bool) : Lexer :=
  push { l with cursor := s.after, keyAllowed := s.crossedLine } (.scalar s.value plain)

/-- A scalar in quotes. -/
def quoted (l : Lexer) (double : Bool) : Except Fault Lexer := do
  let l ← l.addCandidate
  let s ← Scalar.quoted double l.cursor
  return l.pushScalar s false

/-- A plain scalar. -/
def plain (l : Lexer) : Except Fault Lexer :=
  l.addCandidate.map fun l => l.pushScalar (Scalar.plain (l.flow != 0) (l.indent + 1) l.cursor) true

/-- A block. -/
def block (l : Lexer) (folds : Bool) : Except Fault Lexer := do
  let l ← l.dropCandidate
  let s ← Scalar.block folds l.indent l.cursor
  return { l.pushScalar s false with keyAllowed := true }

/-! ### Tags and directives -/

/-- A character that may stand for itself in the name of a type. -/
def isUriChar (c : Char) : Bool :=
  c.isAlphanum || "-;/?:@&=+$,_.!~*'()[]".toList.contains c

/-- The bytes of escapes written with percent signs. -/
def uriEscapes : Nat → Cursor → Except Fault (List UInt8 × Cursor)
  | 0, c => .ok ([], c)
  | fuel + 1, c =>
    match c.rest with
    | '%' :: a :: b :: _ =>
      match Text.hexDigit? a, Text.hexDigit? b with
      | some x, some y => (uriEscapes fuel (c.skip 3)).map fun p => (UInt8.ofNat (16 * x + y) :: p.1, p.2)
      | _, _ => .error .malformed
    | '%' :: _ => .error .malformed
    | _ => .ok ([], c)

/-- The name of a type, or part of it; it must not be empty. -/
def uri : Nat → Cursor → Except Fault (List Char × Cursor)
  | 0, c => .ok ([], c)
  | fuel + 1, c =>
    match c.rest with
    | '%' :: _ => do
      let (bytes, c) ← uriEscapes (c.rest.length + 1) c
      match Text.decodeUtf8? bytes with
      | none => .error .malformed
      | some cs => (uri fuel c).map fun p => (cs ++ p.1, p.2)
    | ch :: _ =>
      if isUriChar ch then (uri fuel c.next).map fun p => (ch :: p.1, p.2) else .ok ([], c)
    | [] => .ok ([], c)

/-- The name of a type, or part of it. -/
def uriAt (c : Cursor) : Except Fault (List Char × Cursor) := do
  let p ← uri (c.rest.length + 1) c
  if p.1 = [] then .error .malformed else return p

/-- A handle: an exclamation mark, or a name between two of them. -/
def handleAt (c : Cursor) : Except Fault (List Char × Cursor) :=
  match c.rest with
  | '!' :: ' ' :: _ => .ok (['!'], c.next)
  | '!' :: _ =>
    let (name, after) := c.next.takeWhile isNameChar
    match after.rest with
    | '!' :: _ => .ok ('!' :: name ++ ['!'], after.next)
    | _ => .error .malformed
  | _ => .error .malformed

/-- Whether a second exclamation mark comes before the end of the word. -/
def hasHandle : List Char → Bool
  | [] => false
  | c :: cs => if isSpaceOrBreak c then false else c == '!' || hasHandle cs

/-- The name of a type at a position. -/
def tagAt (c : Cursor) : Except Fault (TagName × Cursor) :=
  match c.rest with
  | '!' :: '<' :: _ => do
    let (suffix, after) ← uriAt (c.skip 2)
    if after.peek? = some '>' then return (⟨none, suffix⟩, after.next) else .error .malformed
  | _ :: rest =>
    if endsOr isWhite rest then .ok (⟨none, ['!']⟩, c.next)
    else if hasHandle rest then do
      let (handle, after) ← handleAt c
      let (suffix, after) ← uriAt after
      return (⟨some handle, suffix⟩, after)
    else do
      let (suffix, after) ← uriAt c.next
      return (⟨some ['!'], suffix⟩, after)
  | [] => .error .malformed

/-- The name of a type. -/
def tag (l : Lexer) : Except Fault Lexer := do
  let l ← l.addCandidate
  let (name, c) ← tagAt l.cursor
  if endsOr isSpaceOrBreak c.rest then return push { l with keyAllowed := false, cursor := c } (.tag name)
  else .error .malformed

/-- The position at the end of a directive's line, which may hold a comment. -/
def directiveEnd (c : Cursor) : Except Fault Cursor :=
  let c := (c.dropWhile (· == ' ')).dropComment
  if endsOr isBreak c.rest then .ok c.lineBreak.2 else .error .malformed

/-- The version in a directive. -/
def versionAt (c : Cursor) : Except Fault (Directive × Cursor) :=
  let (major, c) := (c.dropWhile (· == ' ')).takeWhile Char.isDigit
  match c.rest with
  | '.' :: _ =>
    let (minor, c) := c.next.takeWhile Char.isDigit
    if major = [] || minor = [] || !endsOr isSpaceOrBreak c.rest then .error .malformed
    else .ok (.version (Text.ofDigits (major.filterMap Text.asciiDigit?)), c)
  | _ => .error .malformed

/-- The handle and its meaning in a directive. -/
def handleMeaningAt (c : Cursor) : Except Fault (Directive × Cursor) := do
  let (handle, c) ← handleAt (c.dropWhile (· == ' '))
  if !startsWith (· == ' ') c.rest then .error .malformed
  else
    let (meaning, c) ← uriAt (c.dropWhile (· == ' '))
    if endsOr isSpaceOrBreak c.rest then return (.handle handle meaning, c) else .error .malformed

/-- A directive at a position. -/
def directiveAt (c : Cursor) : Except Fault (Directive × Cursor) :=
  let (name, c) := c.takeWhile isNameChar
  if name = [] || !endsOr isSpaceOrBreak c.rest then .error .malformed
  else if name = "YAML".toList then versionAt c
  else if name = "TAG".toList then handleMeaningAt c
  else .ok (.unknown, c.dropWhile fun ch => !isBreak ch)

/-- A directive. -/
def directive (l : Lexer) : Except Fault Lexer := do
  let l ← (l.unwind (-1)).dropCandidate
  let (d, c) ← directiveAt l.cursor.next
  let c ← directiveEnd c
  return push { l with keyAllowed := false, cursor := c } (.directive d)

/-! ### The next token -/

/-- A character with a meaning at the start of a token. -/
def isIndicator (c : Char) : Bool :=
  c == '{' || c == '}' || c == '\'' || c == '"' || c.toNat == 0x60 || "-?:,[]#&*!|>%@".toList.contains c

/-- Whether a plain scalar can start with a character followed by `rest`. -/
def startsPlain (flow : Bool) (c : Char) (rest : List Char) : Bool :=
  !(isWhite c || isIndicator c) ||
    !endsOr isWhite rest && (c == '-' || !flow && (c == '?' || c == ':'))

/-- Reads what stands at the position of a token. -/
def dispatch (l : Lexer) : Except Fault Lexer :=
  let inFlow := l.flow != 0
  let atStart := l.cursor.column == 0
  match l.cursor.rest with
  | [] => l.finish
  | c :: rest =>
    if c == '%' && atStart then l.directive
    else if c == '-' && atStart && l.cursor.atDocumentMark then l.documentMark .documentStart
    else if c == '.' && atStart && l.cursor.atDocumentMark then l.documentMark .documentEnd
    else if c == '[' then l.openFlow .flowSequenceStart
    else if c == '{' then l.openFlow .flowMappingStart
    else if c == ']' then l.closeFlow .flowSequenceEnd
    else if c == '}' then l.closeFlow .flowMappingEnd
    else if c == ',' then l.flowEntry
    else if c == '-' && endsOr isWhite rest then l.blockEntry
    else if c == '?' && (inFlow || endsOr isWhite rest) then l.explicitKey
    else if c == ':' && (inFlow || endsOr isWhite rest) then l.value
    else if c == '*' then l.named .alias
    else if c == '&' then l.named .anchor
    else if c == '!' then l.tag
    else if c == '|' && !inFlow then l.block false
    else if c == '>' && !inFlow then l.block true
    else if c == '\'' then l.quoted false
    else if c == '"' then l.quoted true
    else if startsPlain inFlow c rest then l.plain
    else .error .malformed

/-- Reads the next token. -/
def step (l : Lexer) : Except Fault Lexer := do
  let l ← l.toNextToken.dropStale
  (l.unwind l.cursor.column).dispatch

/-- Reads tokens until the text ends. -/
def run : Nat → Lexer → Except Fault Lexer
  | 0, _ => .error .malformed
  | fuel + 1, l => if l.finished then .ok l else (step l).bind (run fuel)

end Lexer

/-- The tokens of a text. -/
def Token.scan (cs : List Char) : Except Scalar.Fault (List Token) :=
  (Lexer.run (cs.length + 2) (.start cs)).map fun l => l.tokens.reverse

end EditHistory.Yaml
