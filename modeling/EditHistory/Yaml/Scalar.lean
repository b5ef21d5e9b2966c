import EditHistory.Text.Digit
import EditHistory.Yaml.Cursor

/-!
# Scalars

The three ways to write a text: plain, in quotes, and as a block of lines.  Inside a plain or quoted scalar a line end
counts as a space, and a run of several as one line end less.  A block keeps its line ends or folds them.

## Main definitions

* `Scalar.plain`, `Scalar.quoted`, `Scalar.block` — the scalar that starts at a position
-/

namespace EditHistory.Yaml

open EditHistory.Text

/-- A scalar that was read: its value and the position after it. -/
structure ScalarText where
  value : List Char
  after : Cursor
  /-- Whether its end lies on a later line than its last character. -/
  crossedLine : Bool

namespace Scalar

/-! ### Plain scalars -/

/-- Whether a character has a meaning inside brackets. -/
def isFlowMark (c : Char) : Bool :=
  c == ',' || c == '?' || c == '[' || c == ']' || c == '{' || c == '}'

/-- Whether a colon ends a key when followed by `rest`. -/
def endsKey (flow : Bool) (rest : List Char) : Bool :=
  endsOr (fun c => isWhite c || flow && c != '?' && isFlowMark c) rest

/-- The characters of a plain scalar up to white space or a mark. -/
def plainWord (flow : Bool) : List Char → List Char
  | [] => []
  | c :: cs =>
    if isWhite c || c == ':' && endsKey flow cs || flow && isFlowMark c then []
    else c :: plainWord flow cs

/-- Blank lines: their line ends, up to a mark between documents, which is reported. -/
def blankLines : Nat → Cursor → List Char × Bool × Cursor
  | 0, c => ([], false, c)
  | fuel + 1, c =>
    if startsWith (· == ' ') c.rest then blankLines fuel c.next
    else match c.lineBreak with
      | ([], c) => ([], false, c)
      | (b, c) =>
        if c.atDocumentMark then ([], true, c)
        else
          let (bs, stopped, c) := blankLines fuel c
          (b ++ bs, stopped, c)

/-- A line end followed by others: the first is folded. -/
def folded (first others : List Char) : List Char :=
  if first ≠ ['\n'] then first ++ others
  else if others = [] then [' ']
  else others

/-- The white space after a word of a plain scalar, as it counts between words; nothing if the scalar ends. -/
def plainGap (c : Cursor) : ScalarText :=
  let (spaces, c) := c.takeWhile (· == ' ')
  match c.lineBreak with
  | ([], c) => ⟨spaces, c, false⟩
  | (first, c) =>
    if c.atDocumentMark then ⟨[], c, true⟩
    else match blankLines (c.rest.length + 1) c with
      | (_, true, c) => ⟨[], c, true⟩
      | (others, false, c) => ⟨folded first others, c, true⟩

/-- The words of a plain scalar; `value` is what has been read, `gap` the white space before the next word. -/
def plainWords (flow : Bool) (indent : Int) : Nat → List Char → ScalarText → ScalarText
  | 0, value, gap => ⟨value, gap.after, gap.crossedLine⟩
  | fuel + 1, value, gap =>
    match gap.after.rest with
    | '#' :: _ => ⟨value, gap.after, gap.crossedLine⟩
    | rest =>
      match plainWord flow rest with
      | [] => ⟨value, gap.after, gap.crossedLine⟩
      | word =>
        let value := value ++ gap.value ++ word
        let gap := plainGap (gap.after.skip word.length)
        if gap.value = [] ∨ gap.after.peek? = some '#' ∨ (!flow && (gap.after.column : Int) < indent) then
          ⟨value, gap.after, gap.crossedLine⟩
        else plainWords flow indent fuel value gap

/-- The plain scalar that starts at a position; its further lines stand at `indent` or beyond it. -/
def plain (flow : Bool) (indent : Int) (c : Cursor) : ScalarText :=
  plainWords flow indent (c.rest.length + 1) [] ⟨[], c, false⟩

/-! ### Quoted scalars -/

/-- Why a scalar cannot be read. -/
inductive Fault where
  | malformed
  /-- An escape for a number beyond the last character. -/
  | notACharacter
  /-- An escape for a number that does not fit into a word. -/
  | notAWord
  deriving DecidableEq, Repr

/-- The wording of a fault. -/
def Fault.message : Fault → String
  | .malformed => "the scalar is malformed"
  | .notACharacter => "chr() arg not in range(0x110000)"
  | .notAWord => "signed integer is greater than maximum"

/-- The character for which a single letter stands after a backslash. -/
def shortEscape? : Char → Option Char
  | '0' => some '\x00'
  | 'a' => some '\x07'
  | 'b' => some '\x08'
  | 't' => some '\t'
  | '\t' => some '\t'
  | 'n' => some '\n'
  | 'v' => some '\x0b'
  | 'f' => some '\x0c'
  | 'r' => some '\r'
  | 'e' => some '\x1b'
  | ' ' => some ' '
  | '"' => some '"'
  | '\\' => some '\\'
  | '/' => some '/'
  | 'N' => some '\x85'
  | '_' => some '\xa0'
  | 'L' => some '\u2028'
  | 'P' => some '\u2029'
  | _ => none

/-- The number of hexadecimal digits that an escape letter takes. -/
def escapeWidth? : Char → Option Nat
  | 'x' => some 2
  | 'u' => some 4
  | 'U' => some 8
  | _ => none

/-- The number that hexadecimal digits write. -/
def hexNumber? (cs : List Char) : Option Nat :=
  cs.foldl (fun n c => do return 16 * (← n) + (← hexDigit? c)) (some 0)

/-- The character of an escape with hexadecimal digits. -/
def wideEscape (width : Nat) (rest : List Char) : Except Fault Char :=
  if rest.length < width then .error .malformed
  else match hexNumber? (rest.take width) with
    | none => .error .malformed
    | some n =>
      if n.isValidChar then .ok (Char.ofNat n)
      else if n < 0x110000 then .ok '\uFFFD'
      else .error (if n < 0x80000000 then .notACharacter else .notAWord)

/-- Line ends after the first one inside quotes, and the position after them. -/
def quotedBreaks : Nat → Cursor → Except Fault (List Char × Cursor)
  | 0, c => .ok ([], c)
  | fuel + 1, c =>
    if c.atDocumentMark then .error .malformed
    else
      let c := c.dropWhile fun ch => ch == ' ' || ch == '\t'
      match c.lineBreak with
      | ([], c) => .ok ([], c)
      | (b, c) => (quotedBreaks fuel c).map fun p => (b ++ p.1, p.2)

/-- White space inside quotes. -/
def quotedGap (c : Cursor) : Except Fault (List Char × Cursor) :=
  let (spaces, c) := c.takeWhile fun ch => ch == ' ' || ch == '\t'
  match c.rest with
  | [] => .error .malformed
  | _ =>
    match c.lineBreak with
    | ([], c) => .ok (spaces, c)
    | (first, c) => (quotedBreaks (c.rest.length + 1) c).map fun p => (folded first p.1, p.2)

/-- The rest of a scalar in double quotes, and the position after the closing quote. -/
def doubleQuoted : Nat → Cursor → Except Fault (List Char × Cursor)
  | 0, _ => .error .malformed
  | fuel + 1, c =>
    match c.rest with
    | [] => .error .malformed
    | '"' :: _ => .ok ([], c.next)
    | '\\' :: [] => .error .malformed
    | '\\' :: e :: rest =>
      match shortEscape? e with
      | some ch => (doubleQuoted fuel (c.skip 2)).map fun p => (ch :: p.1, p.2)
      | none =>
        match escapeWidth? e with
        | some width => do
          let ch ← wideEscape width rest
          let p ← doubleQuoted fuel (c.skip (2 + width))
          return (ch :: p.1, p.2)
        | none =>
          if isBreak e then do
            let after := c.next.lineBreak.2
            let p ← quotedBreaks (after.rest.length + 1) after
            let q ← doubleQuoted fuel p.2
            return (p.1 ++ q.1, q.2)
          else .error .malformed
    | ch :: _ =>
      if isWhite ch then do
        let p ← quotedGap c
        let q ← doubleQuoted fuel p.2
        return (p.1 ++ q.1, q.2)
      else (doubleQuoted fuel c.next).map fun p => (ch :: p.1, p.2)

/-- The rest of a scalar in single quotes, and the position after the closing quote; a quote written twice stands
for one. -/
def singleQuoted : Nat → Cursor → Except Fault (List Char × Cursor)
  | 0, _ => .error .malformed
  | fuel + 1, c =>
    match c.rest with
    | [] => .error .malformed
    | '\'' :: '\'' :: _ => (singleQuoted fuel (c.skip 2)).map fun p => ('\'' :: p.1, p.2)
    | '\'' :: _ => .ok ([], c.next)
    | ch :: _ =>
      if isWhite ch then do
        let p ← quotedGap c
        let q ← singleQuoted fuel p.2
        return (p.1 ++ q.1, q.2)
      else (singleQuoted fuel c.next).map fun p => (ch :: p.1, p.2)

/-- The scalar in quotes that starts at a position. -/
def quoted (double : Bool) (c : Cursor) : Except Fault ScalarText :=
  let read := if double then doubleQuoted else singleQuoted
  (read (c.rest.length + 1) c.next).map fun p => ⟨p.1, p.2, false⟩

/-! ### Blocks -/

/-- What happens to the line ends at the end of a block. -/
inductive Chomping where
  | strip
  | clip
  | keep
  deriving DecidableEq, Repr

/-- The chomping that a sign asks for. -/
def chomping? : Char → Option Chomping
  | '+' => some .keep
  | '-' => some .strip
  | _ => none

/-- The indentation that a digit asks for. -/
def increment? (c : Char) : Option Nat :=
  (asciiDigit? c).bind fun d => if d = 0 then none else some d

/-- The signs at the head of a block: its chomping and its indentation, in either order. -/
def blockSigns (c : Cursor) : Chomping × Option Nat × Cursor :=
  match c.rest with
  | a :: b :: _ =>
    match chomping? a, increment? a, chomping? b, increment? b with
    | some k, _, _, some n => (k, some n, c.skip 2)
    | some k, _, _, none => (k, none, c.next)
    | none, some n, some k, _ => (k, some n, c.skip 2)
    | none, some n, none, _ => (.clip, some n, c.next)
    | none, none, _, _ => (.clip, none, c)
  | [a] =>
    match chomping? a, increment? a with
    | some k, _ => (k, none, c.next)
    | none, some n => (.clip, some n, c.next)
    | none, none => (.clip, none, c)
  | [] => (.clip, none, c)

/-- The position after the line that holds the head of a block. -/
def blockHead (c : Cursor) : Except Fault Cursor :=
  if endsOr isSpaceOrBreak c.rest then
    let c := (c.dropWhile (· == ' ')).dropComment
    if endsOr isBreak c.rest then .ok c.lineBreak.2 else .error .malformed
  else .error .malformed

/-- Blank lines at the start of a block: their line ends, and the greatest column among them. -/
def leadingLines : Nat → Nat → Cursor → List Char × Nat × Cursor
  | 0, widest, c => ([], widest, c)
  | fuel + 1, widest, c =>
    if startsWith (· == ' ') c.rest then leadingLines fuel (max widest c.next.column) c.next
    else match c.lineBreak with
      | ([], c) => ([], widest, c)
      | (b, c) =>
        let (bs, widest, c) := leadingLines fuel widest c
        (b ++ bs, widest, c)

/-- The position after the spaces up to a column. -/
def dropIndent (indent : Nat) : Nat → Cursor → Cursor
  | 0, c => c
  | fuel + 1, c =>
    if c.column < indent && startsWith (· == ' ') c.rest then dropIndent indent fuel c.next else c

/-- Blank lines inside a block: their line ends, and the position at the indentation of the line after them. -/
def blockBreaks (indent : Nat) : Nat → Cursor → List Char × Cursor
  | 0, c => ([], c)
  | fuel + 1, c =>
    let c := dropIndent indent (c.rest.length + 1) c
    match c.lineBreak with
    | ([], c) => ([], c)
    | (b, c) =>
      let (bs, c) := blockBreaks indent fuel c
      (b ++ bs, c)

/-- The end of a line inside a block, given the line ends after it, the line before it and the one that follows. -/
def blockJoint (folds : Bool) (lineEnd others line : List Char) (following : List Char) : List Char :=
  if folds && lineEnd == ['\n'] && !startsWith (fun c => c == ' ' || c == '\t') line &&
      !startsWith (fun c => c == ' ' || c == '\t') following then
    if others = [] then [' '] else []
  else lineEnd

/-- The lines of a block; `blank` are the line ends before the first of them. -/
def blockLines (folds : Bool) (chomping : Chomping) (indent : Nat) :
    Nat → List Char → List Char → Cursor → List Char × Cursor
  | 0, _, _, c => ([], c)
  | fuel + 1, lineEnd, blank, c =>
    if c.column = indent && !c.rest.isEmpty then
      let (line, c) := c.takeWhile fun ch => !isBreak ch
      let (lineEnd, c) := c.lineBreak
      let (others, c) := blockBreaks indent (c.rest.length + 1) c
      if c.column = indent && !c.rest.isEmpty then
        let (tail, c') := blockLines folds chomping indent fuel lineEnd others c
        (blank ++ line ++ blockJoint folds lineEnd others line c.rest ++ tail, c')
      else (blank ++ line ++ chomped lineEnd others, c)
    else (chomped lineEnd blank, c)
where
  /-- What is left of the line ends at the end of the block. -/
  chomped (lineEnd others : List Char) : List Char :=
    match chomping with
    | .strip => []
    | .clip => lineEnd
    | .keep => lineEnd ++ others

/-- The block that starts at a position, inside a structure at an indentation. -/
def block (folds : Bool) (indent : Int) (c : Cursor) : Except Fault ScalarText :=
  let (chomping, increment, c) := blockSigns c.next
  (blockHead c).map fun c =>
    let least := (max (indent + 1) 1).toNat
    let (blank, column, c) :=
      match increment with
      | some n =>
        let (blank, c) := blockBreaks (least + n - 1) (c.rest.length + 1) c
        (blank, least + n - 1, c)
      | none =>
        let (blank, widest, c) := leadingLines (c.rest.length + 1) 0 c
        (blank, max least widest, c)
    let (value, c) := blockLines folds chomping column (c.rest.length + 1) [] blank c
    ⟨value, c, false⟩

end Scalar

end EditHistory.Yaml
