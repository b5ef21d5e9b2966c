import EditHistory.Text.Digit
import EditHistory.Text.Lines

/-!
# Literals

A tag can hand values to what a click on its text starts.  The values are written in full: numbers, also with a sign
and as a sum of a real and an imaginary one, texts and bytes in quotes, `True`, `False`, `None` and three dots, tuples,
sets and tables of these, and `set()`.  Members of a set and keys of a table must be values that cannot change.

Here it only counts whether a text is a literal.

## Main definitions

* `Literal.tokens?` — the words of a text
* `Literal.isLiteral` — whether a text is a literal
-/

namespace EditHistory.Terminal.Literal

open EditHistory.Text

/-- A word of a literal. -/
inductive Token where
  | number (imaginary : Bool)
  | text (bytes : Bool)
  | name (cs : List Char)
  | dots
  | mark (c : Char)
  | lineEnd
  deriving DecidableEq, Repr

/-! ### Numbers -/

/-- What follows some digits, between which single underscores may stand. -/
def dropDigits (isDigit : Char → Bool) : List Char → List Char
  | '_' :: c :: cs => if isDigit c then dropDigits isDigit cs else '_' :: c :: cs
  | c :: cs => if isDigit c then dropDigits isDigit cs else c :: cs
  | [] => []

/-- Whether a character is a digit from zero to nine. -/
def isDecimal (c : Char) : Bool := (asciiDigit? c).isSome

/-- The test for the digits of a base, by the letter that stands for the base after a zero. -/
def baseDigits? (c : Char) : Option (Char → Bool) :=
  match c.toLower with
  | 'x' => some fun c => (hexDigit? c).isSome
  | 'o' => some fun c => '0' ≤ c && c ≤ '7'
  | 'b' => some fun c => c == '0' || c == '1'
  | _ => none

/-- Whether a character may be part of a name. -/
def isNameChar (c : Char) : Bool :=
  c.isAlphanum || c == '_' || 0x80 ≤ c.toNat

/-- What follows the exponent at the front of a text, or the text. -/
def dropExponent : List Char → List Char
  | e :: sign :: c :: cs =>
    if e.toLower = 'e' ∧ (sign = '+' ∨ sign = '-') ∧ isDecimal c then dropDigits isDecimal cs
    else if e.toLower = 'e' ∧ isDecimal sign then dropDigits isDecimal (c :: cs)
    else e :: sign :: c :: cs
  | [e, c] => if e.toLower = 'e' ∧ isDecimal c then [] else [e, c]
  | cs => cs

/-- What follows the fraction at the front of a text, or the text. -/
def dropFraction : List Char → List Char
  | '.' :: c :: cs => if isDecimal c then dropDigits isDecimal cs else c :: cs
  | ['.'] => []
  | cs => cs

/-- Whether some digits start with a zero and are not all zeros. -/
def hasVainZero (digits : List Char) : Bool :=
  digits.head? = some '0' && digits.any fun c => c != '0' && c != '_'

/-- The number at the front of a text, after which no name may follow. -/
def number? (cs : List Char) : Option (Token × List Char) :=
  let ended (imaginary : Bool) (rest : List Char) :=
    if rest.head?.any isNameChar then none else some (.number imaginary, rest)
  match cs with
  | '0' :: base :: digits =>
    match baseDigits? base with
    | some isDigit =>
      let rest := dropDigits isDigit digits
      if rest.length = digits.length then none else ended false rest
    | none => decimal cs ended
  | cs => decimal cs ended
where
  /-- The decimal number at the front of a text; a whole one other than zero starts with no zero. -/
  decimal (cs : List Char) (ended : Bool → List Char → Option (Token × List Char)) : Option (Token × List Char) :=
    let afterWhole := dropDigits isDecimal cs
    let whole := cs.take (cs.length - afterWhole.length)
    let rest := dropExponent (dropFraction afterWhole)
    match rest with
    | c :: after =>
      if c.toLower = 'j' then ended true after
      else if rest.length = afterWhole.length && hasVainZero whole then none
      else ended false rest
    | [] => if afterWhole = [] && hasVainZero whole then none else ended false []

/-! ### Texts -/

/-- The letters up to the closing quote, and what follows it. -/
def upToQuote? (quote : Char) : List Char → Option (List Char × List Char)
  | [] => none
  | '\\' :: c :: cs => (upToQuote? quote cs).map fun (letters, rest) => ('\\' :: c :: letters, rest)
  | c :: cs =>
    if c = quote then some ([], cs)
    else if c = '\n' then none
    else (upToQuote? quote cs).map fun (letters, rest) => (c :: letters, rest)

/-- The letters up to three closing quotes, and what follows them. -/
def upToQuotes? (quote : Char) : List Char → Option (List Char × List Char)
  | [] => none
  | '\\' :: c :: cs => (upToQuotes? quote cs).map fun (letters, rest) => ('\\' :: c :: letters, rest)
  | c :: cs =>
    if c = quote ∧ cs.take 2 = [quote, quote] then some ([], cs.drop 2)
    else (upToQuotes? quote cs).map fun (letters, rest) => (c :: letters, rest)

/-- Whether a text starts with a number of hexadecimal digits. -/
def startsHex (count : Nat) (cs : List Char) : Bool :=
  (cs.take count).length = count && (cs.take count).all fun c => (hexDigit? c).isSome

/-- Whether what follows a backslash and its letter belongs to them. -/
def isEscape (bytes : Bool) (letter : Char) (rest : List Char) : Bool :=
  if letter = 'x' then startsHex 2 rest
  else if bytes then true
  else if letter = 'u' then startsHex 4 rest
  else if letter = 'U' then
    startsHex 8 rest && ['0', '0'].isPrefixOf rest &&
      ((rest.drop 2).head? = some '0' || ['1', '0'].isPrefixOf (rest.drop 2))
  else if letter = 'N' then
    match rest with
    | '\x7b' :: name => name.contains '\x7d' && name.head? != some '\x7d'
    | _ => false
  else true

/-- Whether every backslash in a text is followed by what belongs to its letter. -/
def escapesFit (bytes : Bool) : List Char → Bool
  | '\\' :: letter :: rest => isEscape bytes letter rest && escapesFit bytes rest
  | _ :: rest => escapesFit bytes rest
  | [] => true

/-- What the letters before a quote say: whether backslashes are letters, and whether bytes are written. -/
def quoteLetters? (letters : List Char) : Option (Bool × Bool) :=
  match letters.map Char.toLower with
  | [] | ['u'] => some (false, false)
  | ['r'] => some (true, false)
  | ['b'] => some (false, true)
  | ['b', 'r'] | ['r', 'b'] => some (true, true)
  | _ => none

/-- The text that starts at a quote after some letters. -/
def text? (letters : List Char) (quote : Char) (cs : List Char) : Option (Token × List Char) := do
  let (raw, bytes) ← quoteLetters? letters
  let (body, rest) ← if cs.take 2 = [quote, quote] then upToQuotes? quote (cs.drop 2) else upToQuote? quote cs
  if bytes && body.any (fun c => 0x80 ≤ c.toNat) then none
  else if raw || escapesFit bytes body then some (.text bytes, rest)
  else none

/-! ### Words -/

/-- The words of a text, in which some brackets are open; a line end counts where none is.  The fuel bounds the length
of the text. -/
def tokensWithin? : Nat → Nat → List Char → Option (List Token)
  | _, _, [] => some []
  | 0, _, _ => none
  | fuel + 1, depth, c :: cs =>
    if c = ' ' ∨ c = '\t' ∨ c = '\x0c' then tokensWithin? fuel depth cs
    else if c = '\n' then
      (tokensWithin? fuel depth cs).map fun rest => if depth = 0 then .lineEnd :: rest else rest
    else if c = '#' then tokensWithin? fuel depth (cs.dropWhile (· != '\n'))
    else if c = '\\' then
      match cs with
      | '\n' :: cs => tokensWithin? fuel depth cs
      | _ => none
    else if c = '(' ∨ c = '\x7b' then (tokensWithin? fuel (depth + 1) cs).map (.mark c :: ·)
    else if c = ')' ∨ c = '\x7d' then (tokensWithin? fuel (depth - 1) cs).map (.mark c :: ·)
    else if c = ',' ∨ c = ':' ∨ c = '+' ∨ c = '-' then (tokensWithin? fuel depth cs).map (.mark c :: ·)
    else if c = '\'' ∨ c = '"' then
      match text? [] c cs with
      | some (token, rest) => (tokensWithin? fuel depth rest).map (token :: ·)
      | none => none
    else if isDecimal c ∨ (c = '.' ∧ cs.head?.any isDecimal) then
      match number? (c :: cs) with
      | some (token, rest) => (tokensWithin? fuel depth rest).map (token :: ·)
      | none => none
    else if c = '.' then
      match cs with
      | '.' :: '.' :: cs => (tokensWithin? fuel depth cs).map (.dots :: ·)
      | _ => none
    else if isNameChar c then
      let name := (c :: cs).takeWhile isNameChar
      match (c :: cs).dropWhile isNameChar with
      | quote :: rest =>
        if quote = '\'' ∨ quote = '"' then
          match text? name quote rest with
          | some (token, rest) => (tokensWithin? fuel depth rest).map (token :: ·)
          | none => none
        else (tokensWithin? fuel depth (quote :: rest)).map (.name name :: ·)
      | [] => some [.name name]
    else none

/-- The words of a text. -/
def tokens? (cs : List Char) : Option (List Token) :=
  tokensWithin? cs.length 0 (unifyLineEnds cs)

/-! ### Values -/

/-- What a value is, as far as it matters for where it may stand. -/
inductive Kind where
  | number (signed imaginary : Bool)
  /-- A value that cannot change. -/
  | fixed
  /-- A set or a table, or a tuple that holds one. -/
  | changing
  deriving DecidableEq, Repr

/-- Whether a value may be a key. -/
def Kind.isKey (kind : Kind) : Bool := kind != .changing

/-- What one or more values make up; a comma makes them a tuple. -/
def Kind.ofItems (comma : Bool) (kinds : List Kind) : Kind :=
  match comma, kinds with
  | false, [kind] => kind
  | _, kinds => if kinds.all Kind.isKey then .fixed else .changing

/-- What follows the texts at the front, all of bytes or none. -/
def dropTexts? (bytes : Bool) : List Token → Option (List Token)
  | .text other :: rest => if other = bytes then dropTexts? bytes rest else none
  | rest => some rest

/-- Whether no value starts at the front. -/
def isAtEnd : List Token → Bool
  | [] | .lineEnd :: _ | .mark ')' :: _ | .mark '\x7d' :: _ => true
  | _ => false

/-- The names of values. -/
def constants : List String := ["True", "False", "None"]

mutual

/-- The value at the front that is no sum and has no sign; the fuel bounds the number of words. -/
def atom? : Nat → List Token → Option (Kind × List Token)
  | 0, _ => none
  | _, .number imaginary :: rest => some (.number false imaginary, rest)
  | _, .text bytes :: rest => (dropTexts? bytes rest).map fun rest => (.fixed, rest)
  | _, .dots :: rest => some (.fixed, rest)
  | _, .name name :: rest =>
    if constants.contains (String.ofList name) then some (.fixed, rest)
    else match rest with
      | .mark '(' :: .mark ')' :: rest => if name = "set".toList then some (.changing, rest) else none
      | _ => none
  | _, .mark '(' :: .mark ')' :: rest => some (.fixed, rest)
  | fuel + 1, .mark '(' :: rest =>
    match items? fuel rest with
    | some (kind, .mark ')' :: rest) => some (kind, rest)
    | _ => none
  | _, .mark '\x7b' :: .mark '\x7d' :: rest => some (.changing, rest)
  | fuel + 1, .mark '\x7b' :: rest =>
    match sum? fuel rest with
    | some (key, .mark ':' :: rest) =>
      if key.isKey then (afterKey? fuel rest).map fun rest => (.changing, rest) else none
    | some (kind, .mark '\x7d' :: rest) => if kind.isKey then some (.changing, rest) else none
    | some (kind, .mark ',' :: .mark '\x7d' :: rest) => if kind.isKey then some (.changing, rest) else none
    | some (kind, .mark ',' :: rest) =>
      match items? fuel rest with
      | some (others, .mark '\x7d' :: rest) => if kind.isKey && others.isKey then some (.changing, rest) else none
      | _ => none
    | _ => none
  | _, _ => none

/-- The value at the front: one with or without a sign, or the sum of a real number and an imaginary one. -/
def sum? : Nat → List Token → Option (Kind × List Token)
  | 0, _ => none
  | fuel + 1, tokens =>
    match signed? fuel tokens with
    | some (.number signed false, .mark c :: rest) =>
      if c = '+' ∨ c = '-' then
        match atom? fuel rest with
        | some (.number false true, rest) => some (.fixed, rest)
        | _ => none
      else some (.number signed false, .mark c :: rest)
    | found => found

/-- The value at the front that is no sum; only a number has a sign, and only one. -/
def signed? : Nat → List Token → Option (Kind × List Token)
  | 0, _ => none
  | fuel + 1, .mark '+' :: rest | fuel + 1, .mark '-' :: rest =>
    match atom? fuel rest with
    | some (.number false imaginary, rest) => some (.number true imaginary, rest)
    | _ => none
  | fuel + 1, tokens => atom? fuel tokens

/-- The value at the front, which is a tuple if it has commas. -/
def items? : Nat → List Token → Option (Kind × List Token)
  | 0, _ => none
  | fuel + 1, tokens =>
    match sum? fuel tokens with
    | some (kind, .mark ',' :: rest) =>
      if isAtEnd rest then some (.ofItems true [kind], rest)
      else (items? fuel rest).map fun (others, rest) => (.ofItems true [kind, others], rest)
    | found => found

/-- What follows a table of which a key and its colon have been read. -/
def afterKey? : Nat → List Token → Option (List Token)
  | 0, _ => none
  | fuel + 1, tokens =>
    match sum? fuel tokens with
    | some (_, .mark '\x7d' :: rest) => some rest
    | some (_, .mark ',' :: .mark '\x7d' :: rest) => some rest
    | some (_, .mark ',' :: rest) =>
      match sum? fuel rest with
      | some (key, .mark ':' :: rest) => if key.isKey then afterKey? fuel rest else none
      | _ => none
    | _ => none

end

/-- Whether words make up a value on one line. -/
def isValue (tokens : List Token) : Bool :=
  let tokens := tokens.dropWhile (· == .lineEnd)
  match items? (4 * tokens.length + 4) tokens with
  | some (_, rest) => rest.all (· == .lineEnd)
  | none => false

/-- Whether a text is a literal. -/
def isLiteral (cs : List Char) : Bool :=
  match tokens? cs with
  | some tokens => isValue tokens
  | none => false

end EditHistory.Terminal.Literal
