import EditHistory.Files.Path
import EditHistory.Number.Reading

/-!
# Arguments

The words after the name of the program: options, their values, and one source.  An option has a long name, which may
be cut short as long as it stays the only one that starts so, and some have a letter.  The value of an option is the
next word, or follows a long name after an equals sign, or a letter directly; letters without values may be joined.
After two dashes every word is plain.

A word that looks like a negative number, or starts like an option that there is not but has a space in it, is plain.

## Main definitions

* `Opt` — the options
* `Arguments` — what the words say
* `Word.ofText?` — what a single word is
* `Arguments.read` — the words read from left to right
-/

namespace EditHistory.CommandLine

open EditHistory.Text

/-- The options. -/
inductive Opt where
  | help
  | fetch
  | revision
  | printLast
  | speed
  | play
  | token
  | login
  | chunkSize
  | preferences
  | verbose
  | version
  deriving DecidableEq, Repr

/-- Whether an option has a value. -/
def Opt.takesValue : Opt → Bool
  | .revision | .speed | .token | .chunkSize | .preferences => true
  | _ => false

/-- The names of the options. -/
def Opt.spellings : List (List Char × Opt) :=
  [("-h", Opt.help), ("--help", .help), ("--fetch", .fetch), ("--revision", .revision), ("-r", .revision),
    ("--print", .printLast), ("--speed", .speed), ("--play", .play), ("--token", .token), ("--login", .login),
    ("--chunk-size", .chunkSize), ("--prefs", .preferences), ("--verbose", .verbose), ("-v", .verbose),
    ("--version", .version)].map fun p => (p.1.toList, p.2)

/-- The option of a name. -/
def Opt.ofSpelling? (name : List Char) : Option Opt := Opt.spellings.lookup name

/-! ### Single words -/

/-- What a word is. -/
inductive Word where
  | plain (text : List Char)
  /-- The two dashes after which every word is plain. -/
  | dashes
  /-- An option, whether it is written as a letter, and what follows it in the same word. -/
  | option (opt : Opt) (letter : Bool) (joined : Option (List Char))
  /-- The name of an option that there is not. -/
  | unknown
  deriving DecidableEq, Repr

/-- Whether a text is a run of digits. -/
def isDigits (cs : List Char) : Bool :=
  cs != [] && cs.all fun c => (digitValue? c).isSome

/-- Whether the text after a minus sign is a number; a line end may follow it. -/
def isMagnitude (cs : List Char) : Bool :=
  let cs := if cs.getLast? = some '\n' then cs.dropLast else cs
  isDigits cs ||
    match cutAt '.' cs with
    | (whole, some frac) => (whole == [] || isDigits whole) && isDigits frac
    | _ => false

/-- What a word is that starts like an option but is not the name of one. -/
def Word.other (text : List Char) : Word :=
  if isMagnitude text.tail || text.contains ' ' then .plain text else .unknown

/-- What a word with two dashes at its front is: an option whose name starts so.  Nothing if there are several. -/
def Word.long? (text : List Char) : Option Word :=
  let (name, joined) := cutAt '=' text
  match Opt.spellings.filter fun p => name.isPrefixOf p.1 with
  | [] => some (.other text)
  | [(_, opt)] => some (.option opt false joined)
  | _ => none

/-- What a word with one dash at its front is. -/
def Word.short (text : List Char) : Word :=
  match Opt.ofSpelling? (text.take 2) with
  | some opt => .option opt true (some (text.drop 2))
  | none => .other text

/-- What a word is; nothing if it may be one of several options. -/
def Word.ofText? (text : List Char) : Option Word :=
  match text with
  | [] => some (.plain text)
  | '-' :: rest =>
    let isLetter := rest.head? != some '-'
    match Opt.ofSpelling? text with
    | some opt => some (.option opt isLetter none)
    | none =>
      if rest = [] then some (.plain text)
      else match cutAt '=' text with
        | (name, some joined) =>
          match Opt.ofSpelling? name with
          | some opt => some (.option opt isLetter (some joined))
          | none => if isLetter then some (.short text) else Word.long? text
        | _ => if isLetter then some (.short text) else Word.long? text
  | _ => some (.plain text)

/-- What all words are. -/
def Word.ofTexts? : List (List Char) → Option (List Word)
  | [] => some []
  | text :: rest =>
    if text = ['-', '-'] then some (.dashes :: rest.map .plain)
    else do
      let word ← Word.ofText? text
      let words ← Word.ofTexts? rest
      return word :: words

/-! ### All words -/

/-- What the words say. -/
structure Arguments where
  source : Option String
  fetch : Bool
  revision : Option Int
  printLast : Bool
  speed : Option Float
  play : Bool
  token : Option String
  login : Bool
  chunkSize : Int
  preferences : Option Path
  verbose : Bool

/-- Why the words are not followed. -/
inductive Ending where
  | help
  | version
  | refused
  deriving DecidableEq, Repr

namespace Arguments

/-- What no words say. -/
def none : Arguments :=
  { source := .none, fetch := false, revision := .none, printLast := false, speed := .none, play := false,
    token := .none, login := false, chunkSize := 50, preferences := .none, verbose := false }

/-- The integer that the value of an option writes. -/
def intValue (text : List Char) : Except Ending Int :=
  (Number.readInt text).mapError fun _ => .refused

/-- The number that the value of an option writes. -/
def floatValue (text : List Char) : Except Ending Float :=
  match Number.readFloat? text with
  | some x => .ok x
  | .none => .error .refused

/-- The arguments after an option with its value, which is empty for an option without one. -/
def set (a : Arguments) (opt : Opt) (value : List Char) : Except Ending Arguments :=
  match opt with
  | .help => .error .help
  | .version => .error .version
  | .fetch => .ok { a with fetch := true }
  | .printLast => .ok { a with printLast := true }
  | .play => .ok { a with play := true }
  | .login => .ok { a with login := true }
  | .verbose => .ok { a with verbose := true }
  | .revision => (intValue value).map fun n => { a with revision := some n }
  | .chunkSize => (intValue value).map fun n => { a with chunkSize := n }
  | .speed => (floatValue value).map fun x => { a with speed := some x }
  | .token => .ok { a with token := some (String.ofList value) }
  | .preferences => .ok { a with preferences := some (Path.read (String.ofList value)) }

/-- The options in a word that starts with an option and goes on with `joined`: those without values first, then
one that takes all that is left as its value, or one after which nothing is left. -/
def unjoin (opt : Opt) (letter : Bool) (joined : List Char) : Except Ending (List Opt × Opt × Option (List Char)) :=
  if opt.takesValue then .ok ([], opt, some joined)
  else match joined with
    | [] => .error .refused
    | c :: rest =>
      if letter then
        match Opt.ofSpelling? ['-', c] with
        | .none => .error .refused
        | some next =>
          if rest = [] then .ok ([opt], next, .none)
          else (unjoin next true rest).map fun p => (opt :: p.1, p.2)
      else .error .refused

/-- The options in a word. -/
def optionsIn (opt : Opt) (letter : Bool) :
    Option (List Char) → Except Ending (List Opt × Opt × Option (List Char))
  | .none => .ok ([], opt, .none)
  | some joined => unjoin opt letter joined

/-- Whether the source has been read: a source that is followed by an option is settled. -/
inductive SourceState where
  | missing
  | fresh
  | settled
  deriving DecidableEq, Repr

/-- What has been read, and whether there was more than there should be. -/
structure Progress where
  arguments : Arguments
  source : SourceState
  surplus : Bool

/-- The progress when an option comes. -/
def Progress.settle (p : Progress) : Progress :=
  { p with source := if p.source = .fresh then .settled else p.source }

/-- The progress after options with their values. -/
def Progress.apply (p : Progress) (flags : List Opt) (opt : Opt) (value : List Char) : Except Ending Progress := do
  let a ← flags.foldlM (fun a flag => a.set flag []) p.arguments
  let a ← a.set opt value
  return { p.settle with arguments := a }

/-- The progress after some words. -/
def Progress.read (p : Progress) : List Word → Except Ending Progress
  | [] => .ok p
  | .unknown :: rest => Progress.read { p.settle with surplus := true } rest
  | .dashes :: rest => Progress.read { p with surplus := p.surplus || p.source == .settled } rest
  | .plain text :: rest =>
    if p.source = .missing then
      Progress.read
        { p with source := .fresh, arguments := { p.arguments with source := some (String.ofList text) } } rest
    else Progress.read { p with surplus := true } rest
  | .option opt letter joined :: rest =>
    match optionsIn opt letter joined with
    | .error e => .error e
    | .ok (flags, last, some value) =>
      match p.apply flags last value with
      | .error e => .error e
      | .ok p => Progress.read p rest
    | .ok (flags, last, .none) =>
      if last.takesValue then
        match rest with
        | .plain value :: rest =>
          match p.apply flags last value with
          | .error e => .error e
          | .ok p => Progress.read p rest
        | _ => .error .refused
      else match p.apply flags last [] with
        | .error e => .error e
        | .ok p => Progress.read p rest

/-- What the words after the name of the program say. -/
def read (texts : List String) : Except Ending Arguments :=
  match Word.ofTexts? (texts.map String.toList) with
  | .none => .error .refused
  | some words =>
    match Progress.read ⟨Arguments.none, .missing, false⟩ words with
    | .error e => .error e
    | .ok p => if p.surplus then .error .refused else .ok p.arguments

end Arguments

end EditHistory.CommandLine
