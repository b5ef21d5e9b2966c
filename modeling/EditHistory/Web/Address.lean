import EditHistory.Text.Lines
import EditHistory.Text.Quoted
import EditHistory.Web.IpAddress

/-!
# The query of an address

An address is a scheme with a colon, two slashes with a host, a path, a question mark with a query, and a number
sign with a fragment; every part may be missing.  Tabs and line ends anywhere in it are dropped, and so are spaces and
control characters before it.

Square brackets in a host hold a numeric address.

## Main definitions

* `Address.query` — the query of an address, or why the address is malformed
-/

namespace EditHistory.Web.Address

open EditHistory.Text

/-- Why an address is malformed. -/
inductive Fault where
  /-- A square bracket without its partner in the host, or something before or after the brackets. -/
  | bracket
  /-- An address of a version yet to come that is not written as one. -/
  | badFuture
  /-- An address of version 4 in brackets. -/
  | version4
  /-- Something in brackets that is no address. -/
  | notNumeric (host : List Char)
  /-- A character in the host that stands for a character with a meaning in addresses. -/
  | disguised (host : List Char)
  deriving DecidableEq, Repr

/-- The wording of a fault. -/
def Fault.message : Fault → String
  | .bracket => "Invalid IPv6 URL"
  | .badFuture => "IPvFuture address is invalid"
  | .version4 => "An IPv4 address cannot be in brackets"
  | .notNumeric host => String.ofList (quoted host) ++ " does not appear to be an IPv4 or IPv6 address"
  | .disguised host =>
    "netloc '" ++ String.ofList host ++ "' contains invalid characters under NFKC normalization"

/-- Whether a character may stand in a scheme. -/
def isSchemeChar (c : Char) : Bool :=
  c.isAlphanum || c == '+' || c == '-' || c == '.'

/-- The address without its scheme. -/
def dropScheme (cs : List Char) : List Char :=
  match cutAt ':' cs with
  | (c :: scheme, some rest) => if c.isAlpha && scheme.all isSchemeChar then rest else cs
  | _ => cs

/-- The host, if there is one, and what follows it. -/
def takeHost (cs : List Char) : List Char × List Char :=
  match cs with
  | '/' :: '/' :: rest => rest.span fun c => c != '/' && c != '?' && c != '#'
  | _ => ([], cs)

/-- The characters whose compatibility form contains one of `/?#@:`. -/
def disguises : List Char :=
  [0x2047, 0x2048, 0x2049, 0x2100, 0x2101, 0x2105, 0x2106, 0x2a74, 0xfe13, 0xfe16, 0xfe55, 0xfe56, 0xfe5f, 0xfe6b,
    0xff03, 0xff0f, 0xff1a, 0xff1f, 0xff20].map Char.ofNat

/-- What is wrong with a numeric address in brackets. -/
def numericFault? (host : List Char) : Option Fault :=
  if host.head? = some 'v' then if IpAddress.isFuture host then none else some .badFuture
  else if IpAddress.isVersion4 host then some .version4
  else if IpAddress.isVersion6 host then none
  else some (.notNumeric host)

/-- What is wrong with the brackets in a host.  Before the host there may be a user with an at sign, after it a colon
and a port. -/
def bracketFault? (host : List Char) : Option Fault :=
  if host.contains '[' != host.contains ']' then some .bracket
  else if !host.contains '[' then none
  else
    let named := match cutAtLast? '@' host with
      | some (_, named) => named
      | none => host
    match cutAt '[' named with
    | (named, none) => numericFault? (cutAt ':' named).1
    | (_ :: _, some _) => some .bracket
    | ([], some inside) =>
      match cutAt ']' inside with
      | (_, some (c :: _)) => if c = ':' then numericFault? (cutAt ']' inside).1 else some .bracket
      | (numeric, _) => numericFault? numeric

/-- The address without the characters that are dropped. -/
def clean (address : List Char) : List Char :=
  (address.dropWhile fun c => c.toNat ≤ 0x20).filter fun c => c != '\t' && c != '\r' && c != '\n'

/-- The query of an address; empty if there is none. -/
def query (address : List Char) : Except Fault (List Char) :=
  let (host, rest) := takeHost (dropScheme (clean address))
  match bracketFault? host with
  | some fault => .error fault
  | none =>
    if host.any disguises.contains then .error (.disguised host)
    else .ok ((cutAt '?' (cutAt '#' rest).1).2.getD [])

end EditHistory.Web.Address
