import EditHistory.Text.Lines
import EditHistory.Web.Form

/-!
# Where a resource lies

The address of a resource, as it is sent: the site (the scheme and the host), a path, and perhaps a query and a
fragment.  In the path the segments `.` and `..` are resolved.  A character that has no place in its part is written by
its bytes, each as a percent sign and two digits; a percent sign that is already there stays.

An address that is too long, or that holds an ASCII control character, cannot be sent.

## Main definitions

* `Location` — an address in its parts
* `Location.read`, `Location.text` — an address taken apart, and as it is sent
* `isSendable`, `Location.fits` — whether an address can be sent
-/

namespace EditHistory.Web

open EditHistory.Text

/-- An address in its parts. -/
structure Location where
  /-- The scheme with its colon, the two slashes and the host. -/
  site : List Char
  path : List Char
  query : Option (List Char)
  fragment : Option (List Char)
  deriving DecidableEq, Repr

/-- A part of an address that may hold any character. -/
inductive AddressPart where
  | path
  | query
  | fragment
  deriving DecidableEq, Repr

/-- The printable ASCII characters that have no place in a part, the space apart. -/
def AddressPart.reserved : AddressPart → List Char
  | .path => ['"', '#', '<', '>', '?', '\x60', '\x7b', '\x7d']
  | .query => ['"', '#', '<', '>']
  | .fragment => ['"', '<', '>', '\x60']

/-- Whether a character stands for itself in a part. -/
def AddressPart.keeps (part : AddressPart) (c : Char) : Bool :=
  0x20 < c.toNat && c.toNat < 0x7f && !part.reserved.contains c

/-- A text as it is written in a part. -/
def AddressPart.write (part : AddressPart) (cs : List Char) : List Char :=
  cs.flatMap fun c => if part.keeps c then [c] else (utf8Char c).flatMap Form.escapeByte

/-- The segments of a path without `.` and `..`, given the resolved segments before them, the last one first.  A `..`
takes back the segment before it, but not the empty one from which an absolute path starts. -/
def resolveSegments : List (List Char) → List (List Char) → List (List Char)
  | done, [] => done.reverse
  | done, segment :: rest =>
    if segment = ['.'] then resolveSegments done rest
    else if segment = ['.', '.'] then resolveSegments (if done = [[]] then done else done.tail) rest
    else resolveSegments (segment :: done) rest

/-- Texts with slashes between them. -/
def joinSegments : List (List Char) → List Char
  | [] => []
  | [segment] => segment
  | segment :: next :: rest => segment ++ '/' :: joinSegments (next :: rest)

/-- A path without the segments `.` and `..`. -/
def resolvePath (cs : List Char) : List Char :=
  joinSegments (resolveSegments [] (splitOn '/' cs))

/-- The most characters that an address, or a part of it, may have. -/
def addressLimit : Nat := 65536

/-- Whether a text can be sent as an address. -/
def isSendable (address : List Char) : Bool :=
  address.length ≤ addressLimit && address.all fun c => 0x80 ≤ c.toNat || (0x20 ≤ c.toNat && c.toNat < 0x7f)

namespace Location

/-- The site at the front of an address, and what follows it. -/
def takeSite (cs : List Char) : List Char × List Char :=
  let (scheme, rest) := cs.span (· != '/')
  let (host, rest) := (rest.drop 2).span (· != '/')
  (scheme ++ '/' :: '/' :: host, rest)

/-- An address taken apart. -/
def read (cs : List Char) : Location :=
  let (cs, fragment) := cutAt '#' cs
  let (cs, query) := cutAt '?' cs
  let (site, path) := takeSite cs
  { site
    path := AddressPart.path.write (resolvePath path)
    query := query.map AddressPart.query.write
    fragment := fragment.map AddressPart.fragment.write }

/-- The address with a query in place of its own. -/
def withQuery (location : Location) (query : List Char) : Location :=
  { location with query := some query }

/-- The address as it is sent. -/
def text (location : Location) : List Char :=
  location.site ++ location.path ++ mark '?' location.query ++ mark '#' location.fragment
where
  /-- A part behind the sign that opens it. -/
  mark (sign : Char) : Option (List Char) → List Char
    | none => []
    | some cs => sign :: cs

/-- Whether no part is too long. -/
def fits (location : Location) : Bool :=
  location.path.length ≤ addressLimit && (location.query.getD []).length ≤ addressLimit &&
    (location.fragment.getD []).length ≤ addressLimit

end Location

end EditHistory.Web
