import EditHistory.Text.Digit
import EditHistory.Text.Lines

/-!
# Numeric addresses of hosts

A host may be written by a number.  In version 4 it is four octets between dots.  In version 6 it is eight groups of
at most four hexadecimal digits between colons, of which a run may be left out between two colons; the last two groups
may be written as an address of version 4, and a percent sign and a zone may follow.

## Main definitions

* `isVersion4`, `isVersion6` — whether a text is such an address
* `isFuture` — whether a text is an address of a version yet to come
-/

namespace EditHistory.Web.IpAddress

open EditHistory.Text

/-- Whether a text is a number from 0 to 255 in decimal digits, without leading zeros. -/
def isOctet (cs : List Char) : Bool :=
  match cs.mapM asciiDigit? with
  | some [_] => true
  | some (d :: ds) => d != 0 && ds.length ≤ 2 && ofDigits (d :: ds) ≤ 255
  | _ => false

/-- Whether a text is an address of version 4. -/
def isVersion4 (cs : List Char) : Bool :=
  let octets := splitOn '.' cs
  octets.length == 4 && octets.all isOctet

/-- Whether a text is a group of an address of version 6. -/
def isGroup (cs : List Char) : Bool :=
  !cs.isEmpty && cs.length ≤ 4 && cs.all fun c => (hexDigit? c).isSome

/-- The groups of an address of version 6, one at the end that is an address of version 4 taken for two; nothing if it
only looks like one. -/
def groups? (cs : List Char) : Option (List (List Char)) :=
  let groups := splitOn ':' cs
  match groups.getLast? with
  | some last =>
    if last.contains '.' then
      if isVersion4 last then some (groups.dropLast ++ [['0'], ['0']]) else none
    else some groups
  | none => some groups

/-- The groups on one side of a gap; the only one may be empty, where the gap is at an end of the address. -/
def besideGap (groups : List (List Char)) : List (List Char) :=
  if groups = [[]] then [] else groups

/-- Whether groups, at least two of them, make up an address: all eight of them, or fewer around one gap. -/
def areGroups (groups : List (List Char)) : Bool :=
  match (groups.drop 1).dropLast.idxOf? [] with
  | none => groups.length == 8 && groups.all isGroup
  | some i =>
    let shown := besideGap (groups.take (i + 1)) ++ besideGap (groups.drop (i + 2))
    shown.length ≤ 7 && shown.all isGroup

/-- Whether a text is an address of version 6. -/
def isVersion6 (cs : List Char) : Bool :=
  let (address, zone) := cutAt '%' cs
  let zoneFits := match zone with
    | some zone => !zone.isEmpty && !zone.contains '%'
    | none => true
  zoneFits && 3 ≤ (splitOn ':' address).length &&
    match groups? address with
    | some groups => areGroups groups
    | none => false

/-- Whether a text is an address of a version yet to come: the letter `v`, the version, a dot, and something more. -/
def isFuture (cs : List Char) : Bool :=
  match cs with
  | 'v' :: rest =>
    match cutAt '.' rest with
    | (version, some (_ :: _)) => !version.isEmpty && version.all fun c => (hexDigit? c).isSome
    | _ => false
  | _ => false

end EditHistory.Web.IpAddress
