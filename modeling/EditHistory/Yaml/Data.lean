import EditHistory.Number.Limit
import EditHistory.Number.Mixed
import EditHistory.Text.Quoted

/-!
# Data

What nodes stand for.  Unlike in JSON, anything but a list, a set or a mapping may be the key of a mapping, and there
are dates and times, bytes, pairs and sets.

Lists, sets and mappings have a number by which they are known when they are met again inside themselves.

## Main definitions

* `Data` — the data
* `Data.truthy` — the data read as a switch
* `Data.put` — a pair added to a mapping
-/

namespace EditHistory.Yaml

/-- What a node stands for. -/
inductive Data where
  | null
  | bool (b : Bool)
  | int (n : Int)
  | float (x : Float)
  | str (s : List Char)
  | bytes (bs : List UInt8)
  /-- A date or a time: its text, and how it is shown inside other data. -/
  | moment (text shown : List Char)
  | pair (first second : Data)
  | list (id : Nat) (items : List Data)
  | set (id : Nat) (items : List Data)
  | mapping (id : Nat) (pairs : List (Data × Data))
  /-- The list or mapping with a number, inside itself. -/
  | again (id : Nat)

namespace Data

instance : Inhabited Data := ⟨.null⟩

/-- The data read as a switch. -/
def truthy : Data → Bool
  | .null => false
  | .bool b => b
  | .int n => n != 0
  | .float x => !(x == 0.0)
  | .str s => !s.isEmpty
  | .bytes bs => !bs.isEmpty
  | .moment .. | .pair .. | .again _ => true
  | .list _ items | .set _ items => !items.isEmpty
  | .mapping _ pairs => !pairs.isEmpty

/-- The data as a number, a switch counting as zero or one. -/
def number? : Data → Option Number
  | .bool b => some (.int b.toNat)
  | .int n => some (.int n)
  | .float x => some (.float x)
  | _ => none

/-- Whether two data are the same key. -/
def sameKey (a b : Data) : Bool :=
  match a.number?, b.number? with
  | some x, some y => x.le y && y.le x
  | none, none =>
    match a, b with
    | .null, .null => true
    | .str s, .str t => s == t
    | .bytes s, .bytes t => s == t
    | .moment _ s, .moment _ t => s == t
    | _, _ => false
  | _, _ => false

/-- The pairs with one set: an existing key keeps its place. -/
def put (pairs : List (Data × Data)) (key v : Data) : List (Data × Data) :=
  match pairs with
  | [] => [(key, v)]
  | (k, w) :: rest => if sameKey k key then (k, v) :: rest else (k, w) :: put rest key v

/-- The value of a text among pairs. -/
def lookup? (pairs : List (Data × Data)) (key : String) : Option Data :=
  (pairs.find? fun p => sameKey p.1 (.str key.toList)).map Prod.snd

/-- The number of a list, a set or a mapping. -/
def id? : Data → Option Nat
  | .list id _ | .set id _ | .mapping id _ => some id
  | _ => none

mutual

/-- The number of data in the data, with the data itself. -/
def size : Data → Nat
  | .pair a b => size a + size b + 1
  | .list _ items | .set _ items => sizeOfItems items + 1
  | .mapping _ pairs => sizeOfPairs pairs + 1
  | _ => 1

/-- The number of data in some data. -/
def sizeOfItems : List Data → Nat
  | [] => 0
  | d :: ds => size d + sizeOfItems ds

/-- The number of data in some pairs. -/
def sizeOfPairs : List (Data × Data) → Nat
  | [] => 0
  | (k, v) :: ps => size k + size v + sizeOfPairs ps

end

mutual

/-- Whether an integer somewhere in the data is too long to be written. -/
def holdsLongInt : Data → Bool
  | .int n => Number.digitLimit < (Number.natText n.natAbs).length
  | .pair a b => holdsLongInt a || holdsLongInt b
  | .list _ items | .set _ items => anyLongInt items
  | .mapping _ pairs => anyLongIntPair pairs
  | _ => false

/-- Whether an integer somewhere in some data is too long to be written. -/
def anyLongInt : List Data → Bool
  | [] => false
  | v :: rest => holdsLongInt v || anyLongInt rest

/-- Whether an integer somewhere in some pairs is too long to be written. -/
def anyLongIntPair : List (Data × Data) → Bool
  | [] => false
  | (k, v) :: rest => holdsLongInt k || holdsLongInt v || anyLongIntPair rest

end

end Data

end EditHistory.Yaml
