import EditHistory.Number.Mixed
import EditHistory.Text.Quoted

/-!
# Structured values

The loosely typed data that revision logs, token files and service answers consist of.  Integers have any size and
are never confused with doubles.  The fields of an object keep the order in which they were first written.

## Main definitions

* `Value` — the data
* `Value.get?`, `Value.put` — the fields of an object
* `Value.truthy` — the value read as a switch
* `Value.display`, `Value.text` — the value inside a message
-/

namespace EditHistory

/-- A structured value. -/
inductive Value where
  | null
  | bool (b : Bool)
  | int (n : Int)
  | float (x : Float)
  | str (s : String)
  | list (items : List Value)
  | object (fields : List (String × Value))

namespace Value

instance : Inhabited Value := ⟨.null⟩

/-- The fields with one of them set: an existing field keeps its place. -/
def put (fields : List (String × Value)) (key : String) (v : Value) : List (String × Value) :=
  match fields with
  | [] => [(key, v)]
  | (k, w) :: rest => if k = key then (k, v) :: rest else (k, w) :: put rest key v

/-- The field of a field list. -/
def lookup? (fields : List (String × Value)) (key : String) : Option Value :=
  match fields with
  | [] => none
  | (k, v) :: rest => if k = key then some v else lookup? rest key

/-- The field of an object; nothing for any other value. -/
def get? : Value → String → Option Value
  | .object fields, key => lookup? fields key
  | _, _ => none

/-- The value read as a switch: off for nothing, `false`, zero and whatever is empty. -/
def truthy : Value → Bool
  | .null => false
  | .bool b => b
  | .int n => n != 0
  | .float x => !(x == 0.0)
  | .str s => s != ""
  | .list items => !items.isEmpty
  | .object fields => !fields.isEmpty

/-- The name of the kind of value, as messages give it. -/
def kindName : Value → String
  | .null => "NoneType"
  | .bool _ => "bool"
  | .int _ => "int"
  | .float _ => "float"
  | .str _ => "str"
  | .list _ => "list"
  | .object _ => "dict"

/-- The value as a number, a switch counting as zero or one. -/
def number? : Value → Option Number
  | .bool b => some (.int b.toNat)
  | .int n => some (.int n)
  | .float x => some (.float x)
  | _ => none

mutual

/-- The value as it is shown inside a message. -/
def display : Value → List Char
  | .null => "None".toList
  | .bool true => "True".toList
  | .bool false => "False".toList
  | .int n => Number.intText n
  | .float x => Number.display x
  | .str s => Text.quoted s.toList
  | .list items => '[' :: displayItems items ++ [']']
  | .object fields => '{' :: displayFields fields ++ ['}']

/-- Values separated by commas. -/
def displayItems : List Value → List Char
  | [] => []
  | [v] => display v
  | v :: w :: rest => display v ++ ',' :: ' ' :: displayItems (w :: rest)

/-- Fields separated by commas. -/
def displayFields : List (String × Value) → List Char
  | [] => []
  | [(k, v)] => Text.quoted k.toList ++ ':' :: ' ' :: display v
  | (k, v) :: f :: rest =>
    Text.quoted k.toList ++ ':' :: ' ' :: display v ++ ',' :: ' ' :: displayFields (f :: rest)

end

/-- The value as it is shown inside a message, as a string. -/
def shown (v : Value) : String :=
  String.ofList v.display

/-- The value as text: a text is itself, anything else is displayed. -/
def text : Value → String
  | .str s => s
  | v => v.shown

end Value

/-- An integer as a string. -/
def showInt (n : Int) : String :=
  String.ofList (Number.intText n)

/-- A natural number as a string. -/
def showNat (n : Nat) : String :=
  String.ofList (Number.natText n)

/-- A text in quotes, as a string. -/
def showQuoted (s : String) : String :=
  String.ofList (Text.quoted s.toList)

end EditHistory
