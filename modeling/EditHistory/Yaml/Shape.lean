import EditHistory.Yaml.Node
import EditHistory.Yaml.Plain

/-!
# What nodes are read as

A node with the name of a type is read as that type.  Any other sequence is a list, any other mapping a mapping, a
scalar in quotes a text, and a plain scalar what its form says.

A mapping with the key `=` may stand where a scalar is asked for: then the value of that key counts.

## Main definitions

* `Shape` — what a node may be read as
* `Document.shape?` — what a node is read as
* `Document.scalarData` — what a node stands for that is read as a scalar
-/

namespace EditHistory.Yaml

/-- What a node may be read as. -/
inductive Shape where
  | scalar (kind : Kind)
  | list
  /-- A list of pairs, each of them written as a mapping. -/
  | pairs
  | set
  | mapping
  deriving DecidableEq, Repr

/-- Why a text stands for nothing. -/
inductive Error where
  | malformed
  /-- A text that is well formed holds a scalar that stands for nothing. -/
  | scalar (fault : Scalar.Fault)
  | plain (fault : PlainFault)

/-- The wording of an error. -/
def Error.message : Error → String
  | .malformed => "the text is malformed"
  | .scalar fault => fault.message
  | .plain fault => fault.message

/-- Whether the error is one in the form of the text. -/
def Error.isMalformed : Error → Bool
  | .malformed => true
  | .scalar fault => fault == .malformed
  | .plain .notBytes => true
  | .plain _ => false

/-- The standard types by name, and what nodes with their names are read as. -/
def standardShapes : List (String × Shape) := [
  ("str", .scalar .text), ("int", .scalar .int), ("float", .scalar .float), ("bool", .scalar .switch),
  ("null", .scalar .null), ("timestamp", .scalar .moment), ("binary", .scalar .bytes), ("seq", .list),
  ("omap", .pairs), ("pairs", .pairs), ("set", .set), ("map", .mapping)]

/-- What comes before the name of a standard type. -/
def standardStem : List Char := "tag:yaml.org,2002:".toList

/-- The name of a type among the standard ones. -/
def standardName? (tag : List Char) : Option (List Char) :=
  Text.dropMark? standardStem tag

/-- What a node is read as that has the name of a type. -/
def Shape.ofTag? (tag : List Char) : Option Shape :=
  (standardName? tag).bind fun name => standardShapes.lookup (String.ofList name)

namespace Node

/-- The name of a type before a node, unless it says nothing. -/
def typeName? (tag : Option (List Char)) : Option (List Char) :=
  tag.filter (· != ['!'])

/-- The form of a scalar without the name of a type. -/
def scalarKind (tag : Option (List Char)) (text : List Char) (plain : Bool) : Kind :=
  if plain || tag.isSome then Kind.of text else .text

/-- What a node is read as; nothing if it has the name of a type that is not known, or if it is a scalar that is good
only as a key. -/
def shape? : Node → Option Shape
  | .scalar tag text plain =>
    match typeName? tag with
    | some name => Shape.ofTag? name
    | none =>
      match scalarKind tag text plain with
      | .merge | .value => none
      | kind => some (.scalar kind)
  | .sequence _ tag _ => (typeName? tag).elim (some .list) Shape.ofTag?
  | .mapping _ tag _ => (typeName? tag).elim (some .mapping) Shape.ofTag?
  | .alias _ => none

/-- The name of a type that was given to a node. -/
def givenType? : Node → Option (List Char)
  | .scalar tag _ _ | .sequence _ tag _ | .mapping _ tag _ => typeName? tag
  | .alias _ => none

/-- Whether a node is a key of a kind that means something to the mapping around it. -/
def isKey (kind : Kind) (node : Node) : Bool :=
  match givenType? node, node with
  | some name, _ =>
    kind == .merge && standardName? name == some "merge".toList ||
      kind == .value && standardName? name == some "value".toList
  | none, .scalar tag text plain => scalarKind tag text plain == kind
  | none, _ => false

/-- The number of a sequence or mapping. -/
def id? : Node → Option Nat
  | .sequence id _ _ | .mapping id _ _ => some id
  | _ => none

end Node

namespace Document

/-- The text of a node that is read as a scalar; the fuel bounds how often a value stands for a mapping. -/
def scalarText? (d : Document) : Nat → Node → Option (List Char)
  | 0, _ => none
  | fuel + 1, node =>
    match node with
    | .scalar _ text _ => some text
    | .mapping _ _ pairs =>
      (pairs.find? fun p => (d.deref p.1).isKey .value).bind fun p => d.scalarText? fuel (d.deref p.2)
    | _ => none

/-- What a node stands for that is read as a scalar.  A date or time must be written as one. -/
def scalarData (d : Document) (kind : Kind) (node : Node) : Except Error Data :=
  match d.scalarText? d.root.size node, node.id? with
  | none, _ => .error .malformed
  | some text, id =>
    if kind = .moment ∧ id.isSome then .error (.plain .momentInMapping)
    else match kind.read text with
      | .ok (some data) => .ok data
      | .ok none => .error .malformed
      | .error fault => .error (.plain fault)

end Document

end EditHistory.Yaml
