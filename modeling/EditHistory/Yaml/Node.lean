import EditHistory.Yaml.Token

/-!
# Nodes

The tree that tokens write: scalars, sequences and mappings.  A node may be given a name, and another place may then
refer to it by that name, also a place inside the node itself.  Every sequence and every mapping has a number of its
own, by which it is known when it is met again.

Inside blocks an entry of a sequence or a part of a mapping may be left out; an empty scalar stands in its place.

## Main definitions

* `Node` — the tree
* `Document` — a tree and its named nodes
* `Document.ofTokens` — the document that tokens write
-/

namespace EditHistory.Yaml

open Scalar (Fault)

/-- A tree of scalars, sequences and mappings; `tag` is the full name of a type if one was given. -/
inductive Node where
  | scalar (tag : Option (List Char)) (text : List Char) (plain : Bool)
  | sequence (id : Nat) (tag : Option (List Char)) (items : List Node)
  | mapping (id : Nat) (tag : Option (List Char)) (pairs : List (Node × Node))
  /-- A reference to a named node. -/
  | alias (name : List Char)

/-- A tree, and the nodes in it that have names. -/
structure Document where
  root : Node
  named : List (List Char × Node)

namespace Node

/-- The node that stands where nothing is written. -/
def empty : Node := .scalar none [] true

instance : Inhabited Node := ⟨empty⟩

/-- What a document may refer to: the tokens still to be read, what handles stand for, the names in use and the nodes
that have them.  A sequence or mapping is numbered by the tokens that are left where it starts. -/
structure Reader where
  tokens : List Token
  handles : List (List Char × List Char)
  names : List (List Char)
  nodes : List (List Char × Node)

/-- A computation that reads tokens. -/
abbrev Parser (α : Type) := Reader → Except Fault (α × Reader)

/-- Whether the next token is such that `p` holds; after the last token, `atEnd`. -/
def next (r : Reader) (atEnd : Bool) (p : Token → Bool) : Bool :=
  match r.tokens with
  | [] => atEnd
  | t :: _ => p t

/-- The reader after the next token. -/
def drop (r : Reader) : Reader :=
  { r with tokens := r.tokens.tail }

/-! ### Names and types -/

/-- The full name of a type. -/
def resolveTag (r : Reader) (name : TagName) : Except Fault (List Char) :=
  match name.handle with
  | none => .ok name.suffix
  | some handle =>
    match r.handles.lookup handle with
    | some meaning => .ok (meaning ++ name.suffix)
    | none => .error .malformed

/-- What stands before a node: its name and its type. -/
structure Properties where
  name : Option (List Char)
  tag : Option (List Char)

/-- The name and the type before a node, in either order. -/
def properties : Parser Properties := fun r =>
  match r.tokens with
  | .anchor name :: .tag t :: _ => (resolveTag r t).map fun tag => (⟨some name, some tag⟩, drop (drop r))
  | .anchor name :: _ => .ok (⟨some name, none⟩, drop r)
  | .tag t :: .anchor name :: _ => (resolveTag r t).map fun tag => (⟨some name, some tag⟩, drop (drop r))
  | .tag t :: _ => (resolveTag r t).map fun tag => (⟨none, some tag⟩, drop r)
  | _ => .ok (⟨none, none⟩, r)

/-- Takes a name into use; it must be a new one. -/
def useName (name : Option (List Char)) : Parser Unit := fun r =>
  match name with
  | none => .ok ((), r)
  | some name =>
    if r.names.contains name then .error .malformed else .ok ((), { r with names := name :: r.names })

/-- Gives a node the name that was taken into use for it. -/
def giveName (name : Option (List Char)) (node : Node) : Parser Node := fun r =>
  match name with
  | none => .ok (node, r)
  | some name => .ok (node, { r with nodes := (name, node) :: r.nodes })

/-! ### Structures -/

/-- The structures that a node can be part of; they differ in what may follow in place of a node. -/
inductive Place where
  | blockEntry
  | indentlessEntry
  | blockKey
  | blockValue
  | flowEntry
  | flowKey
  | flowValue
  | pairKey
  | pairValue
  deriving DecidableEq, Repr

/-- Whether a token says that nothing is written at a place. -/
def Place.isEmptyBefore : Place → Token → Bool
  | .blockEntry, .blockEntry | .blockEntry, .blockEnd => true
  | .indentlessEntry, .blockEntry | .indentlessEntry, .key | .indentlessEntry, .value
  | .indentlessEntry, .blockEnd => true
  | .blockKey, .key | .blockKey, .value | .blockKey, .blockEnd => true
  | .blockValue, .key | .blockValue, .value | .blockValue, .blockEnd => true
  | .flowKey, .value | .flowKey, .flowEntry | .flowKey, .flowMappingEnd => true
  | .flowValue, .flowEntry | .flowValue, .flowMappingEnd => true
  | .pairKey, .value | .pairKey, .flowEntry | .pairKey, .flowSequenceEnd => true
  | .pairValue, .flowEntry | .pairValue, .flowSequenceEnd => true
  | _, _ => false

/-- Whether blocks may stand at a place. -/
def Place.takesBlocks : Place → Bool
  | .blockEntry | .indentlessEntry | .blockKey | .blockValue => true
  | _ => false

/-- Whether a sequence at a place may stand at the indentation of the mapping around it. -/
def Place.takesIndentless : Place → Bool
  | .blockKey | .blockValue => true
  | _ => false

mutual

/-- The node at a place, perhaps left out. -/
def nodeOrEmpty (place : Place) : Nat → Parser Node
  | 0, _ => .error .malformed
  | fuel + 1, r => if next r false place.isEmptyBefore then .ok (empty, r) else node place fuel r

/-- The node at a place. -/
def node (place : Place) : Nat → Parser Node
  | 0, _ => .error .malformed
  | fuel + 1, r =>
    match r.tokens with
    | .alias name :: _ =>
      if r.names.contains name then .ok (.alias name, drop r) else .error .malformed
    | _ => do
      let (p, r) ← properties r
      let ((), r) ← useName p.name r
      let (n, r) ← content place p.tag (p.name.isSome || p.tag.isSome) fuel r
      giveName p.name n r

/-- The node after its name and its type; `optional` says whether nothing may be written. -/
def content (place : Place) (tag : Option (List Char)) (optional : Bool) : Nat → Parser Node
  | 0, _ => .error .malformed
  | fuel + 1, r =>
    let id := r.tokens.length
    match r.tokens with
    | .scalar text plain :: _ => .ok (.scalar tag text plain, drop r)
    | .flowSequenceStart :: _ => do
      let (items, r) ← flowEntries true fuel (drop r)
      return (.sequence id tag items, r)
    | .flowMappingStart :: _ => do
      let (pairs, r) ← flowPairs true fuel (drop r)
      return (.mapping id tag pairs, r)
    | t :: _ =>
      if t = .blockEntry && place.takesIndentless then do
        let (items, r) ← indentlessEntries fuel r
        return (.sequence id tag items, r)
      else if t = .blockSequenceStart && place.takesBlocks then do
        let (items, r) ← blockEntries fuel (drop r)
        return (.sequence id tag items, r)
      else if t = .blockMappingStart && place.takesBlocks then do
        let (pairs, r) ← blockPairs fuel (drop r)
        return (.mapping id tag pairs, r)
      else if optional then .ok (.scalar tag [] tag.isNone, r)
      else .error .malformed
    | [] => if optional then .ok (.scalar tag [] tag.isNone, r) else .error .malformed

/-- The entries of a block sequence. -/
def blockEntries : Nat → Parser (List Node)
  | 0, _ => .error .malformed
  | fuel + 1, r =>
    match r.tokens with
    | .blockEntry :: _ => do
      let (n, r) ← nodeOrEmpty .blockEntry fuel (drop r)
      let (ns, r) ← blockEntries fuel r
      return (n :: ns, r)
    | .blockEnd :: _ => .ok ([], drop r)
    | _ => .error .malformed

/-- The entries of a sequence at the indentation of the mapping around it. -/
def indentlessEntries : Nat → Parser (List Node)
  | 0, _ => .error .malformed
  | fuel + 1, r =>
    match r.tokens with
    | .blockEntry :: _ => do
      let (n, r) ← nodeOrEmpty .indentlessEntry fuel (drop r)
      let (ns, r) ← indentlessEntries fuel r
      return (n :: ns, r)
    | _ => .ok ([], r)

/-- The pairs of a block mapping. -/
def blockPairs : Nat → Parser (List (Node × Node))
  | 0, _ => .error .malformed
  | fuel + 1, r =>
    match r.tokens with
    | .key :: _ => do
      let (k, r) ← nodeOrEmpty .blockKey fuel (drop r)
      let (v, r) ← valueNode .blockValue fuel r
      let (ps, r) ← blockPairs fuel r
      return ((k, v) :: ps, r)
    | .blockEnd :: _ => .ok ([], drop r)
    | _ => .error .malformed

/-- The value after a key; without a colon it is left out. -/
def valueNode (place : Place) : Nat → Parser Node
  | 0, _ => .error .malformed
  | fuel + 1, r =>
    match r.tokens with
    | .value :: _ => nodeOrEmpty place fuel (drop r)
    | _ => .ok (empty, r)

/-- The entries of a sequence in brackets; `first` says whether no comma need come before the next. -/
def flowEntries (first : Bool) : Nat → Parser (List Node)
  | 0, _ => .error .malformed
  | fuel + 1, r =>
    match r.tokens with
    | .flowSequenceEnd :: _ => .ok ([], drop r)
    | .flowEntry :: _ => if first then .error .malformed else flowEntry fuel (drop r)
    | _ => if first then flowEntry fuel r else .error .malformed

/-- An entry of a sequence in brackets and those after it; a key makes the entry a mapping of one pair. -/
def flowEntry : Nat → Parser (List Node)
  | 0, _ => .error .malformed
  | fuel + 1, r =>
    match r.tokens with
    | .flowSequenceEnd :: _ => .ok ([], drop r)
    | .key :: _ => do
      let id := r.tokens.length
      let (k, r) ← nodeOrEmpty .pairKey fuel (drop r)
      let (v, r) ← valueNode .pairValue fuel r
      let (ns, r) ← flowEntries false fuel r
      return (.mapping id none [(k, v)] :: ns, r)
    | _ => do
      let (n, r) ← node .flowEntry fuel r
      let (ns, r) ← flowEntries false fuel r
      return (n :: ns, r)

/-- The pairs of a mapping in brackets; `first` says whether no comma need come before the next. -/
def flowPairs (first : Bool) : Nat → Parser (List (Node × Node))
  | 0, _ => .error .malformed
  | fuel + 1, r =>
    match r.tokens with
    | .flowMappingEnd :: _ => .ok ([], drop r)
    | .flowEntry :: _ => if first then .error .malformed else flowPair fuel (drop r)
    | _ => if first then flowPair fuel r else .error .malformed

/-- A pair of a mapping in brackets and those after it; without a mark for the key the value is left out. -/
def flowPair : Nat → Parser (List (Node × Node))
  | 0, _ => .error .malformed
  | fuel + 1, r =>
    match r.tokens with
    | .flowMappingEnd :: _ => .ok ([], drop r)
    | .key :: _ => do
      let (k, r) ← nodeOrEmpty .flowKey fuel (drop r)
      let (v, r) ← valueNode .flowValue fuel r
      let (ps, r) ← flowPairs false fuel r
      return ((k, v) :: ps, r)
    | _ => do
      let (k, r) ← node .flowKey fuel r
      let (ps, r) ← flowPairs false fuel r
      return ((k, empty) :: ps, r)

end

/-! ### The size -/

mutual

/-- The number of nodes of a tree. -/
def size : Node → Nat
  | .scalar .. | .alias _ => 1
  | .sequence _ _ items => sizeOfItems items + 1
  | .mapping _ _ pairs => sizeOfPairs pairs + 1

/-- The number of nodes of trees. -/
def sizeOfItems : List Node → Nat
  | [] => 0
  | n :: ns => size n + sizeOfItems ns

/-- The number of nodes of pairs of trees. -/
def sizeOfPairs : List (Node × Node) → Nat
  | [] => 0
  | (k, v) :: ps => size k + size v + sizeOfPairs ps

end

end Node

namespace Document

/-- What handles stand for unless a directive says otherwise. -/
def usualHandles : List (List Char × List Char) :=
  [("!".toList, "!".toList), ("!!".toList, "tag:yaml.org,2002:".toList)]

/-- The directives at the front: what handles they define, and whether they give a version. -/
def directives (handles : List (List Char × List Char)) (versioned : Bool) :
    List Token → Except Fault (List (List Char × List Char) × List Token)
  | .directive (.version major) :: ts =>
    if versioned || major != 1 then .error .malformed else directives handles true ts
  | .directive (.handle name meaning) :: ts =>
    if handles.any fun h => h.1 == name then .error .malformed
    else directives ((name, meaning) :: handles) versioned ts
  | .directive .unknown :: ts => directives handles versioned ts
  | ts => .ok (handles, ts)

/-- A document without a mark before it, at the front of some tokens, and the tokens after it. -/
def bare (handles : List (List Char × List Char)) (tokens : List Token) : Except Fault (Document × List Token) :=
  (Node.node .blockEntry (4 * tokens.length + 8) ⟨tokens, handles, [], []⟩).map fun p =>
    (⟨p.1, p.2.nodes⟩, p.2.tokens)

/-- A document with a mark before it; it may be left out after the mark. -/
def marked (tokens : List Token) : Except Fault (Document × List Token) := do
  let (handles, tokens) ← directives [] false tokens
  match tokens with
  | .documentStart :: rest =>
    match rest with
    | [] | .directive _ :: _ | .documentStart :: _ | .documentEnd :: _ => return (⟨.empty, []⟩, rest)
    | _ => bare (handles ++ usualHandles) rest
  | _ => .error .malformed

/-- The only document that tokens write; nothing if they write none. -/
def ofTokens (tokens : List Token) : Except Fault (Option Document) := do
  match tokens with
  | [] => return none
  | .directive _ :: _ | .documentStart :: _ => only (← marked tokens)
  | _ => only (← bare usualHandles tokens)
where
  /-- A document after which no other follows. -/
  only : Document × List Token → Except Fault (Option Document)
    | (d, rest) => if rest.all (· == .documentEnd) then .ok (some d) else .error .malformed

/-- A node, or the node that it refers to. -/
def deref (d : Document) : Node → Node
  | .alias name => (d.named.lookup name).getD .empty
  | node => node

end Document

end EditHistory.Yaml
