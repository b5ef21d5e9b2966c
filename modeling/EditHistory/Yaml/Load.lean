import EditHistory.Yaml.Place
import EditHistory.Yaml.Shape

/-!
# Loading

From the text of a document to what it stands for.

A mapping may take over the pairs of others under the key `<<`; its own pairs win over those.  Of two equal keys the
later wins.

Scalars are read where they are met, but what is in a list or mapping is read only after all that is around it.  So
of several errors the one counts that lies in the outermost list or mapping, and of those the first.

## Main definitions

* `Document.inspect` — the first error in a document
* `Document.data` — what a node of a document without errors stands for
* `load` — what the text of a document stands for
-/

namespace EditHistory.Yaml

namespace Document

/-! ### Merging -/

/-- The pairs of a mapping without those that only take over others. -/
def ownPairs (d : Document) (pairs : List (Node × Node)) : List (Node × Node) :=
  pairs.filter fun p => !(d.deref p.1).isKey .merge

/-- The pairs of a mapping with those that it takes over before its own.  A mapping that takes over its own pairs has
them already.  The fuel bounds the depth. -/
def merged (d : Document) (within : List Nat) : Nat → Nat → List (Node × Node) → Except Error (List (Node × Node))
  | 0, _, _ => .error .malformed
  | fuel + 1, id, pairs => do
    let taken ← (pairs.filter fun p => (d.deref p.1).isKey .merge).mapM fun p => takenOver fuel id (d.deref p.2)
    return taken.flatten ++ d.ownPairs pairs
where
  /-- The pairs of a mapping that are taken over. -/
  ofMapping (fuel outer : Nat) : Node → Except Error (List (Node × Node))
    | .mapping id _ pairs =>
      if (outer :: within).contains id then .ok (d.ownPairs pairs) else merged d (outer :: within) fuel id pairs
    | _ => .error .malformed
  /-- The pairs that are taken over from a mapping, or from a list of mappings, the first of which wins. -/
  takenOver (fuel outer : Nat) : Node → Except Error (List (Node × Node))
    | .sequence _ _ items => do
      let parts ← items.mapM fun n => ofMapping fuel outer (d.deref n)
      return parts.reverse.flatten
    | n => ofMapping fuel outer n

/-- The pairs of a mapping with those that it takes over. -/
def allPairs (d : Document) (id : Nat) (pairs : List (Node × Node)) : Except Error (List (Node × Node)) :=
  d.merged [] (d.root.size + 1) id pairs

/-! ### Errors -/

/-- Meets a node: a scalar is read, anything else is only kept for later. -/
def meet (d : Document) (node : Node) : Except Error (List Node) :=
  let node := d.deref node
  match node.shape? with
  | none => .error .malformed
  | some (.scalar kind) => (d.scalarData kind node).map fun _ => []
  | some _ => .ok [node]

/-- Whether a node can be a key; the key `=` can. -/
def isScalar (d : Document) (node : Node) : Bool :=
  match (d.deref node).shape? with
  | some (.scalar _) => true
  | _ => false

/-- Meets the key of a pair and then its value. -/
def meetPair (d : Document) (p : Node × Node) : Except Error (List Node) := do
  if (d.deref p.1).isKey .value then d.meet p.2
  else
    let _ ← d.meet p.1
    if d.isScalar p.1 then d.meet p.2 else .error .malformed

/-- Meets a pair that is written as a mapping. -/
def meetSingle (d : Document) (node : Node) : Except Error (List Node) :=
  match d.deref node with
  | .mapping _ _ [(k, v)] => do return (← d.meet k) ++ (← d.meet v)
  | _ => .error .malformed

/-- Meets all that is in a list, a set or a mapping; the result is what is kept for later. -/
def meetAll (d : Document) (node : Node) : Except Error (List Node) :=
  match node.shape?, node with
  | some .list, .sequence _ _ items => (items.mapM d.meet).map List.flatten
  | some .pairs, .sequence _ _ items => (items.mapM d.meetSingle).map List.flatten
  | some .set, .mapping id _ pairs | some .mapping, .mapping id _ pairs => do
    let pairs ← d.allPairs id pairs
    return (← pairs.mapM d.meetPair).flatten
  | _, _ => .error .malformed

/-- The nodes that have not been met before, each once; those met before are known by their numbers. -/
def fresh (seen : List Nat) : List Node → List Node
  | [] => []
  | n :: ns =>
    match n.id? with
    | some id => if seen.contains id then fresh seen ns else n :: fresh (id :: seen) ns
    | none => n :: fresh seen ns

/-- The first error in some nodes and all that is in them; the fuel bounds the number of nodes. -/
def inspectAll (d : Document) : Nat → List Nat → List Node → Except Error Unit
  | _, _, [] => .ok ()
  | 0, _, _ :: _ => .error .malformed
  | fuel + 1, seen, n :: ns => do
    let found := fresh seen (← d.meetAll n)
    d.inspectAll fuel (found.filterMap Node.id? ++ seen) (ns ++ found)

/-- The first error in a document. -/
def inspect (d : Document) : Except Error Unit := do
  let found ← d.meet d.root
  d.inspectAll (d.root.size + 1) (found.filterMap Node.id?) found

/-! ### Data -/

/-- What a key stands for; the key of a value is a text. -/
def keyData (d : Document) (node : Node) : Except Error Data :=
  let node := d.deref node
  if node.isKey .value then d.scalarData .text node
  else match node.shape? with
    | some (.scalar kind) => d.scalarData kind node
    | _ => .error .malformed

/-- What a node stands for inside the lists and mappings with some numbers; the fuel bounds the depth. -/
def data (d : Document) (within : List Nat) : Nat → Node → Except Error Data
  | 0, _ => .error .malformed
  | fuel + 1, node =>
    let node := d.deref node
    let isWithin := match node.id? with
      | some id => within.contains id
      | none => false
    match node.shape?, node with
    | some (.scalar kind), node => d.scalarData kind node
    | some .list, .sequence id _ items =>
      if isWithin then .ok (.again id) else (items.mapM (d.data (id :: within) fuel)).map (.list id)
    | some .pairs, .sequence id _ items =>
      if isWithin then .ok (.again id)
      else (items.mapM fun item =>
        match d.deref item with
        | .mapping _ _ [(k, v)] => do
          let first ← d.data (id :: within) fuel k
          let second ← d.data (id :: within) fuel v
          return Data.pair first second
        | _ => .error .malformed).map (.list id)
    | some .set, .mapping id _ pairs => do
      let keys ← (← d.allPairs id pairs).mapM fun p => d.keyData p.1
      return .set id ((keys.foldl (fun done key => Data.put done key .null) []).map Prod.fst)
    | some .mapping, .mapping id _ pairs =>
      if isWithin then .ok (.again id)
      else do
        let pairs ← d.allPairs id pairs
        let pairs ← pairs.foldlM (fun done p => do
          let key ← d.keyData p.1
          return Data.put done key (← d.data (id :: within) fuel p.2)) []
        return .mapping id pairs
    | _, _ => .error .malformed

end Document

/-- Whether a character may occur in a document. -/
def isPrintable (c : Char) : Bool :=
  let n := c.toNat
  n == 0x09 || n == 0x0a || n == 0x0d || (0x20 ≤ n && n ≤ 0x7e) || n == 0x85 || (0xa0 ≤ n && n ≤ 0xfffd) ||
    0x10000 ≤ n

/-- What the text of a document stands for; a text without a document stands for nothing. -/
def load (cs : List Char) : Except Error Data := do
  if cs.all isPrintable then
    let tokens ← (Token.scan cs).mapError .scalar
    match ← (Document.ofTokens tokens).mapError .scalar with
    | none => return .null
    | some d =>
      d.inspect
      d.data [] (2 * d.root.size + 1) d.root
  else .error .malformed

end EditHistory.Yaml
