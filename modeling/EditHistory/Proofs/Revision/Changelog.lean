import EditHistory.Revision.Payload

/-!
# Changelogs in parts

A changelog is read entry by entry, and the place of an entry matters only if it has no fourth item to take the id
from.  So a changelog whose entries are long enough can be cut anywhere: its parts, each read as a changelog of its
own, give the revisions of the whole, or the error of the whole.

## Main definitions

* `Revision.IsPlaceless` — an entry that is read alike at every place
* `Revision.changelog` — the batch of a list of entries
* `Revision.readInTurn` — several batches read in turn

## Main statements

* `Revision.outcome_readEntriesFrom_append` — the reading of two lists of entries, one after the other
* `Revision.readInTurn_changelogs` — a changelog read in parts
-/

namespace EditHistory

namespace Revision

/-- The batch whose changelog is a list of entries. -/
def changelog (entries : List Value) : Value :=
  .object [("changelog", .list entries)]

theorem readBatch_changelog (entries : List Value) : readBatch (changelog entries) = readEntriesFrom 1 entries := rfl

/-- An entry that, if it is a list, has at least four items. -/
def IsPlaceless (entry : Value) : Prop := ∀ items, entry = .list items → 4 ≤ items.length

/-- Such an entry has its id in itself. -/
theorem readEntry_of_isPlaceless {entry : Value} (placeless : IsPlaceless entry) (place place' : Nat) :
    readEntry place entry = readEntry place' entry := by
  cases entry with
  | list items =>
      obtain ⟨a, b, c, d, rest, rfl⟩ : ∃ a b c d rest, items = a :: b :: c :: d :: rest := by
        match items, placeless items rfl with
        | a :: b :: c :: d :: rest, _ => exact ⟨a, b, c, d, rest, rfl⟩
      rfl
  | _ => rfl

theorem readEntriesFrom_of_isPlaceless {entries : List Value} (placeless : ∀ e ∈ entries, IsPlaceless e)
    (place place' : Nat) : readEntriesFrom place entries = readEntriesFrom place' entries := by
  induction entries generalizing place place' with
  | nil => rfl
  | cons entry entries ih =>
      rw [readEntriesFrom, readEntriesFrom, readEntry_of_isPlaceless (placeless entry List.mem_cons_self) place place',
        ih (fun e mem => placeless e (List.mem_cons_of_mem entry mem)) (place + 1) (place' + 1)]

/-- Entries read one list after the other; an error of the first list is the error of both. -/
theorem outcome_readEntriesFrom_append (place : Nat) (first second : List Value) :
    (readEntriesFrom place (first ++ second)).outcome =
      (readEntriesFrom place first).outcome.bind fun revisions =>
        (readEntriesFrom (place + first.length) second).outcome.map (revisions ++ ·) := by
  induction first generalizing place with
  | nil =>
      rw [List.nil_append, readEntriesFrom, Noted.outcome_pure, Except.bind, List.length_nil, Nat.add_zero]
      cases (readEntriesFrom place second).outcome <;> rfl
  | cons entry first ih =>
      have next : place + 1 + first.length = place + (entry :: first).length := by
        rw [List.length_cons]
        omega
      rw [List.cons_append, readEntriesFrom, readEntriesFrom, Noted.outcome_bind, Noted.outcome_bind]
      cases (readEntry place entry).outcome with
      | error e => rfl
      | ok revision =>
          simp only [Except.bind, Noted.outcome_bind]
          rw [ih, next]
          cases (readEntriesFrom (place + 1) first).outcome with
          | error e => rfl
          | ok revisions =>
              simp only [Except.bind]
              cases (readEntriesFrom (place + (entry :: first).length) second).outcome <;> rfl

/-- Batches read in turn, their revisions put together. -/
def readInTurn : List Value → Except PayloadError (List Revision)
  | [] => .ok []
  | batch :: batches =>
    (readBatch batch).outcome.bind fun revisions => (readInTurn batches).map (revisions ++ ·)

/-- **A changelog read in parts**, each as a changelog of its own, gives what the whole gives. -/
theorem readInTurn_changelogs (parts : List (List Value)) (placeless : ∀ e ∈ parts.flatten, IsPlaceless e) :
    readInTurn (parts.map changelog) = (readBatch (changelog parts.flatten)).outcome := by
  induction parts with
  | nil => rfl
  | cons part parts ih =>
      rw [List.flatten_cons] at placeless
      have later : ∀ e ∈ parts.flatten, IsPlaceless e := fun e mem => placeless e (List.mem_append_right part mem)
      rw [List.map_cons, readInTurn, ih later, List.flatten_cons]
      simp only [readBatch_changelog]
      rw [outcome_readEntriesFrom_append, readEntriesFrom_of_isPlaceless later (1 + part.length) 1]

end Revision

end EditHistory
