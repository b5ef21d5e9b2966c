import EditHistory.Proofs.Command.Reading
import EditHistory.Proofs.Steps
import EditHistory.Revision.Payload

/-!
# What a batch of revisions stands for

A payload stands for a revision or for none, and so does an entry of a changelog at its place; this says which, field
by field, without saying how it is found out.  A batch is one of four shapes, which share their keys: whoever has a
list `revisions` is not asked for a changelog, a `changelog` counts as one only if it is a list, and an object that has
neither is a payload itself, the changelog of which may be an object.  In every shape the parts are read in turn, so
the revisions are those of all parts, in order, or the error is that of the first part that stands for none.

## Main definitions

* `Value.IsPayloadOf`, `Value.IsEntryOf` — the revision that a payload or an entry stands for
* `Revision.Gives` — what a batch gives

## Main statements

* `Revision.outcome_read_iff`, `Revision.outcome_readEntry_iff` — one part of a batch
* `Revision.outcome_readBatch` — a batch of any shape
-/

namespace EditHistory

namespace Value

/-! ### Payloads -/

/-- The object has an id: a text that is not empty, or an integer, which is written out. -/
def HasId (v : Value) (id : String) : Prop :=
  (v.get? "revisionId" = some (.str id) ∧ id ≠ "") ∨ ∃ n, v.get? "revisionId" = some (.int n) ∧ id = showInt n

/-- The changelog of the object is an object and has changes, whatever they are. -/
def HasInnerChanges (v changes : Value) : Prop :=
  ∃ fields, v.get? "changelog" = some (.object fields) ∧ lookup? fields "changes" = some changes

/-- The object has a list of changes.  Those beside the changelog count only if there are none inside. -/
def HasChanges (v : Value) (changes : List Value) : Prop :=
  v.HasInnerChanges (.list changes) ∨
    (∀ inner, ¬ v.HasInnerChanges inner) ∧ v.get? "changes" = some (.list changes)

/-- **The revision that a payload stands for.**  Its commands are those of the changes that are commands, in order; a
change without a time of its own has that of the revision. -/
structure IsPayloadOf (v : Value) (r : Revision) : Prop where
  id : v.HasId r.id
  time : ∃ w, v.get? "timestamp" = some w ∧ w.IsTime r.timestamp
  commands : ∃ changes, v.HasChanges changes ∧
    r.commands = changes.filterMap fun change => (Command.read r.timestamp change).command
  snapshot : ∀ text, r.snapshot = some text ↔ ∃ s, v.get? "snapshot" = some (.str s) ∧ text = s.toList

/-! ### Entries of a changelog -/

/-- **The revision that an entry stands for**, which is a list of a change, a time and perhaps more: the fourth item is
the id, whatever it is, and without it the place of the entry. -/
structure IsEntryOf (v : Value) (place : Nat) (r : Revision) : Prop where
  items : ∃ change time more, v = .list (change :: time :: more) ∧ time.IsTime r.timestamp ∧
    r.id = ((more[1]?).map text).getD (showNat place) ∧
    r.commands = (Command.read r.timestamp change).command.toList
  snapshot : r.snapshot = none

/-! ### The fields of a payload -/

theorem readId?_eq_some_iff {v : Value} {id : String} : Payload.readId? v = some id ↔ v.HasId id := by
  unfold Payload.readId? HasId
  cases v.get? "revisionId" with
  | none => simp
  | some w =>
      cases w with
      | int n => simp [eq_comm]
      | str s =>
          by_cases empty : s = ""
          · simp only [empty, if_true, reduceCtorEq, Option.some.injEq, Value.str.injEq, false_and, exists_false,
              or_false, false_iff, not_and, not_not]
            exact Eq.symm
          · simp only [empty, if_false, Option.some.injEq, Value.str.injEq, reduceCtorEq, false_and, exists_false,
              or_false]
            constructor
            · rintro rfl
              exact ⟨rfl, empty⟩
            · exact And.left
      | _ => simp

theorem bind_changes_eq_some_iff {v changes : Value} :
    ((v.get? "changelog").bind fun changelog => changelog.get? "changes") = some changes ↔
      v.HasInnerChanges changes := by
  unfold HasInnerChanges
  rw [Option.bind_eq_some_iff]
  constructor
  · rintro ⟨changelog, found, inner⟩
    cases changelog with
    | object fields => exact ⟨fields, found, inner⟩
    | _ => cases inner
  · rintro ⟨fields, found, inner⟩
    exact ⟨.object fields, found, inner⟩

theorem readChanges_eq_ok_iff {v : Value} {changes : List Value} :
    Payload.readChanges v = .ok changes ↔ v.HasChanges changes := by
  unfold Payload.readChanges HasChanges
  simp only [← bind_changes_eq_some_iff]
  cases (v.get? "changelog").bind fun changelog => changelog.get? "changes" with
  | some inner => cases inner <;> simp
  | none =>
      cases v.get? "changes" with
      | none => simp
      | some outer => cases outer <;> simp

theorem readSnapshot?_eq_some_iff {v : Value} {text : List Char} :
    Payload.readSnapshot? v = some text ↔ ∃ s, v.get? "snapshot" = some (.str s) ∧ text = s.toList := by
  unfold Payload.readSnapshot?
  cases v.get? "snapshot" with
  | none => simp
  | some w => cases w <;> simp [eq_comm]

end Value

/-- The parts of a payload are those that it has. -/
theorem Payload.read_eq_ok_iff {v : Value} {p : Payload} :
    Payload.read v = .ok p ↔ v.HasId p.id ∧ (∃ w, v.get? "timestamp" = some w ∧ w.IsTime p.timestamp) ∧
      v.HasChanges p.changes ∧ Payload.readSnapshot? v = p.snapshot := by
  simp only [← Value.readId?_eq_some_iff, ← Value.timestamp?_eq_some_iff, ← Value.readChanges_eq_ok_iff,
    ← Option.bind_eq_some_iff]
  cases v with
  | object fields =>
      obtain ⟨id, timestamp, changes, snapshot⟩ := p
      unfold Payload.read
      cases Payload.readId? (.object fields) with
      | none => simp
      | some id =>
          cases ((Value.object fields).get? "timestamp").bind Value.timestamp? with
          | none => simp
          | some timestamp => cases Payload.readChanges (.object fields) <;> simp [Except.map]
  | _ => simp [Payload.read, Payload.readId?, Value.get?]

namespace Revision

/-- **A payload is read as the revision that it stands for**, and fails just if there is none. -/
theorem outcome_read_iff {payload : Value} {r : Revision} :
    (read payload).outcome = .ok r ↔ payload.IsPayloadOf r := by
  have parts : (read payload).outcome = .ok r ↔ ∃ p, Payload.read payload = .ok p ∧ p.revision = r := by
    unfold read
    cases Payload.read payload with
    | error e => simp
    | ok p => simp
  have commands (p : Payload) :
      p.revision.commands = p.changes.filterMap fun change => (Command.read p.timestamp change).command := by
    rw [Payload.revision, Payload.readings, Command.readItems_eq_map, List.filterMap_map]
    rfl
  rw [parts]
  constructor
  · rintro ⟨p, read, rfl⟩
    obtain ⟨id, time, changes, snapshot⟩ := Payload.read_eq_ok_iff.mp read
    refine ⟨id, time, ⟨p.changes, changes, commands p⟩, fun text => ?_⟩
    rw [← Value.readSnapshot?_eq_some_iff, snapshot]
    rfl
  · rintro ⟨id, time, ⟨changes, listed, same⟩, snapshot⟩
    have recorded : Payload.readSnapshot? payload = r.snapshot := by
      refine Option.ext fun text => ?_
      rw [Value.readSnapshot?_eq_some_iff, snapshot]
    refine ⟨⟨r.id, r.timestamp, changes, r.snapshot⟩, Payload.read_eq_ok_iff.mpr ⟨id, time, listed, recorded⟩, ?_⟩
    have given := (commands ⟨r.id, r.timestamp, changes, r.snapshot⟩).trans same.symm
    exact congrArg (Revision.mk r.id r.timestamp · r.snapshot) given

/-- **An entry is read as the revision that it stands for** at its place, and fails just if there is none. -/
theorem outcome_readEntry_iff {place : Nat} {entry : Value} {r : Revision} :
    (readEntry place entry).outcome = .ok r ↔ entry.IsEntryOf place r := by
  have id (change time : Value) (more : List Value) :
      entryId (change :: time :: more) place = ((more[1]?).map Value.text).getD (showNat place) := by
    unfold entryId
    rw [List.getElem?_cons_succ, List.getElem?_cons_succ]
    cases more[1]? <;> rfl
  constructor
  · intro read
    unfold readEntry at read
    split at read
    · rename_i change time more
      split at read
      · cases read
      · rename_i timestamp timed
        cases read
        exact ⟨⟨change, time, more, rfl, Value.timestamp?_eq_some_iff.mp timed, id change time more, rfl⟩, rfl⟩
    · cases read
  · rintro ⟨⟨change, time, more, rfl, timed, named, commands⟩, recorded⟩
    simp only [readEntry, Value.timestamp?_eq_some_iff.mpr timed, id]
    rw [← named, ← commands, ← recorded]

/-! ### Batches -/

theorem inTurn_readAll (payloads : List Value) :
    InTurn (payloads.map fun payload => (read payload).outcome) (readAll payloads).outcome := by
  induction payloads with
  | nil => exact .done []
  | cons payload payloads ih =>
      rw [readAll, List.map_cons, Noted.outcome_bind]
      cases (read payload).outcome with
      | error e => exact .cons_error e _
      | ok revision =>
          rw [Except.bind, Noted.outcome_bind]
          exact ih.cons_ok revision

theorem inTurn_readEntriesFrom (place : Nat) (entries : List Value) :
    InTurn (entries.mapIdx fun i entry => (readEntry (place + i) entry).outcome)
      (readEntriesFrom place entries).outcome := by
  induction entries generalizing place with
  | nil => exact .done []
  | cons entry entries ih =>
      have next (i : Nat) : place + 1 + i = place + (i + 1) := by omega
      have later := ih (place + 1)
      simp only [next] at later
      rw [readEntriesFrom, List.mapIdx_cons, Nat.add_zero, Noted.outcome_bind]
      cases (readEntry place entry).outcome with
      | error e => exact .cons_error e _
      | ok revision =>
          rw [Except.bind, Noted.outcome_bind]
          exact later.cons_ok revision

/-- **What a batch gives**, which depends on its shape. -/
inductive Gives : Value → Except PayloadError (List Revision) → Prop
  /-- A list is one of payloads. -/
  | list {payloads : List Value} {outcome : Except PayloadError (List Revision)}
      (parts : InTurn (payloads.map fun payload => (read payload).outcome) outcome) :
      Gives (.list payloads) outcome
  /-- An object may have a list of payloads. -/
  | revisions {raw : Value} {payloads : List Value} {outcome : Except PayloadError (List Revision)}
      (listed : raw.get? "revisions" = some (.list payloads))
      (parts : InTurn (payloads.map fun payload => (read payload).outcome) outcome) : Gives raw outcome
  /-- Without one it may have a list of entries, the places of which are counted from one. -/
  | changelog {raw : Value} {entries : List Value} {outcome : Except PayloadError (List Revision)}
      (unlisted : ∀ payloads, raw.get? "revisions" ≠ some (.list payloads))
      (listed : raw.get? "changelog" = some (.list entries))
      (parts : InTurn (entries.mapIdx fun i entry => (readEntry (1 + i) entry).outcome) outcome) : Gives raw outcome
  /-- Without either it is a payload. -/
  | payload {fields : List (String × Value)} {outcome : Except PayloadError (List Revision)}
      (unlisted : ∀ payloads, (Value.object fields).get? "revisions" ≠ some (.list payloads))
      (unlisted' : ∀ entries, (Value.object fields).get? "changelog" ≠ some (.list entries))
      (parts : InTurn [(read (.object fields)).outcome] outcome) : Gives (.object fields) outcome
  /-- What is neither a list nor an object is no batch. -/
  | none {raw : Value} (notAList : ∀ items, raw ≠ .list items) (notAnObject : ∀ fields, raw ≠ .object fields) :
      Gives raw (.error (.notABatch raw.kindName))

/-- The outcome of reading a batch is what the batch gives, and nothing else. -/
theorem outcome_readBatch_iff {raw : Value} {outcome : Except PayloadError (List Revision)} :
    (readBatch raw).outcome = outcome ↔ Gives raw outcome := by
  constructor
  · rintro rfl
    cases raw with
    | list payloads => exact .list (inTurn_readAll payloads)
    | object fields =>
        simp only [readBatch]
        split
        next payloads listed => exact .revisions listed (inTurn_readAll payloads)
        next entries listed unlisted => exact .changelog unlisted listed (inTurn_readEntriesFrom 1 entries)
        next unlisted unlisted' =>
          exact .payload unlisted unlisted' (inTurn_readAll [.object fields])
    | _ => exact .none nofun nofun
  · intro gives
    -- The keys that a shape needs are there in no other shape.
    cases gives with
    | @list payloads _ parts => exact (inTurn_readAll payloads).unique parts
    | @revisions _ payloads _ listed parts =>
        cases raw with
        | object fields =>
            simp only [readBatch, listed]
            exact (inTurn_readAll payloads).unique parts
        | _ => cases listed
    | @changelog _ entries _ unlisted listed parts =>
        cases raw with
        | object fields =>
            simp only [readBatch, listed]
            exact (inTurn_readEntriesFrom 1 entries).unique parts
        | _ => cases listed
    | @payload fields _ unlisted unlisted' parts =>
        simp only [readBatch]
        exact (inTurn_readAll [.object fields]).unique parts
    | none notAList notAnObject =>
        cases raw with
        | list items => exact absurd rfl (notAList items)
        | object fields => exact absurd rfl (notAnObject fields)
        | _ => rfl

/-! ### What is read is real -/

/-- **A batch of any shape** gives the revisions of its parts or the error of the first part that has none, and its
parts are read as what they stand for. -/
theorem outcome_readBatch (raw : Value) :
    (∀ outcome, (readBatch raw).outcome = outcome ↔ Gives raw outcome) ∧
      (∀ payload r, (read payload).outcome = .ok r ↔ payload.IsPayloadOf r) ∧
      (∀ place entry r, (readEntry place entry).outcome = .ok r ↔ entry.IsEntryOf place r) :=
  ⟨fun _ => outcome_readBatch_iff, fun _ _ => outcome_read_iff, fun _ _ _ => outcome_readEntry_iff⟩

end Revision

end EditHistory
