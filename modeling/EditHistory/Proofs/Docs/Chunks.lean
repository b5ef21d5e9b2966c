import EditHistory.Proofs.Docs.Search
import EditHistory.Proofs.Json.Guard

/-!
# The log in chunks

A service that has the log of a document gives any part of it, and the whole log is asked for in parts of one size.
The parts follow one another without a gap and without an overlap, so together they are the log, whatever their size.

## Main definitions

* `slice` — a part of a log
* `chunkRanges` — the parts that are asked for
* `ServesLog` — a service that has the log of a document

## Main statements

* `flatMap_slice_chunkRanges` — the parts make up the log
* `Client.ensures_allRevisionData` — what is had of the log, for every size of the chunks
-/

namespace EditHistory.Docs

open Web Client

/-! ### Parts of a log -/

/-- The entries from `start` to `stop`, both counted from one. -/
def slice {α : Type} (entries : List α) (start stop : Nat) : List α :=
  (entries.take stop).drop (start - 1)

/-- The ranges of `size` indices from `start` to `last`, at most `fuel` of them; the last one may be shorter. -/
def chunkRanges (size last : Nat) : Nat → Nat → List (Nat × Nat)
  | 0, _ => []
  | fuel + 1, start =>
    if start ≤ last then (start, min (start + size - 1) last) :: chunkRanges size last fuel (start + size) else []

/-- A part of a log and what comes after it. -/
theorem slice_append_drop {α : Type} (entries : List α) {start stop : Nat} (ordered : start ≤ stop) :
    slice entries start stop ++ entries.drop stop = entries.drop (start - 1) := by
  have apart : entries.drop stop = (entries.drop (start - 1)).drop (stop - (start - 1)) := by
    rw [List.drop_drop]
    congr 1
    omega
  rw [slice, List.drop_take, apart, List.take_append_drop]

/-- **The parts make up the log**, from where the first of them starts. -/
theorem flatMap_slice_chunkRanges {α : Type} (entries : List α) {size : Nat} (positive : 1 ≤ size) {fuel start : Nat}
    (counted : 1 ≤ start) (enough : entries.length + 1 ≤ fuel + start) :
    ((chunkRanges size entries.length fuel start).flatMap fun range => slice entries range.1 range.2) =
      entries.drop (start - 1) := by
  induction fuel generalizing start with
  | zero => exact (List.drop_eq_nil_of_le (by omega)).symm
  | succ fuel ih =>
      unfold chunkRanges
      split
      · rename_i inside
        have rest := @ih (start + size) (by omega) (by omega)
        have first : slice entries start (min (start + size - 1) entries.length) =
            slice entries start (start + size - 1) := by
          unfold slice
          rw [← List.take_take, List.take_length]
        rw [List.flatMap_cons, rest, first]
        exact slice_append_drop entries (by omega)
      · exact (List.drop_eq_nil_of_le (by omega)).symm

/-! ### Asking for the parts -/

variable {client : Client} {I : Session → Prop} {doc : String}

/-- If every part can be had, the chunks are the parts. -/
theorem Client.ensures_fetchChunks {size last : Nat} (positive : 1 ≤ size) {data : Nat → Nat → Value}
    (asked : ∀ start stop : Nat, 1 ≤ start → start ≤ stop → stop ≤ last →
      Action.Ensures I (client.revisionData doc start stop) (· = .ok (data start stop)))
    (paused : ∀ s pauses, I s → I { s with pauses }) (delay : Value) {fuel start : Nat} (counted : 1 ≤ start) :
    Action.Ensures I (client.fetchChunks doc size delay last fuel start)
      (· = .ok ((chunkRanges size last fuel start).map fun range => data range.1 range.2)) := by
  induction fuel generalizing start with
  | zero => exact Action.ensures_pure []
  | succ fuel ih =>
      unfold fetchChunks chunkRanges
      split
      · refine (asked start _ counted (by omega) (Nat.min_le_right _ _)).andThen ?_
        have rest : Action.Ensures I
            (do
              let chunks ← fetchChunks client doc size delay last fuel (start + size)
              return data start (min (start + size - 1) last) :: chunks)
            (· = .ok (data start (min (start + size - 1) last) ::
              (chunkRanges size last fuel (start + size)).map fun range => data range.1 range.2)) :=
          (ih (by omega)).andThen (Action.ensures_pure _)
        split
        · exact (Action.ensures_modify fun s holds => paused s _ holds).andThen rest
        · exact rest
      · exact Action.ensures_pure []

/-! ### A service that has a log -/

/-- The body of an answer: a JSON text, perhaps behind the guard, with blanks around the guard. -/
structure IsLogBody (body : List Char) (v : Value) : Prop where
  written : ∃ text, Json.parse text = .ok v ∧ (body = text ∨
    ∃ before after, (∀ c ∈ before, Text.isBlank c = true) ∧ (∀ c ∈ after, Text.isBlank c = true) ∧
      body = before ++ Json.guardMark ++ after ++ text)

/-- **A service that has the log of a document.**  A request for a range inside the log is answered by an object whose
`changelog` holds the entries of the range, and one for any other range by the status 400; what was asked before, and
with which token, makes no difference to that. -/
structure ServesLog (server : Server) (doc : String) (entries : List Value) : Prop where
  inside : ∀ earlier token (start stop : Nat), 1 ≤ start → start ≤ stop → stop ≤ entries.length →
    ∃ status body, server earlier (.fetch (logUrl doc) (rangeQuery doc start stop) token) = .response ⟨status, body⟩ ∧
      isSuccess status = true ∧ IsLogBody body (.object [("changelog", .list (slice entries start stop))])
  outside : ∀ earlier token (start stop : Int), ¬(1 ≤ start ∧ start ≤ stop ∧ stop ≤ entries.length) →
    ∃ body, server earlier (.fetch (logUrl doc) (rangeQuery doc start stop) token) = .response ⟨400, body⟩

theorem readLog_of_isLogBody {status : Nat} {body : List Char} {v : Value} (written : IsLogBody body v) :
    readLog ⟨status, body⟩ = .ok v := by
  obtain ⟨text, valid, rfl | ⟨before, after, blankBefore, blankAfter, rfl⟩⟩ := written
  · unfold readLog
    rw [Json.dropGuard_of_valid valid]
    exact valid
  · exact Json.parse_dropGuard_of_guarded blankBefore blankAfter valid

section

variable {server : Server} {entries : List Value}

/-- The part of the log that a range inside it asks for. -/
theorem Client.ensures_revisionData_inside (ready : client.Ready server I) (plain : IsPlainId doc)
    (serves : ServesLog server doc entries) {start stop : Nat} (counted : 1 ≤ start) (ordered : start ≤ stop)
    (inside : stop ≤ entries.length) (countable : stop < indexLimit) :
    Action.Ensures I (client.revisionData doc start stop)
      (· = .ok (.object [("changelog", .list (slice entries start stop))])) := by
  have low : isTooLong start = false := isTooLong_natCast (by omega)
  have high : isTooLong stop = false := isTooLong_natCast countable
  refine (ensures_revisionData ready plain.isAddressable low high).mono ?_
  rintro _ ⟨earlier, token, rfl⟩
  obtain ⟨status, body, answered, success, written⟩ := serves.inside earlier token start stop counted ordered inside
  rw [answered, logOutcome, received, if_pos success, Except.bind, readLog_of_isLogBody written]
  rfl

/-- A single revision can be had just if it is in the log. -/
theorem Client.probes_of_servesLog (ready : client.Ready server I) (plain : IsPlainId doc)
    (serves : ServesLog server doc entries) :
    client.Probes I doc fun index => decide (1 ≤ index ∧ index ≤ entries.length) := by
  refine probes_of_revisionData fun index written => ?_
  by_cases inside : 1 ≤ index ∧ index ≤ entries.length
  · simp only [decide_eq_true inside, if_true]
    refine (ensures_revisionData_inside ready plain serves inside.1 (Nat.le_refl _) inside.2 written).mono ?_
    rintro _ rfl
    exact ⟨_, rfl⟩
  · simp only [decide_eq_false inside, Bool.false_eq_true, if_false]
    have short : isTooLong index = false := isTooLong_natCast written
    refine (ensures_revisionData ready plain.isAddressable short short).mono ?_
    rintro _ ⟨earlier, token, rfl⟩
    obtain ⟨body, answered⟩ := serves.outside earlier token index index (by omega)
    rw [answered]
    exact ⟨_, rfl, rfl⟩

/-- **What is had of the log**, for every size of the chunks: its parts in order, and nothing else. -/
theorem Client.ensures_allRevisionData (ready : client.Ready server I) (plain : IsPlainId doc)
    (serves : ServesLog server doc entries) (countable : 2 * entries.length < indexLimit) {size : Int}
    (positive : 1 ≤ size) (delay : Value) :
    Action.Ensures I (client.allRevisionData doc size delay)
      (· = .ok ((chunkRanges size.toNat entries.length entries.length 1).map fun range =>
        .object [("changelog", .list (slice entries range.1 range.2))])) := by
  have atLeastOne : 1 ≤ size.toNat := by omega
  unfold allRevisionData
  rw [if_neg (by omega)]
  refine (ensures_findMax_of_count countable (probes_of_servesLog ready plain serves)).andThen ?_
  refine (ensures_fetchChunks atLeastOne (fun start stop counted ordered inside =>
    ensures_revisionData_inside ready plain serves counted ordered inside (by omega)) ready.paused delay
    (Nat.le_refl 1)).andThen ?_
  exact (Action.ensures_note _ _).andThen (Action.ensures_pure _)

end

end EditHistory.Docs
