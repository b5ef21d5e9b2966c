import EditHistory.CommandLine.Program
import EditHistory.Proofs.Docs.Chunks
import EditHistory.Proofs.Revision.Changelog

/-!
# A fetched history is the history

The program fetches the log of a document in chunks and reads each chunk by itself.  The search for the last revision,
the ranges of the chunks, the guard before each answer and the reading of the chunks are set apart from one another,
and still nothing is lost or doubled between them: what comes out is what reading the whole log at once would give, be
it a history or an error, for every size of the chunks.

## Main statements

* `Program.outcome_readChunks` — the chunks are read in turn
* `Program.outcome_fetched` — the history that is fetched
-/

namespace EditHistory.CommandLine

open Docs Docs.Client Web

namespace Program

/-- Reading the chunks of a log does not depend on the console. -/
theorem outcome_readChunks (chunks : List Value) (c : Console) :
    (readChunks chunks c).outcome = (Revision.readInTurn chunks).mapError .payload := by
  induction chunks generalizing c with
  | nil => rfl
  | cons chunk chunks ih =>
      rw [readChunks, Revision.readInTurn, Action.bind_apply, Step.outcome_andThen, Action.ofNoted]
      simp only [Action.bind_apply, Step.outcome_andThen, ih]
      cases (Revision.readBatch chunk).outcome with
      | error e => rfl
      | ok revisions => cases Revision.readInTurn chunks <;> rfl

/-- **A fetched history is the history.**  Take a service that has the log of a document, its entries being any values,
of which the lists have at least four items, and a client with a token.  Then fetching the log in chunks of any size and
reading the chunks in turn has the outcome of reading the whole log as one batch: the same revisions in the same order,
or the same error.  The log may have any number of entries, as long as twice that number can be written out. -/
theorem outcome_fetched {doc : String} (plain : IsPlainId doc) {entries : List Value}
    (placeless : ∀ e ∈ entries, Revision.IsPlaceless e)
    (countable : 2 * entries.length < indexLimit) {server : Server} (serves : ServesLog server doc entries)
    {client : Client} {I : Session → Prop} (ready : client.Ready server I) {size : Int} (positive : 1 ≤ size)
    (delay : Value) {c : Console} (holds : I c.session) :
    ((onSession .docs (client.allRevisionData doc size delay) >>= readChunks) c).outcome =
      (Revision.readBatch (.object [("changelog", .list entries)])).outcome.mapError .payload := by
  obtain ⟨fetched, -⟩ := Client.ensures_allRevisionData ready plain serves countable positive delay c.session holds
  have atLeastOne : 1 ≤ size.toNat := by omega
  have whole : ((chunkRanges size.toNat entries.length entries.length 1).map fun range =>
      slice entries range.1 range.2).flatten = entries := by
    rw [← List.flatMap_def]
    exact flatMap_slice_chunkRanges entries atLeastOne (Nat.le_refl 1) (Nat.le_refl _)
  have read := Revision.readInTurn_changelogs _ (whole.symm ▸ placeless)
  rw [whole, List.map_map] at read
  have given : (onSession .docs (client.allRevisionData doc size delay) c).outcome =
      .ok ((chunkRanges size.toNat entries.length entries.length 1).map fun range =>
        .object [("changelog", .list (slice entries range.1 range.2))]) := by
    change (client.allRevisionData doc size delay c.session).outcome.mapError Error.docs = _
    rw [fetched]
    rfl
  rw [Action.bind_apply, Step.outcome_andThen, given]
  exact (outcome_readChunks _ _).trans (congrArg (Except.mapError Error.payload) read)

/-- A log of two entries, an insertion and one that is no list. -/
def smallLog : List Value :=
  [.list [.object [("ty", .str "is"), ("ibi", .int 0), ("s", .str "a")], .int 1, .null, .int 7], .null]

/-- The parts of this log as JSON. -/
def smallText : Nat → Nat → String
  | 1, 1 => "\x7b\"changelog\":[[\x7b\"ty\":\"is\",\"ibi\":0,\"s\":\"a\"\x7d,1,null,7]]\x7d"
  | 2, 2 => "\x7b\"changelog\": [null]\x7d"
  | 1, 2 => " \x7b\"changelog\":[[\x7b\"ty\":\"is\",\"ibi\":0,\"s\":\"a\"\x7d,1,null,7],null]\x7d"
  | _, _ => ""

/-- A service that has this log and puts the guard before its first entry. -/
def smallServer : Server := fun _ request =>
  match request with
  | .submit _ _ => .response ⟨400, []⟩
  | .fetch _ query _ =>
    if query = rangeQuery "doc-1" 1 1 then .response ⟨200, Json.guardMark ++ '\n' :: (smallText 1 1).toList⟩
    else if query = rangeQuery "doc-1" 2 2 then .response ⟨200, (smallText 2 2).toList⟩
    else if query = rangeQuery "doc-1" 1 2 then .response ⟨200, (smallText 1 2).toList⟩
    else .response ⟨400, []⟩

theorem parse_smallText :
    Json.parse (smallText 1 1).toList = .ok (.object [("changelog", .list (slice smallLog 1 1))]) ∧
      Json.parse (smallText 2 2).toList = .ok (.object [("changelog", .list (slice smallLog 2 2))]) ∧
      Json.parse (smallText 1 2).toList = .ok (.object [("changelog", .list (slice smallLog 1 2))]) := by
  simp [smallText, smallLog, slice, Json.parse, Json.parseUnmarked, Json.value, Json.items, Json.fields, Json.string,
    Value.put, Json.skipSpace, Json.isSpace, Json.atom, Json.literals, Text.dropMark?, Json.number?, Json.wholeDigits?,
    Number.takeDigits, Text.asciiDigit?, Json.fraction, Json.exponent?, Number.signed, Text.ofDigits,
    Number.digitLimit, bind, Except.bind, pure, Except.pure]

theorem smallServer_servesLog : ServesLog smallServer "doc-1" smallLog := by
  obtain ⟨first, second, both⟩ := parse_smallText
  constructor
  · intro earlier token start stop counted ordered inside
    have few : smallLog.length = 2 := rfl
    obtain ⟨rfl, rfl⟩ | ⟨rfl, rfl⟩ | ⟨rfl, rfl⟩ :
        start = 1 ∧ stop = 1 ∨ start = 2 ∧ stop = 2 ∨ start = 1 ∧ stop = 2 := by
      omega
    · have guarded : ∀ c ∈ ['\n'], Text.isBlank c = true := List.forall_mem_singleton.mpr rfl
      exact ⟨200, _, by simp [smallServer], rfl, _, first, Or.inr ⟨[], ['\n'], nofun, guarded, rfl⟩⟩
    · exact ⟨200, _, by simp [smallServer, rangeQuery_inj], rfl, _, second, Or.inl rfl⟩
    · exact ⟨200, _, by simp [smallServer, rangeQuery_inj], rfl, _, both, Or.inl rfl⟩
  · intro earlier token start stop outside
    have few : smallLog.length = 2 := rfl
    refine ⟨[], ?_⟩
    simp only [smallServer, rangeQuery_inj]
    rw [if_neg (by omega), if_neg (by omega), if_neg (by omega)]

/-- A client that holds a token. -/
def smallClient : Client := Client.ofCredentials [some (.value (.str "token"))]

/-- A console in the world of the service. -/
def smallConsole : Console := Console.begin (Session.begin smallServer Files.empty (.int 0)) []

theorem outcome_fetched_of_small :
    IsPlainId "doc-1" ∧ (∀ e ∈ smallLog, Revision.IsPlaceless e) ∧ 2 * smallLog.length < indexLimit ∧
      ServesLog smallServer "doc-1" smallLog ∧
      smallClient.Ready smallServer (fun s => s.server = smallServer ∧ s.closed = false) ∧ (1 : Int) ≤ 1 ∧
      (smallConsole.session.server = smallServer ∧ smallConsole.session.closed = false) ∧
      ((onSession .docs (smallClient.allRevisionData "doc-1" 1 chunkPause) >>= readChunks) smallConsole).outcome =
        (Revision.readBatch (.object [("changelog", .list smallLog)])).outcome.mapError .payload := by
  have plain : IsPlainId "doc-1" := ⟨List.all_eq_true.mp (by decide), by decide⟩
  have placeless : ∀ e ∈ smallLog, Revision.IsPlaceless e := by
    simp [smallLog, Revision.IsPlaceless]
  have countable : 2 * smallLog.length < indexLimit := lt_indexLimit_of_lt (by decide)
  have ready : smallClient.Ready smallServer fun s => s.server = smallServer ∧ s.closed = false :=
    Client.ready_ofCredentials (List.cons_ne_nil _ []) (by simp [Credential.text?, Value.truthy, Value.text]) smallServer
  have connected : smallConsole.session.server = smallServer ∧ smallConsole.session.closed = false := ⟨rfl, rfl⟩
  exact ⟨plain, placeless, countable, smallServer_servesLog, ready, Int.le_refl 1, connected,
    outcome_fetched plain placeless countable smallServer_servesLog ready (Int.le_refl 1) chunkPause connected⟩

end Program

end EditHistory.CommandLine
