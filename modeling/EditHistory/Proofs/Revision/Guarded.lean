import EditHistory.Proofs.Docs.Requests
import EditHistory.Proofs.Files
import EditHistory.Proofs.Json.Guard
import EditHistory.Proofs.Revision.Archive

/-!
# Revisions behind a guard

The guard may stand before the revisions of a file and before a part of the edit log that a service answers with.  In
both places it shows neither in what is read nor in why nothing is read.  A file has its line ends unified before the
guard is looked for, and an answer has not, so the two are read in different ways.

## Main definitions

* `ArchiveError.told` — what is told of an error

## Main statements

* `guard_unobservable` — a guard does not show
-/

namespace EditHistory

open Text

/-! ### Files -/

/-- What is told of an error: whether it is one about revisions, and its wording. -/
def ArchiveError.told (e : ArchiveError) : Bool × String :=
  (e.isExpected, e.message)

namespace Revision

/-- The error for a file whose text is refused. -/
def refusal (path : Path) (e : Json.Error) : ArchiveError :=
  if e.fault.isSyntactic then .notJson path e else .integerTooLong e

theorem load_of_readText {files : Files} {path : Path} {text : List Char} (content : files.readText path = .ok text) :
    load files path =
      Noted.ofExcept ((Json.parse (Json.dropGuard text)).mapError (refusal path)) >>= readBatchOf := by
  unfold load readFile
  simp only [content]
  cases Json.parse (Json.dropGuard text) <;> rfl

/-- Files that are read alike give the same revisions with the same records, or errors of which the same is told. -/
theorem told_load_of_alike {files files' : Files} {path path' : Path} {text text' : List Char}
    (content : files.readText path = .ok text) (content' : files'.readText path' = .ok text')
    (alike : Json.Alike (Json.parse (Json.dropGuard text')) (Json.parse (Json.dropGuard text))) :
    (load files' path').log = (load files path).log ∧
      (load files' path').outcome.mapError ArchiveError.told =
        (load files path).outcome.mapError ArchiveError.told := by
  rw [load_of_readText content, load_of_readText content']
  generalize Json.parse (Json.dropGuard text') = x at alike ⊢
  generalize Json.parse (Json.dropGuard text) = y at alike ⊢
  cases alike with
  | value v => exact ⟨rfl, rfl⟩
  | @unplaced e e' same unplaced =>
      have wording := Json.message_of_unplaced same unplaced
      refine ⟨rfl, ?_⟩
      simp only [Noted.outcome_bind, Noted.outcome_ofExcept, Except.mapError, Except.bind, refusal, same, unplaced,
        Bool.false_eq_true, if_false, ArchiveError.told, ArchiveError.isExpected, ArchiveError.message, wording]

end Revision

/-! ### Answers -/

namespace Docs.Client

/-- What the answer to a question for a part of the edit log gives. -/
theorem outcome_revisionData_of_get {client : Client} {doc : String} {start stop : Int} {s : Session} {r : Web.Response}
    (answered : (client.get (logUrl doc) (rangeQuery doc start stop) [start, stop] s).outcome = .ok r) :
    (client.revisionData doc start stop s).outcome =
      (readLog r).mapError fun e => .failed r.status ("Malformed revision data: " ++ e.message) := by
  refine comesTo_revisionData_of_get (Q := fun o _ => o = _) ?_
  unfold Action.ComesTo
  rw [answered]
  rfl

end Docs.Client

open Docs

/-- **A guard does not show**: a file with a guard before a JSON text gives the same revisions as one without it, or an
error of which the same is told, and an answer with a part of the edit log is read in the same way.  A JSON text without
a guard is left alone. -/
theorem guard_unobservable {before after text : List Char} (blankBefore : ∀ c ∈ before, isBlank c = true)
    (blankAfter : ∀ c ∈ after, isBlank c = true) (valid : Json.IsText text) :
    Json.dropGuard text = text ∧
    (∀ (files guarded : Files) (path path' : Path), files.read path = .ok (utf8 text) →
      guarded.read path' = .ok (utf8 (before ++ Json.guardMark ++ after ++ text)) →
      (Revision.load guarded path').log = (Revision.load files path).log ∧
        (Revision.load guarded path').outcome.mapError ArchiveError.told =
          (Revision.load files path).outcome.mapError ArchiveError.told) ∧
    ∀ (client : Client) (doc : String) (start stop : Int) (status : Nat) (s s' : Session),
      (client.get (logUrl doc) (Client.rangeQuery doc start stop) [start, stop] s).outcome = .ok ⟨status, text⟩ →
      (client.get (logUrl doc) (Client.rangeQuery doc start stop) [start, stop] s').outcome =
        .ok ⟨status, before ++ Json.guardMark ++ after ++ text⟩ →
      (client.revisionData doc start stop s').outcome = (client.revisionData doc start stop s).outcome := by
  refine ⟨valid.dropGuard_eq, ?_, ?_⟩
  · intro files guarded path path' read read'
    exact Revision.told_load_of_alike (Files.readText_of_read read) (Files.readText_of_read read')
      (Json.alike_unifyLineEnds_guarded blankBefore blankAfter valid)
  · intro client doc start stop status s s' answered answered'
    rw [Client.outcome_revisionData_of_get answered, Client.outcome_revisionData_of_get answered']
    exact (Json.alike_guarded blankBefore blankAfter valid).mapError_message
      fun message => Error.failed status ("Malformed revision data: " ++ message)

/-- A changelog with line ends of all kinds between its tokens, in which a command inserts the guard. -/
def guardChangelog : List Char :=
  "\n\x7b\"changelog\": [\r\n [\x7b\"ty\": \"is\", \"s\": \")]\x7d'\", \"ibi\": 1\x7d, 5]\r]\x7d".toList

/-- The same changelog behind the guard, with blanks that JSON does not know. -/
def guardedChangelog : List Char :=
  ['\u2003', '\r'] ++ Json.guardMark ++ ['\u00a0', '\r'] ++ guardChangelog

/-- A tree with one file. -/
def singleFile (text : List Char) : Files :=
  ⟨[(["revs.json"], .file (utf8 text))]⟩

theorem read_singleFile (text : List Char) : (singleFile text).read ⟨false, ["revs.json"]⟩ = .ok (utf8 text) := rfl

/-- A session with a service that gives one answer to every request. -/
def answering (text : List Char) : Session :=
  .begin (fun _ _ => .response ⟨200, text⟩) .empty (.int 0)

theorem outcome_get_answering (text : List Char) :
    (tokenClient.get (logUrl "doc-1") (Client.rangeQuery "doc-1" 1 5) [1, 5] (answering text)).outcome =
      .ok ⟨200, text⟩ := by
  have addressable : IsAddressable "doc-1" := IsPlainId.isAddressable ⟨List.all_eq_true.mp (by decide), by decide⟩
  have short (n : Nat) (small : n < 10 ^ 4) : isTooLong n = false := isTooLong_natCast (lt_indexLimit_of_lt small)
  have low := short 1 (by decide)
  have high := short 5 (by decide)
  have connected : (answering text).server = (answering text).server ∧ (answering text).closed = false := ⟨rfl, rfl⟩
  have written : ∀ n ∈ [(1 : Int), 5], isTooLong n = false := by
    rintro n (_ | ⟨_, _ | ⟨_, ⟨⟩⟩⟩)
    · exact low
    · exact high
  have comes := comesTo_get (tokenClient_ready (answering text).server) addressable.sendable written
    (addressable.fits 1 5 low high) connected
  obtain ⟨answer, ⟨token, -, rfl, -⟩, outcome⟩ := comes
  exact outcome

theorem isText_guardChangelog : Json.IsText guardChangelog := by
  have accepted : (Json.parse guardChangelog).isOk = true := by decide +kernel
  cases read : Json.parse guardChangelog with
  | ok v => exact Json.isText_of_parse read
  | error e =>
      rw [read] at accepted
      cases accepted

theorem guard_unobservable_of_changelog :
    (∀ c ∈ ['\u2003', '\r'], isBlank c = true) ∧ (∀ c ∈ ['\u00a0', '\r'], isBlank c = true) ∧
      Json.IsText guardChangelog ∧ Json.dropGuard guardChangelog = guardChangelog ∧
      (Revision.load (singleFile guardedChangelog) ⟨false, ["revs.json"]⟩).outcome.mapError ArchiveError.told =
        (Revision.load (singleFile guardChangelog) ⟨false, ["revs.json"]⟩).outcome.mapError ArchiveError.told ∧
      (tokenClient.revisionData "doc-1" 1 5 (answering guardedChangelog)).outcome =
        (tokenClient.revisionData "doc-1" 1 5 (answering guardChangelog)).outcome := by
  have blankBefore : ∀ c ∈ ['\u2003', '\r'], isBlank c = true := List.all_eq_true.mp (by decide)
  have blankAfter : ∀ c ∈ ['\u00a0', '\r'], isBlank c = true := List.all_eq_true.mp (by decide)
  obtain ⟨kept, filed, answered⟩ := guard_unobservable blankBefore blankAfter isText_guardChangelog
  have whole : ['\u2003', '\r'] ++ Json.guardMark ++ ['\u00a0', '\r'] ++ guardChangelog = guardedChangelog := rfl
  rw [whole] at filed answered
  refine ⟨blankBefore, blankAfter, isText_guardChangelog, kept, ?_, ?_⟩
  · exact (filed (singleFile guardChangelog) (singleFile guardedChangelog) _ _ (read_singleFile guardChangelog)
      (read_singleFile guardedChangelog)).2
  · exact answered tokenClient "doc-1" 1 5 200 (answering guardChangelog) (answering guardedChangelog)
      (outcome_get_answering guardChangelog) (outcome_get_answering guardedChangelog)

end EditHistory
