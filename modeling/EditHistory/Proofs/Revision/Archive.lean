import EditHistory.Proofs.Files.Names
import EditHistory.Proofs.Json.Limit
import EditHistory.Proofs.Text.Utf8
import EditHistory.Revision.Archive

/-!
# What can be wrong with a file of revisions

Whatever a file holds, reading it ends with revisions or with an error.  The error is one about revisions unless the
bytes of the file are no text at all, or its text has an integer with more digits than are converted; in these two
cases it comes from the reading of text or of numbers.

## Main statements

* `Revision.readFile_eq_error` — where the errors of a file come from
* `Revision.outcome_load_eq_undecodable_iff` — the files whose bytes are no text
* `Revision.outcome_load` — how reading a file can end
-/

namespace EditHistory

open Json

namespace Files

/-- Text cannot be decoded from a file just if the file is there and its bytes are not those of a text. -/
theorem readText_eq_undecodable_iff {files : Files} {path : Path} :
    files.readText path = .error .undecodable ↔ ∃ bytes, files.read path = .ok bytes ∧ ∀ cs, bytes ≠ Text.utf8 cs := by
  unfold readText
  cases read : files.read path with
  | error fault => simp
  | ok bytes =>
      cases decoded : Text.decodeUtf8? bytes with
      | none =>
          have noText (cs : List Char) : bytes ≠ Text.utf8 cs := by
            intro same
            rw [Text.decodeUtf8?_eq_some_iff.mpr same] at decoded
            cases decoded
          simpa [decoded] using noText
      | some cs =>
          have isText := Text.decodeUtf8?_eq_some_iff.mp decoded
          simp only [decoded, reduceCtorEq, false_iff]
          rintro ⟨_, ⟨⟩, noText⟩
          exact noText cs isText

theorem readText_ne_nul {files : Files} {path : Path} (named : path.hasNul = false) :
    files.readText path ≠ .error (.fault .nul) := by
  have located : files.locate path ≠ .error .nul := locate_ne_nul named
  unfold readText Files.read
  cases found : files.locate path with
  | error fault =>
      rintro ⟨⟩
      exact located found
  | ok there =>
      obtain ⟨place, bytes | _⟩ := there
      · cases decoded : Text.decodeUtf8? bytes <;> simp [decoded]
      · nofun

end Files

namespace Revision

/-- Where the errors of a file come from: from getting at its text, or from taking that as JSON. -/
theorem readFile_eq_error {files : Files} {path : Path} {error : ArchiveError}
    (failed : readFile files path = .error error) :
    (error = .nul ∧ files.readText path = .error (.fault .nul)) ∨
      (∃ fault, error = .unreadable path fault ∧ files.readText path = .error (.fault fault)) ∨
      (error = .undecodable ∧ files.readText path = .error .undecodable) ∨
      ∃ cs e, files.readText path = .ok cs ∧ parse (dropGuard cs) = .error e ∧
        error = if e.fault.isSyntactic then .notJson path e else .integerTooLong e := by
  unfold readFile at failed
  split at failed
  · rename_i content
    exact Or.inl ⟨(Except.error.inj failed).symm, content⟩
  · rename_i fault _ content
    exact Or.inr (Or.inl ⟨fault, (Except.error.inj failed).symm, content⟩)
  · rename_i content
    exact Or.inr (Or.inr (Or.inl ⟨(Except.error.inj failed).symm, content⟩))
  · rename_i cs content
    split at failed
    · cases failed
    · rename_i e refused
      exact Or.inr (Or.inr (Or.inr ⟨cs, e, content, refused, (Except.error.inj failed).symm⟩))

/-- The error of a batch is one about revisions. -/
theorem isExpected_of_readBatchOf {v : Value} {error : ArchiveError}
    (failed : (readBatchOf v).outcome = .error error) : error.isExpected = true := by
  change (readBatch v).outcome.mapError .unusable = .error error at failed
  cases batch : (readBatch v).outcome with
  | ok revisions =>
      rw [batch] at failed
      cases failed
  | error fault =>
      rw [batch] at failed
      obtain rfl := Except.error.inj failed
      rfl

theorem outcome_load_eq (files : Files) (path : Path) :
    (load files path).outcome = (readFile files path).bind fun v => (readBatchOf v).outcome := by
  rw [load, Noted.outcome_bind, Noted.outcome_ofExcept]

/-- The files whose bytes are no text. -/
theorem outcome_load_eq_undecodable_iff {files : Files} {path : Path} :
    (load files path).outcome = .error .undecodable ↔
      ∃ bytes, files.read path = .ok bytes ∧ ∀ cs, bytes ≠ Text.utf8 cs := by
  rw [← Files.readText_eq_undecodable_iff, outcome_load_eq]
  constructor
  · intro failed
    cases content : readFile files path with
    | ok v =>
        rw [content] at failed
        cases isExpected_of_readBatchOf failed
    | error error =>
        rw [content] at failed
        obtain rfl := Except.error.inj failed
        rcases readFile_eq_error content with ⟨⟨⟩, -⟩ | ⟨fault, ⟨⟩, -⟩ | ⟨-, undecodable⟩ | ⟨cs, e, -, -, same⟩
        · exact undecodable
        · split at same <;> cases same
  · intro undecodable
    rw [readFile, undecodable]
    rfl

/-- **How reading a file of revisions can end**, whatever the file holds and whether it is there or not: with
revisions, with an error about revisions, or with one of two others, the first of which says that the bytes of the
file are no text, and the second that its text has an integer that is too long. -/
theorem outcome_load (files : Files) {path : Path} (named : path.hasNul = false) :
    (∃ revisions, (load files path).outcome = .ok revisions) ∨
      (∃ error, (load files path).outcome = .error error ∧ error.isExpected) ∨
      ((load files path).outcome = .error .undecodable ∧
        ∃ bytes, files.read path = .ok bytes ∧ ∀ cs, bytes ≠ Text.utf8 cs) ∨
      ∃ error, (load files path).outcome = .error (.integerTooLong error) ∧
        ∃ cs, files.readText path = .ok cs ∧ HasLongInteger cs := by
  cases content : readFile files path with
  | ok v =>
      have batch : (load files path).outcome = (readBatchOf v).outcome := by
        rw [outcome_load_eq, content]
        rfl
      cases read : (readBatchOf v).outcome with
      | ok revisions => exact Or.inl ⟨revisions, batch.trans read⟩
      | error error => exact Or.inr (Or.inl ⟨error, batch.trans read, isExpected_of_readBatchOf read⟩)
  | error error =>
      have failed : (load files path).outcome = .error error := by
        rw [outcome_load_eq, content]
        rfl
      refine Or.inr ?_
      rcases readFile_eq_error content with ⟨-, nul⟩ | ⟨fault, rfl, -⟩ | ⟨rfl, -⟩ | ⟨cs, e, text, refused, rfl⟩
      · exact absurd nul (Files.readText_ne_nul named)
      · exact Or.inl ⟨_, failed, rfl⟩
      · exact Or.inr (Or.inl ⟨failed, outcome_load_eq_undecodable_iff.mp failed⟩)
      · cases blamed : e.fault.isSyntactic with
        | true =>
            rw [blamed] at failed
            exact Or.inl ⟨_, failed, rfl⟩
        | false =>
            rw [blamed] at failed
            have long := hasLongInteger_of_parse refused blamed
            exact Or.inr (Or.inr ⟨e, failed, cs, text, long.of_part (dropGuard_suffix cs).isInfix⟩)

/-- A tree with a file that has a byte which no text has. -/
def brokenFiles : Files :=
  ⟨[(["revs.json"], .file [0x5b, 0x22, 0xff, 0x22, 0x5d])]⟩

theorem outcome_load_of_broken :
    (load brokenFiles ⟨false, ["revs.json"]⟩).outcome = .error .undecodable ∧
      ∃ bytes, brokenFiles.read ⟨false, ["revs.json"]⟩ = .ok bytes ∧ ∀ cs, bytes ≠ Text.utf8 cs := by
  have ended : (load brokenFiles ⟨false, ["revs.json"]⟩).outcome = .error .undecodable := rfl
  have sound : Path.hasNul ⟨false, ["revs.json"]⟩ = false := by decide
  rcases outcome_load brokenFiles sound with
    ⟨revisions, read⟩ | ⟨error, failed, expected⟩ | undecodable | ⟨error, long, -⟩
  · cases ended.symm.trans read
  · cases ended.symm.trans failed
    cases expected
  · exact undecodable
  · cases ended.symm.trans long

end Revision

end EditHistory
