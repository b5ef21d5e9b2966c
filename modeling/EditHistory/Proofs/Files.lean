import EditHistory.Files
import EditHistory.Proofs.Text.Lines
import EditHistory.Proofs.Text.Utf8

/-!
# Writing a file that is there

A file that is there can be written, and what has been written is read again.

## Main statements

* `Files.follow_set` — setting a file does not change what leads to it
* `Files.readText_writeText` — the text of a file is the one that has been written
-/

namespace EditHistory

namespace Files

theorem entry?_set_same {fs : Files} {place : List String} (free : fs.entry? place ≠ some .dir) (entry : FileEntry) :
    entry? (fs.set place entry) place = some entry := by
  unfold entry? at free ⊢
  split at free
  · exact absurd rfl free
  · rename_i inside
    rw [if_neg inside, set, List.find?_cons_of_pos (by simp), Option.map_some]

/-- Dropping the entries of one place loses none of another. -/
theorem find?_filter_other (entries : List (List String × FileEntry)) {place other : List String}
    (differ : other ≠ place) :
    ((entries.filter fun e => e.1 != place).find? fun e => e.1 == other) = entries.find? fun e => e.1 == other := by
  have same : (fun e : List String × FileEntry => e.1 != place && e.1 == other) = fun e => e.1 == other := by
    funext e
    by_cases here : e.1 = other
    · simp [here, differ]
    · simp [here]
  rw [List.find?_filter]
  simp only [Bool.decide_and, Bool.decide_eq_true, same]

theorem entry?_set_other (fs : Files) {place other : List String} (differ : other ≠ place) (entry : FileEntry) :
    entry? (fs.set place entry) other = fs.entry? other := by
  unfold entry?
  split
  · rfl
  · rw [set, List.find?_cons_of_neg (by simpa using differ.symm), find?_filter_other fs.entries differ]

theorem entry?_erase_other (fs : Files) {place other : List String} (differ : other ≠ place) :
    entry? (fs.erase place) other = fs.entry? other := by
  unfold entry?
  split
  · rfl
  · rw [erase, find?_filter_other fs.entries differ]

theorem entry?_erase_same {fs : Files} {place : List String} (free : fs.entry? place ≠ some .dir) :
    entry? (fs.erase place) place = none := by
  unfold entry? at free ⊢
  split at free
  · exact absurd rfl free
  · rename_i inside
    simp [if_neg inside, erase]

/-- A file to which names lead is an entry. -/
theorem entry?_of_follow {fs : Files} {names : List String} {start place : List String} {bytes : List UInt8}
    (found : fs.follow start names = .ok (place, .file bytes)) : fs.entry? place = some (.file bytes) := by
  induction names generalizing start with
  | nil => cases found
  | cons name rest ih =>
      rw [follow] at found
      split at found
      · exact ih found
      · split at found
        · cases found
        · split at found
          · cases found
          · exact ih found
          · rename_i entry
            split at found
            · obtain ⟨rfl, same⟩ := Prod.mk.inj (Except.ok.inj found)
              rw [entry, same]
            · cases found

/-- Setting a file does not change what leads to it. -/
theorem follow_set {fs : Files} {names : List String} {start place : List String} {bytes : List UInt8}
    (found : fs.follow start names = .ok (place, .file bytes)) (new : List UInt8) :
    (fs.set place (.file new)).follow start names = .ok (place, .file new) := by
  have there := entry?_of_follow found
  induction names generalizing start with
  | nil => cases found
  | cons name rest ih =>
      rw [follow] at found ⊢
      split at found
      · rename_i up
        rw [if_pos up, ih found]
      · rename_i down
        rw [if_neg down]
        split at found
        · cases found
        · rename_i short
          rw [if_neg short]
          cases entry : fs.entry? (start ++ [name]) with
          | none =>
              rw [entry] at found
              cases found
          | some node =>
              rw [entry] at found
              cases node with
              | dir =>
                  have differ : start ++ [name] ≠ place := by
                    rintro rfl
                    cases entry.symm.trans there
                  rw [entry?_set_other fs differ, entry]
                  exact ih found
              | file bytes =>
                  simp only at found
                  split at found
                  · rename_i last
                    obtain ⟨rfl, -⟩ := Prod.mk.inj (Except.ok.inj found)
                    rw [entry?_set_same (by rw [there]; nofun)]
                    exact if_pos last
                  · cases found

/-- The text of a file that holds one, its line ends unified. -/
theorem readText_of_read {fs : Files} {p : Path} {cs : List Char} (read : fs.read p = .ok (Text.utf8 cs)) :
    fs.readText p = .ok (Text.unifyLineEnds cs) := by
  rw [readText, read]
  simp only [Text.decodeUtf8?_utf8]

/-- The place of a file that can be read. -/
theorem locate_of_readText {fs : Files} {p : Path} {cs : List Char} (read : fs.readText p = .ok cs) :
    ∃ place bytes, fs.locate p = .ok (place, .file bytes) := by
  unfold readText Files.read at read
  split at read
  · cases read
  · rename_i found
    split at found
    · rename_i place bytes here
      exact ⟨place, bytes, here⟩
    · cases found
    · cases found

theorem unified_of_readText {fs : Files} {p : Path} {cs : List Char} (read : fs.readText p = .ok cs) : '\r' ∉ cs := by
  unfold readText at read
  split at read
  · cases read
  · split at read
    · cases read
    · exact Except.ok.inj read ▸ Text.unified_unifyLineEnds _

/-- **What is written to a file that is there is read again.** -/
theorem readText_writeText {fs : Files} {p : Path} {place : List String} {bytes : List UInt8}
    (there : fs.locate p = .ok (place, .file bytes)) {cs : List Char} (unified : '\r' ∉ cs) :
    ∃ written, fs.writeText p cs = .ok written ∧ written.locate p = .ok (place, .file (Text.utf8 cs)) ∧
      written.readText p = .ok cs := by
  have located : (fs.set place (.file (Text.utf8 cs))).locate p = .ok (place, .file (Text.utf8 cs)) := by
    unfold locate at there ⊢
    split at there
    · cases there
    · rename_i named
      rw [if_neg named]
      exact follow_set there _
  refine ⟨_, ?_, located, ?_⟩
  · rw [writeText, write, placeFor, there]
    rfl
  · rw [readText_of_read (by rw [Files.read, located]), Text.unifyLineEnds_of_unified unified]

end Files

end EditHistory
