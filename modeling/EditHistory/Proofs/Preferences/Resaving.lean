import EditHistory.Preferences.Store
import EditHistory.Proofs.Files.Writing
import EditHistory.Proofs.Number.General
import EditHistory.Proofs.Preferences.Slot

/-!
# Saving one speed after another

What a speed does to the file of the preferences is forgotten when another speed is saved: the files, the records and
the outcome are those of saving the other speed alone.  So saving again changes nothing but the value, whether the file
was there before, could be read, or can be written at all.

## Main statements

* `Preferences.replace_replace` — a speed stored over another one
* `Preferences.textToChange_again_of_none`, `Preferences.textToChange_again_of_error` — what is found a second time
  where nothing could be saved the first time
* `Preferences.saveSpeed_saveSpeed` — saving one speed after another
-/

namespace EditHistory.Preferences

variable {path : Path} {files made : Files} {text : List Char}

/-! ### The text of a speed -/

theorem isSolid_general (x : Float) : SpeedLine.IsSolid (Number.general x) :=
  ⟨(Number.isNumerals_general x).some, fun c mem => ((Number.isNumerals_general x).chars c mem).not_isBlank⟩

/-- Storing a speed brings no line end of two characters into a text. -/
theorem unified_replace (x : Float) (unified : '\r' ∉ text) : '\r' ∉ SpeedLine.replace x text := by
  intro mem
  obtain mem | mem | mem := SpeedLine.mem_replaceValue mem
  · exact unified mem
  · cases (isSolid_general x).2 _ mem
  · exact absurd mem (by decide)

theorem replace_replace (x y : Float) (cs : List Char) :
    SpeedLine.replace y (SpeedLine.replace x cs) = SpeedLine.replace y cs :=
  SpeedLine.replaceValue_replaceValue (isSolid_general x) (Number.general y) cs

/-- Storing a speed adds as many lines as storing another one. -/
theorem count_replace (x y : Float) (cs : List Char) :
    (SpeedLine.replace y cs).count '\n' = (SpeedLine.replace x cs).count '\n' := by
  rw [← replace_replace x y]
  exact SpeedLine.count_replaceValue (isSolid_general x) (isSolid_general y) cs

/-! ### The text that is changed -/

theorem unified_ofList {cs : List Char} (unified : '\r' ∉ cs) : '\r' ∉ (String.ofList cs).toList := by
  rwa [String.toList_ofList]

-- decided on the characters of the literal, since its positions are slow to count
set_option maxRecDepth 4000 in
theorem unified_usualText : '\r' ∉ usualText.toList := by
  unfold usualText
  exact unified_ofList (by decide +kernel)

/-- Where a text to be changed is found, it is that of a file that is there, or the usual one where nothing was there
and the directories of the path have been made. -/
theorem textToChange_eq_some (found : textToChange path files = .ok (some text, made)) :
    (files.readText path = .ok text ∧ made = files) ∨
      text = usualText.toList ∧ files.has path = false ∧ files.makeDirs path.parent = (none, made) := by
  unfold textToChange at found
  split at found
  · rename_i content
    cases found
    exact .inl ⟨content, rfl⟩
  · cases found
  · split at found
    · cases found
    · rename_i missing
      split at found
      · rename_i all
        obtain ⟨same, rfl⟩ := Prod.mk.inj (Except.ok.inj found)
        exact .inr ⟨(Option.some.inj same).symm, Bool.eq_false_iff.mpr fun there => missing (by rw [there]; rfl), all⟩
      · cases found
      · cases found

theorem unified_of_textToChange (found : textToChange path files = .ok (some text, made)) : '\r' ∉ text := by
  obtain ⟨content, -⟩ | ⟨usual, -⟩ := textToChange_eq_some found
  · exact Files.unified_of_readText content
  · exact usual ▸ unified_usualText

/-- Where no text to be changed is found, none is found the next time. -/
theorem textToChange_again_of_none (found : textToChange path files = .ok (none, made)) :
    textToChange path made = .ok (none, made) := by
  have unread := found
  unfold textToChange at unread
  split at unread
  · cases unread
  · cases unread
  · split at unread
    · cases unread
      exact found
    · split at unread
      · cases unread
      · cases unread
      · rename_i reported failed
        cases unread
        obtain ⟨again, -, f, lost⟩ := Files.makeDirs_failed failed
        have unreadable : made.readText path = .error (.fault f) := by
          simp only [Files.readText, Files.read, lost]
        simp only [textToChange, unreadable, again]
        split <;> rfl

/-- Where the text that is found can be written back, what is written is there. -/
theorem exists_isWritten (found : textToChange path files = .ok (some text, made)) {place : List String}
    (placed : made.placeFor path = .ok place) (cs : List Char) : ∃ written, Files.IsWritten made path cs written := by
  obtain ⟨content, rfl⟩ | ⟨-, missing, all⟩ := textToChange_eq_some found
  · obtain ⟨place, bytes, there⟩ := Files.locate_of_readText content
    exact ⟨_, Files.isWritten_of_locate there cs⟩
  · have all' := Files.makeDirsFrom_of_makeDirs (congrArg Prod.fst all)
    rw [all] at all'
    obtain ⟨⟨folder, leads⟩, -⟩ := Files.leads_of_makeDirsFrom all'
    exact ⟨_, (Files.HasRoom.of_placeFor (Files.names_ne_nil_of_not_has missing) leads placed).isWritten cs⟩

theorem textToChange_of_isWritten {written : Files} {cs : List Char} (isWritten : Files.IsWritten made path cs written)
    (unified : '\r' ∉ cs) : textToChange path written = .ok (some cs, written) := by
  simp only [textToChange, isWritten.readText unified]

/-- Where the text that is found cannot be written back, it is found the next time, or nothing is. -/
theorem textToChange_again_of_error (found : textToChange path files = .ok (some text, made)) {fault : FileFault}
    (lost : made.placeFor path = .error fault) :
    textToChange path made = .ok (some text, made) ∨
      fault ≠ .nul ∧ textToChange path made = .ok (none, made) := by
  obtain ⟨f, unreadable, reason⟩ := Files.exists_readText_of_error lost
  obtain ⟨content, rfl⟩ | ⟨usual, -, all⟩ := textToChange_eq_some found
  · rw [content] at unreadable
    cases unreadable
  · simp only [textToChange, unreadable, Files.makeDirs_made all, ← usual]
    split
    · rename_i there
      exact .inr ⟨reason (by simpa using there), rfl⟩
    · exact .inl rfl

/-! ### Saving -/

/-- A speed that is written to where the text was found. -/
theorem saveSpeed_eq {speed : Value} {x : Float} (isSpeed : speed.toDouble = .ok x)
    (found : textToChange path files = .ok (some text, made)) :
    saveSpeed path speed files =
      match made.writeText path (SpeedLine.replace x text) with
      | .ok written => .done () written
      | .error .nul => .failed (.path path .nul) made
      | .error _ => (Step.done () made).noting .debug "Could not persist playback speed" := by
  cases done : made.writeText path (SpeedLine.replace x text) with
  | ok written => simp only [saveSpeed, found, isSpeed, done]
  | error fault => cases fault <;> simp only [saveSpeed, found, isSpeed, done]

/-- A speed that is written. -/
theorem saveSpeed_of_isWritten {speed : Value} {x : Float} (isSpeed : speed.toDouble = .ok x)
    (found : textToChange path files = .ok (some text, made)) {written : Files}
    (isWritten : Files.IsWritten made path (SpeedLine.replace x text) written) :
    saveSpeed path speed files = .done () written := by
  simp only [saveSpeed_eq isSpeed found, isWritten.writeText_eq]

/-- A speed that cannot be written. -/
theorem saveSpeed_of_error {speed : Value} {x : Float} (isSpeed : speed.toDouble = .ok x)
    (found : textToChange path files = .ok (some text, made)) {fault : FileFault}
    (lost : made.placeFor path = .error fault) :
    saveSpeed path speed files = saveSpeed path speed made ∧ (saveSpeed path speed files).state = made := by
  have saved := saveSpeed_eq isSpeed found
  rw [Files.writeText_of_error lost] at saved
  obtain again | ⟨reported, again⟩ := textToChange_again_of_error found lost
  · have saved' := saveSpeed_eq isSpeed again
    rw [Files.writeText_of_error lost] at saved'
    refine ⟨saved.trans saved'.symm, ?_⟩
    rw [saved]
    cases fault <;> rfl
  · have saved' : saveSpeed path speed made =
        (Step.done () made).noting .debug "Could not persist playback speed" := by
      simp only [saveSpeed, again]
    rw [saved, saved']
    cases fault <;> first | exact absurd rfl reported | exact ⟨rfl, rfl⟩

/-- Where a text can be written back, the second speed is written over the first one as in its place. -/
theorem exists_saved_twice {first second : Value} {x y : Float} (isFirst : first.toDouble = .ok x)
    (isSecond : second.toDouble = .ok y) (found : textToChange path files = .ok (some text, made)) {place : List String}
    (placed : made.placeFor path = .ok place) :
    ∃ written written', saveSpeed path first files = .done () written ∧ saveSpeed path second files = .done () written' ∧
      saveSpeed path second written = .done () written' ∧ written.readText path = .ok (SpeedLine.replace x text) ∧
      written'.readText path = .ok (SpeedLine.replace y text) := by
  have unified := unified_of_textToChange found
  obtain ⟨written, isWritten⟩ := exists_isWritten found placed (SpeedLine.replace x text)
  obtain ⟨written', isWritten'⟩ := exists_isWritten found placed (SpeedLine.replace y text)
  refine ⟨written, written', saveSpeed_of_isWritten isFirst found isWritten,
    saveSpeed_of_isWritten isSecond found isWritten', ?_, isWritten.readText (unified_replace x unified),
    isWritten'.readText (unified_replace y unified)⟩
  -- what is written over the first speed is what would have been written in its place
  have again := textToChange_of_isWritten isWritten (unified_replace x unified)
  rw [saveSpeed_eq isSecond again, replace_replace, isWritten.writeText, isWritten'.writeText_eq]

/-- **Saving one speed after another** is saving the other one alone, and it does not change the number of lines that
the first one has left. -/
theorem saveSpeed_saveSpeed (path : Path) (files : Files) {first second : Value} {x y : Float}
    (isFirst : first.toDouble = .ok x) (isSecond : second.toDouble = .ok y) :
    let once := (saveSpeed path first files).state
    let twice := (saveSpeed path second once).state
    saveSpeed path second once = saveSpeed path second files ∧
      ∀ text, once.readText path = .ok text →
        ∃ text', twice.readText path = .ok text' ∧ text'.count '\n' = text.count '\n' := by
  intro once twice
  cases found : textToChange path files with
  | error e =>
      have same : once = files := by
        simp only [once, saveSpeed, found]
        rfl
      refine ⟨by rw [same], fun text content => ?_⟩
      rw [same] at content
      simp only [textToChange, content] at found
      cases found
  | ok change =>
      obtain ⟨text?, made⟩ := change
      cases text? with
      | none =>
          have again := textToChange_again_of_none found
          have same : once = made := by
            simp only [once, saveSpeed, found]
            rfl
          refine ⟨by rw [same]; simp only [saveSpeed, found, again], fun text content => ?_⟩
          rw [same] at content
          simp only [textToChange, content] at again
          cases again
      | some text =>
          cases placed : made.placeFor path with
          | error fault =>
              have same : once = made := (saveSpeed_of_error isFirst found placed).2
              refine ⟨by rw [same]; exact (saveSpeed_of_error isSecond found placed).1.symm, fun text content => ?_⟩
              obtain ⟨f, unreadable, -⟩ := Files.exists_readText_of_error placed
              rw [same, unreadable] at content
              cases content
          | ok place =>
              obtain ⟨written, written', saved, other, resaved, here, here'⟩ :=
                exists_saved_twice isFirst isSecond found placed
              have same : once = written := congrArg Step.state saved
              rw [← same] at resaved here
              refine ⟨resaved.trans other.symm, fun text' content => ?_⟩
              have same' : twice = written' := congrArg Step.state resaved
              rw [here] at content
              cases content
              exact ⟨_, by rw [same', here'], count_replace x y text⟩

/-- A tree with a file in which the section of playback has been opened, but no speed chosen. -/
def openedFiles : Files :=
  ⟨[(["prefs.yaml"], .file (Text.utf8 "auth:\nplayback: # later\n".toList))]⟩

theorem saveSpeed_saveSpeed_of_opened :
    (saveSpeed ⟨false, ["prefs.yaml"]⟩ (.float 0.5)
      (saveSpeed ⟨false, ["prefs.yaml"]⟩ (.float 2.0) openedFiles).state).state =
    ⟨[(["prefs.yaml"], .file (Text.utf8 "auth:\nplayback: # later\n  speed: 0.5\n".toList))]⟩ := by
  have same := (@saveSpeed_saveSpeed ⟨false, ["prefs.yaml"]⟩ openedFiles (.float 2.0) (.float 0.5) 2.0 0.5 rfl rfl).1
  rw [same]
  exact congrArg Files.mk (by decide +kernel)

end EditHistory.Preferences
