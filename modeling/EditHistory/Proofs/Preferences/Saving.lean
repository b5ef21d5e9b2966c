import EditHistory.Playback.Speeds
import EditHistory.Preferences.Store
import EditHistory.Proofs.Files
import EditHistory.Proofs.Preferences.Stored

/-!
# Saving a speed

A speed that is saved in the file of the preferences is the speed that is loaded from it afterwards, and all other
preferences are loaded as before, if the file is a sheet with its speed in place.

## Main statements

* `Preferences.isReadAs_general` — the text of a speed is read as that speed
* `Preferences.ofText_replace` — a speed stored in a text
* `Preferences.load_saveSpeed` — a speed saved in a file
-/

namespace EditHistory.Preferences

open Yaml Outline Playback

/-! ### The text of a speed -/

/-- The texts of the speeds that can be stepped through. -/
theorem general_speedSteps :
    speedSteps.map Number.general = ["0.25", "0.5", "1", "2", "4", "8"].map String.toList := by decide +kernel

/-- A text is read as a speed. -/
def IsReadAs (cs : List Char) (speed : Float) : Prop :=
  ∃ d, readAs (Kind.of cs) cs = .ok d ∧ readSpeed usual.playback.speed (some d) = .ok speed

theorem isReadAs_general {speed : Float} (step : speed ∈ speedSteps) : IsReadAs (Number.general speed) speed := by
  have texts := general_speedSteps
  simp only [speedSteps, List.map_cons, List.map_nil, List.cons.injEq, and_true] at texts
  obtain ⟨quarter, half, one, two, four, eight⟩ := texts
  simp only [speedSteps, List.mem_cons, List.not_mem_nil, or_false] at step
  rcases step with rfl | rfl | rfl | rfl | rfl | rfl
  · rw [quarter]; exact ⟨.float 0.25, rfl, rfl⟩
  · rw [half]; exact ⟨.float 0.5, rfl, rfl⟩
  · rw [one]; exact ⟨.int 1, rfl, rfl⟩
  · rw [two]; exact ⟨.int 2, rfl, rfl⟩
  · rw [four]; exact ⟨.int 4, rfl, rfl⟩
  · rw [eight]; exact ⟨.int 8, rfl, rfl⟩

/-- Whether a character is printable and does not end a line together with another one. -/
def isPlain (c : Char) : Bool := isPrintable c && c != '\r'

theorem forall_of_all_isPlain {cs : List Char} (plain : cs.all isPlain = true) :
    ∀ c ∈ cs, isPrintable c = true ∧ c ≠ '\r' := by
  simpa [isPlain] using plain

/-- The text of a speed is a word of printable characters, none of which ends a line. -/
theorem isWord_general {speed : Float} (step : speed ∈ speedSteps) :
    isWord (Number.general speed) = true ∧
      ∀ c ∈ Number.general speed, isPrintable c = true ∧ c ≠ '\r' := by
  have texts : (speedSteps.map Number.general).all (fun cs => isWord cs && cs.all isPlain) = true := by
    rw [general_speedSteps]
    decide
  have text := List.all_eq_true.mp texts _ (List.mem_map_of_mem step)
  rw [Bool.and_eq_true] at text
  exact ⟨text.1, forall_of_all_isPlain text.2⟩

theorem plain_sectionText : ∀ c ∈ SpeedLine.sectionText, isPrintable c = true ∧ c ≠ '\r' :=
  forall_of_all_isPlain (by decide)

/-! ### A text -/

theorem ofText_eq_ok_iff {f : Sheet} {prefs : Preferences} :
    ofText f.text = .ok prefs ↔ f.text.all isPrintable = true ∧ f.Readable ∧ ofData f.data = .ok prefs := by
  constructor
  · intro read
    rw [ofText] at read
    split at read
    · cases read
    · rename_i d loaded
      obtain ⟨printable, readable⟩ := f.readable_of_load loaded
      rw [f.load_text printable readable] at loaded
      obtain rfl := Except.ok.inj loaded
      cases chosen : ofData f.data with
      | error fault => rw [chosen] at read; cases read
      | ok chosen' =>
          rw [chosen] at read
          exact ⟨printable, readable, congrArg _ (Except.ok.inj read)⟩
  · rintro ⟨printable, readable, read⟩
    rw [ofText, f.load_text printable readable]
    simp only [read]
    rfl

/-- **A speed stored in the text of a sheet is the speed of the preferences in it, and nothing else changes.** -/
theorem ofText_replace {f : Sheet} (inPlace : f.SpeedInPlace) {speed : Float} (step : speed ∈ speedSteps)
    {prefs : Preferences} (read : ofText f.text = .ok prefs) :
    ofText (SpeedLine.replace speed f.text) =
      .ok { prefs with playback := { prefs.playback with speed := speed } } := by
  obtain ⟨isWord, plain⟩ := isWord_general step
  obtain ⟨d, means, chosen⟩ := isReadAs_general step
  obtain ⟨printable, readable, read⟩ := ofText_eq_ok_iff.mp read
  obtain ⟨g, text, stores⟩ := inPlace.exists_stores (.word (Number.general speed) isWord)
  have text : SpeedLine.replace speed f.text = g.text := text
  -- every character is one of the old text, of the speed or of the lines that are added
  have printable' : g.text.all isPrintable = true := by
    refine List.all_eq_true.mpr fun c mem => ?_
    rw [← text] at mem
    rcases SpeedLine.mem_replaceValue mem with mem | mem | mem
    · exact List.all_eq_true.mp printable c mem
    · exact (plain c mem).1
    · exact (plain_sectionText c mem).1
  have speed' : readSpeed usual.playback.speed (g.choice? "playback" "speed") = .ok speed := by
    rw [stores.speed d means, chosen]
  rw [text]
  exact ofText_eq_ok_iff.mpr ⟨printable', stores.readable readable ⟨d, means⟩,
    ofData_of_speed stores.others speed' read⟩

/-! ### A file -/

/-- Preferences that are loaded from a file without a record are those in its text. -/
theorem ofText_of_load {files : Files} {path : Path} {text : List Char} {prefs : Preferences}
    (content : files.readText path = .ok text) (loaded : load path files = .done prefs files) :
    ofText text = .ok prefs := by
  obtain ⟨place, bytes, there⟩ := Files.locate_of_readText content
  rw [load, there] at loaded
  simp only [readFrom, content] at loaded
  cases read : ofText text with
  | ok prefs' =>
      rw [read] at loaded
      exact congrArg (fun x : Step Files Error Preferences => x.outcome) loaded
  | error e =>
      have noRecord := congrArg (fun x : Step Files Error Preferences => (x.outcome, x.log)) loaded
      rw [read] at noRecord
      cases e with
      | yaml e =>
          simp only at noRecord
          split at noRecord <;> cases noRecord
      | path | undecodable | data | speed => cases noRecord

theorem load_of_ofText {files : Files} {path : Path} {place : List String × FileEntry} {text : List Char}
    {prefs : Preferences} (there : files.locate path = .ok place) (content : files.readText path = .ok text)
    (read : ofText text = .ok prefs) : load path files = .done prefs files := by
  rw [load, there]
  simp only [readFrom, content, read]

/-- **A speed that is saved is loaded afterwards, and all other preferences are loaded as before.** -/
theorem load_saveSpeed {files : Files} {path : Path} {f : Sheet} (content : files.readText path = .ok f.text)
    {prefs : Preferences} (loaded : load path files = .done prefs files) (inPlace : f.SpeedInPlace) {speed : Float}
    (step : speed ∈ speedSteps) :
    ∃ saved, saveSpeed path (.float speed) files = .done () saved ∧
      load path saved = .done { prefs with playback := { prefs.playback with speed := speed } } saved := by
  have read := ofText_replace inPlace step (ofText_of_load content loaded)
  obtain ⟨place, bytes, there⟩ := Files.locate_of_readText content
  -- reading the file again changes no line ends
  have unified : '\r' ∉ SpeedLine.replace speed f.text := by
    intro mem
    rcases SpeedLine.mem_replaceValue mem with mem | mem | mem
    · exact Files.unified_of_readText content mem
    · exact ((isWord_general step).2 _ mem).2 rfl
    · exact (plain_sectionText _ mem).2 rfl
  obtain ⟨saved, written, there', content'⟩ := Files.readText_writeText there unified
  refine ⟨saved, ?_, load_of_ofText there' content' read⟩
  have double : (Value.float speed).toDouble = .ok speed := rfl
  simp only [saveSpeed, textToChange, content, double, written]

/-- A sheet on which a speed, its comment and a choice of colours stand. -/
def darkSheet : Sheet where
  preamble := []
  sections := [
    { name := playbackKey
      remark := none
      indent := 2
      rows := [
        .entry ⟨speedKey, some (0, .word "1.0".toList (by decide)), some (0, ⟨" slow".toList, by decide, by decide⟩)⟩,
        .entry ⟨⟨"auto_play".toList, by decide, by decide, by decide, by decide⟩,
          some (0, .word "true".toList (by decide)), none⟩]
      inside := Nat.zero_lt_two
      distinct := by decide },
    { name := ⟨"display".toList, by decide, by decide, by decide, by decide⟩
      remark := none
      indent := 2
      rows := [
        .entry ⟨⟨"theme".toList, by decide, by decide, by decide, by decide⟩,
          some (0, .quoted "dark".toList (by decide)), none⟩,
        .note (.blank 0)]
      inside := Nat.zero_lt_two
      distinct := by decide }]
  distinct := by decide

theorem text_darkSheet : darkSheet.text =
    "playback:\n  speed: 1.0 # slow\n  auto_play: true\ndisplay:\n  theme: \"dark\"\n".toList := by decide +kernel

theorem speedInPlace_darkSheet : darkSheet.SpeedInPlace := ⟨by decide, by decide, by decide, by decide⟩

theorem ofText_darkSheet : ofText darkSheet.text = .ok ⟨⟨1.0, true⟩, .dark, "", "WARNING"⟩ := by
  have readable : ∀ s ∈ darkSheet.sections, ∀ e ∈ s.entries, e.read.isOk = true := by decide
  refine ofText_eq_ok_iff.mpr ⟨by decide, fun s mem e entry => ?_, rfl⟩
  cases read : e.read with
  | ok d => exact ⟨d, rfl⟩
  | error fault =>
      have isOk := readable s mem e entry
      rw [read] at isOk
      cases isOk

/-- A tree with a file in which the colours and a speed have been chosen. -/
def darkFiles : Files :=
  ⟨[(["prefs.yaml"], .file (Text.utf8
    "playback:\n  speed: 1.0 # slow\n  auto_play: true\ndisplay:\n  theme: \"dark\"\n".toList))]⟩

theorem readText_darkFiles : darkFiles.readText ⟨false, ["prefs.yaml"]⟩ = .ok darkSheet.text := by
  rw [text_darkSheet]
  have located : darkFiles.locate ⟨false, ["prefs.yaml"]⟩ = .ok (["prefs.yaml"], .file (Text.utf8
      "playback:\n  speed: 1.0 # slow\n  auto_play: true\ndisplay:\n  theme: \"dark\"\n".toList)) := rfl
  simp only [Files.readText, Files.read, located, Text.decodeUtf8?_utf8]
  exact congrArg _ (Text.unifyLineEnds_of_unified (by decide))

theorem load_saveSpeed_of_dark : ∃ saved,
    saveSpeed ⟨false, ["prefs.yaml"]⟩ (.float 4.0) darkFiles = .done () saved ∧
      load ⟨false, ["prefs.yaml"]⟩ saved = .done ⟨⟨4.0, true⟩, .dark, "", "WARNING"⟩ saved := by
  obtain ⟨place, bytes, there⟩ := Files.locate_of_readText readText_darkFiles
  exact load_saveSpeed readText_darkFiles (load_of_ofText there readText_darkFiles ofText_darkSheet)
    speedInPlace_darkSheet (by simp [speedSteps])

end EditHistory.Preferences
