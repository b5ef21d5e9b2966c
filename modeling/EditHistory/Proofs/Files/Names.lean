import EditHistory.Files

/-!
# Paths that name no file

The character NUL in a path is the one fault that is found before the files are looked at.  So it is met just if the
path has it, whatever the files are, and a path without it keeps that when its last name is dropped or gets another
extension.

## Main statements

* `Files.locate_eq_nul_iff`, `Files.makeDirs_eq_nul_iff`, `Files.writeText_eq_nul_iff` — when the fault is met
* `Files.placeFor_ne_nul`, `Files.makeDirs_ne_nul`, `Files.replace_ne_nul` — the same for what is changed
* `Path.sound_parent`, `Path.sound_withSuffix` — paths that are made from other ones
-/

namespace EditHistory

/-! ### Paths -/

namespace Text

/-- What stands before the last separator is a part of the text. -/
theorem mem_of_mem_cutAtLast? {sep c : Char} {cs before after : List Char}
    (cut : cutAtLast? sep cs = some (before, after)) (mem : c ∈ before) : c ∈ cs := by
  induction cs generalizing before with
  | nil => cases cut
  | cons d cs ih =>
      rw [cutAtLast?] at cut
      split at cut
      · rename_i rest _ inner
        cases cut
        rcases List.mem_cons.mp mem with rfl | mem
        · exact List.mem_cons_self
        · exact List.mem_cons_of_mem d (ih inner mem)
      · split at cut
        · cases cut
          cases mem
        · cases cut

end Text

namespace Path

variable {p : Path}

theorem sound_iff : p.hasNul = false ↔ ∀ name ∈ p.names, '\x00' ∉ name.toList := by
  simp [hasNul]

theorem sound_parent (sound : p.hasNul = false) : p.parent.hasNul = false := by
  rw [sound_iff] at sound ⊢
  exact fun name mem => sound name (List.dropLast_subset _ mem)

theorem sound_stem {name : List Char} (sound : '\x00' ∉ name) : '\x00' ∉ stem name := by
  unfold stem
  split
  · rename_i before after cut
    split
    · exact sound
    · exact fun mem => sound (Text.mem_of_mem_cutAtLast? cut mem)
  · exact sound

theorem sound_withSuffix {suffix : String} (sound : p.hasNul = false) (clean : '\x00' ∉ suffix.toList) :
    (p.withSuffix suffix).hasNul = false := by
  rw [sound_iff] at sound ⊢
  intro name mem
  rcases List.mem_append.mp mem with above | last
  · exact sound name (List.dropLast_subset _ above)
  · obtain rfl := List.mem_singleton.mp last
    have bare : '\x00' ∉ p.name.toList := by
      unfold Path.name
      cases last : p.names.getLast? with
      | none => exact List.not_mem_nil
      | some name => exact sound name (List.mem_of_getLast? last)
    simpa using ⟨sound_stem bare, clean⟩

end Path

/-! ### Files -/

namespace Files

/-- Names that are followed lead nowhere for other reasons than the character NUL. -/
theorem follow_ne_nul (files : Files) (start names : List String) : files.follow start names ≠ .error .nul := by
  induction names generalizing start with
  | nil => nofun
  | cons name rest ih =>
      unfold follow
      split
      · exact ih _
      · split
        · nofun
        · split
          · nofun
          · exact ih _
          · split <;> nofun

theorem locate_eq_nul_iff {files : Files} {p : Path} : files.locate p = .error .nul ↔ p.hasNul = true := by
  unfold locate
  split
  · rename_i nul
    exact iff_of_true rfl nul
  · rename_i sound
    exact iff_of_false (files.follow_ne_nul _ _) sound

variable {files : Files} {p : Path}

theorem locate_ne_nul (sound : p.hasNul = false) : files.locate p ≠ .error .nul := by
  rw [Ne, locate_eq_nul_iff, sound]
  nofun

theorem read_of_hasNul (nul : p.hasNul = true) : files.read p = .error .nul := by
  rw [read, locate_eq_nul_iff.mpr nul]

theorem placeFor_ne_nul (sound : p.hasNul = false) : files.placeFor p ≠ .error .nul := by
  have here : files.locate p ≠ .error .nul := locate_ne_nul sound
  have above : files.locate p.parent ≠ .error .nul := locate_ne_nul (Path.sound_parent sound)
  unfold placeFor
  split
  · nofun
  · nofun
  · split
    · nofun
    · nofun
    · rename_i fault missing
      rintro ⟨⟩
      exact above missing
  · rename_i fault _ missing
    rintro ⟨⟩
    exact here missing

theorem makeDirsFrom_ne_nul (files : Files) (place names : List String) :
    (files.makeDirsFrom place names).1 ≠ some .nul := by
  induction names generalizing files place with
  | nil => nofun
  | cons name rest ih =>
      unfold makeDirsFrom
      split
      · exact ih _ _
      · split
        · nofun
        · split
          · exact ih _ _
          · exact ih _ _
          · split <;> nofun

theorem makeDirs_ne_nul (sound : p.hasNul = false) : (files.makeDirs p).1 ≠ some .nul := by
  rw [makeDirs, sound]
  exact files.makeDirsFrom_ne_nul _ _

theorem writeText_ne_nul (sound : p.hasNul = false) (cs : List Char) : files.writeText p cs ≠ .error .nul := by
  have placed : files.placeFor p ≠ .error .nul := placeFor_ne_nul sound
  unfold writeText write
  cases found : files.placeFor p with
  | ok place => nofun
  | error fault =>
      rintro ⟨⟩
      exact placed found

theorem replace_ne_nul {source target : Path} (sound : source.hasNul = false) (sound' : target.hasNul = false) :
    files.replace source target ≠ .error .nul := by
  have located : files.locate source ≠ .error .nul := locate_ne_nul sound
  have placed : files.placeFor target ≠ .error .nul := placeFor_ne_nul sound'
  unfold replace
  split
  · rename_i fault missing
    rintro ⟨⟩
    exact located missing
  · nofun
  · cases found : files.placeFor target with
    | ok place => nofun
    | error fault =>
        rintro ⟨⟩
        exact placed found

end Files

end EditHistory
