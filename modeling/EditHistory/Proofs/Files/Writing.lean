import EditHistory.Proofs.Files.Directories

/-!
# Writing a file again

What has been written to a path is read from it and can be written over, with the same result as if it had never been
there.  And what has been tried once to make room for a file makes no difference when it is tried again.

## Main definitions

* `Files.IsWritten` — a text has been written to a path

## Main statements

* `Files.IsWritten.writeText` — a text that is written over another one
* `Files.makeDirs_made`, `Files.makeDirs_failed` — directories that are made, or cannot be made, a second time
-/

namespace EditHistory.Files

variable {fs written made : Files} {p : Path} {place folder : List String} {cs : List Char}

/-! ### A file that is written -/

theorem set_set (fs : Files) (place : List String) (entry entry' : FileEntry) :
    (fs.set place entry).set place entry' = fs.set place entry' := by
  simp [set, List.filter_filter]

theorem placeFor_of_file {bytes : List UInt8} (there : fs.locate p = .ok (place, .file bytes)) :
    fs.placeFor p = .ok place := by
  rw [placeFor, there]

theorem writeText_of_placeFor (placed : fs.placeFor p = .ok place) (cs : List Char) :
    fs.writeText p cs = .ok (fs.set place (.file (Text.utf8 cs))) := by
  rw [writeText, write, placed]
  rfl

theorem writeText_of_error {fault : FileFault} (lost : fs.placeFor p = .error fault) (cs : List Char) :
    fs.writeText p cs = .error fault := by
  rw [writeText, write, lost]
  rfl

/-- A text has been written to the place of a path, and the path leads to it. -/
def IsWritten (fs : Files) (p : Path) (cs : List Char) (written : Files) : Prop :=
  ∃ place, fs.placeFor p = .ok place ∧ written = fs.set place (.file (Text.utf8 cs)) ∧
    written.locate p = .ok (place, .file (Text.utf8 cs))

theorem isWritten_of_locate {bytes : List UInt8} (there : fs.locate p = .ok (place, .file bytes)) (cs : List Char) :
    IsWritten fs p cs (fs.set place (.file (Text.utf8 cs))) := by
  refine ⟨place, placeFor_of_file there, rfl, ?_⟩
  unfold locate at there ⊢
  split at there
  · cases there
  · rename_i named
    rw [if_neg named]
    exact follow_set there _

theorem HasRoom.isWritten (room : fs.HasRoom p folder) (cs : List Char) :
    IsWritten fs p cs (fs.set (folder ++ [p.name]) (.file (Text.utf8 cs))) :=
  ⟨_, room.placeFor, rfl, (keepsRoom_set room.free _ room).locate_of_file (entry?_set_same room.free _)⟩

namespace IsWritten

theorem writeText_eq (isWritten : IsWritten fs p cs written) : fs.writeText p cs = .ok written := by
  obtain ⟨place, placed, rfl, -⟩ := isWritten
  exact writeText_of_placeFor placed cs

theorem readText (isWritten : IsWritten fs p cs written) (unified : '\r' ∉ cs) : written.readText p = .ok cs := by
  obtain ⟨place, -, -, there⟩ := isWritten
  rw [Files.readText, Files.read, there]
  simp only [Text.decodeUtf8?_utf8, Text.unifyLineEnds_of_unified unified]

/-- **A text that is written over another one** leaves what it would have left without the other one. -/
theorem writeText (isWritten : IsWritten fs p cs written) (cs' : List Char) :
    written.writeText p cs' = fs.writeText p cs' := by
  obtain ⟨place, placed, rfl, there⟩ := isWritten
  rw [writeText_of_placeFor (placeFor_of_file there), writeText_of_placeFor placed, set_set]

end IsWritten

/-! ### Directories that are made again -/

/-- Directories that have been made need not be made again. -/
theorem makeDirs_made (all : fs.makeDirs p = (none, made)) : made.makeDirs p = (none, made) := by
  have all' := makeDirsFrom_of_makeDirs (congrArg Prod.fst all)
  rw [all] at all'
  obtain ⟨⟨folder, leads⟩, -⟩ := leads_of_makeDirsFrom all'
  unfold makeDirs at all ⊢
  split at all
  · cases all
  · rename_i sound
    rw [if_neg sound, leads.makeDirsFrom]

theorem hasNul_of_parent (nul : p.parent.hasNul = true) : p.hasNul = true := by
  obtain ⟨name, mem, isNul⟩ := List.any_eq_true.mp nul
  exact List.any_eq_true.mpr ⟨name, List.dropLast_subset _ mem, isNul⟩

/-- **Where the directories of a path cannot be made** they cannot be made later either, and the path leads nowhere. -/
theorem makeDirs_failed {fault : FileFault} (failed : fs.makeDirs p.parent = (some fault, made)) :
    made.makeDirs p.parent = (some fault, made) ∧ (∃ f, fs.locate p = .error f) ∧ ∃ f, made.locate p = .error f := by
  unfold makeDirs at failed ⊢
  split at failed
  · rename_i nul
    cases failed
    have lost : fs.locate p = .error .nul := if_pos (hasNul_of_parent nul)
    exact ⟨if_pos nul, ⟨_, lost⟩, _, lost⟩
  · rename_i sound
    have named : p.names ≠ [] := by
      intro empty
      rw [Path.parent, empty] at failed
      cases failed
    obtain ⟨again, lost⟩ := makeDirsFrom_failed failed
    obtain ⟨before, after⟩ := lost [p.name] (List.cons_ne_nil _ _)
    refine ⟨by rw [if_neg sound, again], ?_⟩
    unfold locate
    split
    · exact ⟨⟨_, rfl⟩, _, rfl⟩
    · rw [names_eq_append named]
      exact ⟨before, after⟩

theorem names_ne_nil_of_not_has (missing : fs.has p = false) : p.names ≠ [] := by
  intro empty
  have there : fs.locate p = .ok (start p, .dir) := by
    rw [locate, Path.hasNul, empty]
    rfl
  rw [has, there] at missing
  cases missing

/-- A path that leads to no file has no place, or names nothing in a directory that is there. -/
theorem exists_readText_of_error {fault : FileFault} (lost : fs.placeFor p = .error fault) :
    ∃ f, fs.readText p = .error (.fault f) ∧ (fs.has p = true ∨ f = .nameTooLong → fault ≠ .nul) := by
  unfold placeFor at lost
  cases found : fs.locate p with
  | ok there =>
      obtain ⟨place, entry⟩ := there
      rw [found] at lost
      cases entry with
      | file bytes => cases lost
      | dir =>
          cases lost
          exact ⟨.isADirectory, by simp only [Files.readText, Files.read, found], nofun⟩
  | error f =>
      refine ⟨f, by simp only [Files.readText, Files.read, found], fun reason nul => ?_⟩
      subst nul
      obtain there | rfl := reason
      · rw [has, found] at there
        cases there
      · rw [found] at lost
        cases lost

end EditHistory.Files
