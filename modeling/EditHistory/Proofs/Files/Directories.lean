import EditHistory.Proofs.Files
import EditHistory.Proofs.Files.Names

/-!
# Making room for a file

Once the directories of a path have been made, the path has a place in the last of them, at which a file can be
written, moved to and removed.  As long as no directory goes, the place stays where it is.

## Main definitions

* `Files.Leads` — names that lead from a directory to another one
* `Files.DirsStay` — a change of a tree in which no directory goes
* `Files.HasRoom` — a folder in which a path names a file that is there or could be made there
* `Files.KeepsRoom` — a change of a tree in which no path loses its room

## Main statements

* `Files.leads_of_makeDirsFrom` — the directories that have been made lead somewhere
* `Files.makeDirsFrom_failed` — a directory that could not be made cannot be made later
* `Files.HasRoom.of_placeFor` — a path that can be written has room in the folder to which its parent leads
* `Files.HasRoom.stay` — room stays as long as no directory goes
* `Files.HasRoom.writeText`, `Files.HasRoom.replace`, `Files.HasRoom.remove` — what can be done where there is room
-/

namespace EditHistory.Files

/-- Names lead from a directory to another one. -/
inductive Leads (fs : Files) : List String → List String → List String → Prop where
  | here (folder : List String) : Leads fs folder [] folder
  | up {start rest folder : List String} (further : Leads fs (above start) rest folder) :
    Leads fs start (".." :: rest) folder
  | down {start rest folder : List String} {name : String} (down : name ≠ "..") (short : isTooLong name = false)
    (there : fs.entry? (start ++ [name]) = some .dir) (further : Leads fs (start ++ [name]) rest folder) :
    Leads fs start (name :: rest) folder

/-- In a change of the tree no directory goes. -/
def DirsStay (fs changed : Files) : Prop :=
  ∀ place, fs.entry? place = some .dir → changed.entry? place = some .dir

variable {fs changed : Files} {start place folder : List String} {names : List String} {name : String}

/-! ### Directories that stay -/

theorem DirsStay.trans {next : Files} (first : fs.DirsStay changed) (second : changed.DirsStay next) :
    fs.DirsStay next :=
  fun place there => second place (first place there)

/-- An entry set where no directory was takes none away. -/
theorem dirsStay_set (free : fs.entry? place ≠ some .dir) (entry : FileEntry) : fs.DirsStay (fs.set place entry) := by
  intro other there
  have differ : other ≠ place := by
    rintro rfl
    exact free there
  rw [entry?_set_other fs differ, there]

theorem dirsStay_erase (free : fs.entry? place ≠ some .dir) : fs.DirsStay (fs.erase place) := by
  intro other there
  have differ : other ≠ place := by
    rintro rfl
    exact free there
  rw [entry?_erase_other fs differ, there]

/-! ### The way to a directory -/

theorem follow_up (fs : Files) (start rest : List String) :
    fs.follow start (".." :: rest) = fs.follow (above start) rest := by
  rw [follow, if_pos rfl]

theorem follow_down (down : name ≠ "..") (short : isTooLong name = false) (rest : List String) :
    fs.follow start (name :: rest) =
      match fs.entry? (start ++ [name]) with
      | none => .error .notFound
      | some .dir => fs.follow (start ++ [name]) rest
      | some (.file bytes) => if rest = [] then .ok (start ++ [name], .file bytes) else .error .notADirectory := by
  rw [follow]
  exact (if_neg down).trans (if_neg (Bool.eq_false_iff.mp short))

namespace Leads

/-- As long as no directory goes, the way to a directory stays. -/
theorem stay (leads : fs.Leads start names folder) (dirs : fs.DirsStay changed) : changed.Leads start names folder := by
  induction leads with
  | here folder => exact .here folder
  | up _ ih => exact .up ih
  | down down short there _ ih => exact .down down short (dirs _ there) ih

/-- Names after those that lead to a directory are followed from there. -/
theorem follow_append (leads : fs.Leads start names folder) (more : List String) :
    fs.follow start (names ++ more) = fs.follow folder more := by
  induction leads with
  | here folder => rfl
  | up _ ih => rw [List.cons_append, follow_up, ih]
  | down down short there _ ih => rw [List.cons_append, follow_down down short, there, ← ih]

/-- Directories that are there need not be made. -/
theorem makeDirsFrom (leads : fs.Leads start names folder) : fs.makeDirsFrom start names = (none, fs) := by
  induction leads with
  | here folder => rfl
  | up _ ih => rw [Files.makeDirsFrom, if_pos rfl, ih]
  | down down short there _ ih =>
      rw [Files.makeDirsFrom, if_neg down, if_neg (Bool.eq_false_iff.mp short), there, ← ih]

end Leads

/-- Making directories takes none away, whether all of them can be made or not. -/
theorem dirsStay_makeDirsFrom (fs : Files) (start names : List String) :
    fs.DirsStay (fs.makeDirsFrom start names).2 := by
  fun_induction fs.makeDirsFrom start names with
  | case1 | case3 | case6 => exact fun _ there => there
  | case2 fs start rest ih => exact ih
  | case4 fs start name rest down short absent ih =>
      exact (dirsStay_set (by rw [absent]; nofun) .dir).trans ih
  | case5 fs start name rest down short there ih => exact ih

/-- **The directories that have been made lead somewhere**, and no directory has gone. -/
theorem leads_of_makeDirsFrom (made : fs.makeDirsFrom start names = (none, changed)) :
    (∃ folder, changed.Leads start names folder) ∧ fs.DirsStay changed := by
  have stay := fs.dirsStay_makeDirsFrom start names
  rw [made] at stay
  refine ⟨?_, stay⟩
  clear stay
  fun_induction fs.makeDirsFrom start names with
  | case1 fs start =>
      cases made
      exact ⟨start, .here start⟩
  | case2 fs start rest ih =>
      obtain ⟨folder, further⟩ := ih made
      exact ⟨folder, .up further⟩
  | case3 => cases made
  | case4 fs start name rest down short absent ih =>
      obtain ⟨folder, further⟩ := ih made
      have stay := dirsStay_makeDirsFrom (fs.set (start ++ [name]) .dir) (start ++ [name]) rest
      rw [made] at stay
      have there := stay _ (entry?_set_same (by simp [absent]) .dir)
      exact ⟨folder, .down down (Bool.eq_false_iff.mpr short) there further⟩
  | case5 fs start name rest down short there ih =>
      obtain ⟨folder, further⟩ := ih made
      have stay := fs.dirsStay_makeDirsFrom (start ++ [name]) rest
      rw [made] at stay
      exact ⟨folder, .down down (Bool.eq_false_iff.mpr short) (stay _ there) further⟩
  | case6 => cases made

/-- **Where a directory could not be made it cannot be made later either**, and nothing below it is found, neither
before those above it have been made nor afterwards. -/
theorem makeDirsFrom_failed {fault : FileFault} (failed : fs.makeDirsFrom start names = (some fault, changed)) :
    changed.makeDirsFrom start names = (some fault, changed) ∧
      ∀ more ≠ [], (∃ f, fs.follow start (names ++ more) = .error f) ∧
        ∃ f, changed.follow start (names ++ more) = .error f := by
  fun_induction fs.makeDirsFrom start names with
  | case1 => cases failed
  | case2 fs start rest ih =>
      obtain ⟨again, lost⟩ := ih failed
      refine ⟨by rw [makeDirsFrom, if_pos rfl, again], fun more some => ?_⟩
      rw [List.cons_append, follow_up, follow_up]
      exact lost more some
  | case3 fs start name rest down long =>
      cases failed
      have here (more : List String) : changed.follow start (name :: rest ++ more) = .error .nameTooLong := by
        rw [List.cons_append, follow, if_neg down, if_pos long]
      exact ⟨by rw [makeDirsFrom, if_neg down, if_pos long], fun more _ => ⟨⟨_, here more⟩, _, here more⟩⟩
  | case4 fs start name rest down short absent ih =>
      obtain ⟨again, lost⟩ := ih failed
      have stay := dirsStay_makeDirsFrom (fs.set (start ++ [name]) .dir) (start ++ [name]) rest
      rw [failed] at stay
      have there := stay _ (entry?_set_same (by simp [absent]) .dir)
      refine ⟨by rw [makeDirsFrom, if_neg down, if_neg short, there]; exact again, fun more some => ?_⟩
      rw [List.cons_append, follow_down down (Bool.eq_false_iff.mpr short),
        follow_down down (Bool.eq_false_iff.mpr short), absent, there]
      exact ⟨⟨_, rfl⟩, (lost more some).2⟩
  | case5 fs start name rest down short there ih =>
      obtain ⟨again, lost⟩ := ih failed
      have stay := fs.dirsStay_makeDirsFrom (start ++ [name]) rest
      rw [failed] at stay
      refine ⟨by rw [makeDirsFrom, if_neg down, if_neg short, stay _ there]; exact again, fun more some => ?_⟩
      rw [List.cons_append, follow_down down (Bool.eq_false_iff.mpr short),
        follow_down down (Bool.eq_false_iff.mpr short), there, stay _ there]
      exact lost more some
  | case6 fs start name rest down short bytes there =>
      cases failed
      refine ⟨by rw [makeDirsFrom, if_neg down, if_neg short, there], fun more some => ?_⟩
      have blocked : changed.follow start (name :: rest ++ more) = .error .notADirectory := by
        rw [List.cons_append, follow_down down (Bool.eq_false_iff.mpr short), there]
        exact if_neg fun empty => some (List.append_eq_nil_iff.mp empty).2
      exact ⟨⟨_, blocked⟩, _, blocked⟩

/-- Where directories can be made, those that are asked for are there already, or nothing below them is found. -/
theorem leads_or_notFound (made : fs.makeDirsFrom start names = (none, changed)) :
    (∃ folder, fs.Leads start names folder) ∨ ∀ more, fs.follow start (names ++ more) = .error .notFound := by
  fun_induction fs.makeDirsFrom start names with
  | case1 fs start => exact .inl ⟨start, .here start⟩
  | case2 fs start rest ih =>
      obtain ⟨folder, further⟩ | lost := ih made
      · exact .inl ⟨folder, .up further⟩
      · refine .inr fun more => ?_
        rw [List.cons_append, follow_up, lost]
  | case3 => cases made
  | case4 fs start name rest down short absent ih =>
      refine .inr fun more => ?_
      rw [List.cons_append, follow_down down (Bool.eq_false_iff.mpr short), absent]
  | case5 fs start name rest down short there ih =>
      obtain ⟨folder, further⟩ | lost := ih made
      · exact .inl ⟨folder, .down down (Bool.eq_false_iff.mpr short) there further⟩
      · refine .inr fun more => ?_
        rw [List.cons_append, follow_down down (Bool.eq_false_iff.mpr short), there]
        exact lost more
  | case6 => cases made

theorem makeDirsFrom_of_makeDirs {p : Path} (made : (fs.makeDirs p).1 = none) :
    fs.makeDirsFrom (Files.start p) p.names = (none, (fs.makeDirs p).2) := by
  unfold makeDirs at made ⊢
  split at made
  · cases made
  · rename_i sound
    rw [if_neg sound]
    exact Prod.ext made rfl

/-! ### Room for a file -/

/-- In a folder a path names a file that is there or could be made there. -/
structure HasRoom (fs : Files) (p : Path) (folder : List String) : Prop where
  named : p.names ≠ []
  sound : p.hasNul = false
  leads : fs.Leads (Files.start p) p.parent.names folder
  down : p.name ≠ ".."
  short : isTooLong p.name = false
  free : fs.entry? (folder ++ [p.name]) ≠ some .dir

theorem names_eq_append {p : Path} (named : p.names ≠ []) : p.names = p.parent.names ++ [p.name] := by
  rw [Path.parent, Path.name, List.getLast?_eq_some_getLast named]
  exact (List.dropLast_concat_getLast named).symm

namespace HasRoom

variable {p : Path}

theorem locate_of_none (room : fs.HasRoom p folder) (absent : fs.entry? (folder ++ [p.name]) = none) :
    fs.locate p = .error .notFound := by
  rw [Files.locate, if_neg (Bool.eq_false_iff.mp room.sound), names_eq_append room.named, room.leads.follow_append,
    follow_down room.down room.short, absent]

theorem locate_of_file (room : fs.HasRoom p folder) {bytes : List UInt8}
    (there : fs.entry? (folder ++ [p.name]) = some (.file bytes)) :
    fs.locate p = .ok (folder ++ [p.name], .file bytes) := by
  rw [Files.locate, if_neg (Bool.eq_false_iff.mp room.sound), names_eq_append room.named, room.leads.follow_append,
    follow_down room.down room.short, there]
  rfl

theorem locate_parent (room : fs.HasRoom p folder) : fs.locate p.parent = .ok (folder, .dir) := by
  have found := room.leads.follow_append []
  rw [List.append_nil] at found
  rw [Files.locate, if_neg (Bool.eq_false_iff.mp (Path.sound_parent room.sound))]
  exact found

/-- The directories of the path need not be made. -/
theorem makeDirs_parent (room : fs.HasRoom p folder) : fs.makeDirs p.parent = (none, fs) := by
  rw [Files.makeDirs, if_neg (Bool.eq_false_iff.mp (Path.sound_parent room.sound))]
  exact room.leads.makeDirsFrom

/-- There is a file at the place of the path, or nothing. -/
theorem entry (room : fs.HasRoom p folder) :
    fs.entry? (folder ++ [p.name]) = none ∨ ∃ bytes, fs.entry? (folder ++ [p.name]) = some (.file bytes) := by
  have free := room.free
  cases there : fs.entry? (folder ++ [p.name]) with
  | none => exact .inl rfl
  | some entry =>
      cases entry with
      | dir => exact absurd there free
      | file bytes => exact .inr ⟨bytes, rfl⟩

theorem placeFor (room : fs.HasRoom p folder) : fs.placeFor p = .ok (folder ++ [p.name]) := by
  rw [Files.placeFor]
  obtain absent | ⟨bytes, there⟩ := room.entry
  · simp only [room.locate_of_none absent, room.locate_parent]
  · simp only [room.locate_of_file there]

/-- **A path that can be written has room** in the folder to which its parent leads. -/
theorem of_placeFor (named : p.names ≠ []) (leads : fs.Leads (Files.start p) p.parent.names folder)
    (placed : fs.placeFor p = .ok place) : fs.HasRoom p folder := by
  by_cases nul : p.hasNul = true
  · rw [Files.placeFor, Files.locate, if_pos nul] at placed
    cases placed
  · rw [Files.placeFor, Files.locate, if_neg nul, names_eq_append named, leads.follow_append, follow] at placed
    by_cases up : p.name = ".."
    · rw [if_pos up, follow] at placed
      cases placed
    · rw [if_neg up] at placed
      by_cases long : isTooLong p.name = true
      · rw [if_pos long] at placed
        cases placed
      · rw [if_neg long] at placed
        refine ⟨named, Bool.eq_false_iff.mpr nul, leads, up, Bool.eq_false_iff.mpr long, fun there => ?_⟩
        rw [there] at placed
        cases placed

/-- **Room stays** as long as no directory goes and none comes to its place. -/
theorem stay (room : fs.HasRoom p folder) (dirs : fs.DirsStay changed)
    (free : changed.entry? (folder ++ [p.name]) ≠ some .dir) : changed.HasRoom p folder :=
  { room with leads := room.leads.stay dirs, free }

end HasRoom

/-- In a change of the tree no path loses its room. -/
def KeepsRoom (fs changed : Files) : Prop :=
  ∀ ⦃p folder⦄, fs.HasRoom p folder → changed.HasRoom p folder

/-- A file set where no directory was takes no room away. -/
theorem keepsRoom_set (free : fs.entry? place ≠ some .dir) (bytes : List UInt8) :
    fs.KeepsRoom (fs.set place (.file bytes)) := by
  intro p folder room
  refine room.stay (dirsStay_set free _) ?_
  by_cases same : folder ++ [p.name] = place
  · rw [same, entry?_set_same free]
    nofun
  · rw [entry?_set_other fs same]
    exact room.free

theorem keepsRoom_erase (free : fs.entry? place ≠ some .dir) : fs.KeepsRoom (fs.erase place) := by
  intro p folder room
  refine room.stay (dirsStay_erase free) ?_
  by_cases same : folder ++ [p.name] = place
  · rw [same, entry?_erase_same free]
    nofun
  · rw [entry?_erase_other fs same]
    exact room.free

namespace HasRoom

variable {p : Path}

/-- **What is written** to a path with room is at its place. -/
theorem writeText (room : fs.HasRoom p folder) (cs : List Char) :
    ∃ written, fs.writeText p cs = .ok written ∧ fs.KeepsRoom written ∧
      written.entry? (folder ++ [p.name]) = some (.file (Text.utf8 cs)) := by
  refine ⟨_, ?_, keepsRoom_set room.free _, entry?_set_same room.free _⟩
  rw [Files.writeText, Files.write, room.placeFor]
  rfl

/-- **A file that is moved** to a path with room is at its place. -/
theorem replace {source target : Path} {origin : List String} {bytes : List UInt8} (here : fs.HasRoom source origin)
    (there : fs.entry? (origin ++ [source.name]) = some (.file bytes)) (room : fs.HasRoom target folder) :
    ∃ moved, fs.replace source target = .ok moved ∧ fs.KeepsRoom moved ∧
      moved.entry? (folder ++ [target.name]) = some (.file bytes) := by
  rw [Files.replace, here.locate_of_file there]
  simp only [room.placeFor, Except.map]
  by_cases same : origin ++ [source.name] = folder ++ [target.name]
  · rw [if_pos same]
    exact ⟨fs, rfl, fun _ _ kept => kept, same ▸ there⟩
  · rw [if_neg same]
    have left := keepsRoom_erase here.free
    have free := (left room).free
    exact ⟨_, rfl, fun _ _ kept => keepsRoom_set free _ (left kept), entry?_set_same free _⟩

/-- **A path with room can be cleared**, whether there is a file or not. -/
theorem remove (room : fs.HasRoom p folder) :
    ∃ cleared, fs.remove p = .ok cleared ∧ fs.KeepsRoom cleared ∧ cleared.locate p = .error .notFound := by
  rw [Files.remove]
  obtain absent | ⟨bytes, there⟩ := room.entry
  · have lost := room.locate_of_none absent
    rw [lost]
    exact ⟨fs, rfl, fun _ _ kept => kept, lost⟩
  · have left := keepsRoom_erase room.free
    rw [room.locate_of_file there]
    exact ⟨_, rfl, left, (left room).locate_of_none (entry?_erase_same room.free)⟩

end HasRoom

end EditHistory.Files
