import EditHistory.Proofs.Files.Directories

/-!
# Trees without loose ends

In a tree of files every entry stands in a directory.  What changes a tree keeps it so.  Where no path goes up, the
files of a tree are its entries, and making directories brings no other file to light.

## Main definitions

* `Files.IsTree` — every entry stands in a directory
* `Files.Gains` — a change of a tree in which only directories come

## Main statements

* `Files.IsTree.makeDirs`, `Files.IsTree.writeText`, `Files.IsTree.replace`, `Files.IsTree.remove` — what is changed
  stays a tree
* `Files.Gains.read_eq_ok_iff` — what can be read while only directories come
-/

namespace EditHistory.Files

/-- Every entry stands in a directory. -/
def IsTree (fs : Files) : Prop :=
  ∀ place, fs.entry? place ≠ none → fs.entry? place.dropLast = some .dir

variable {fs changed : Files} {p : Path} {start place folder names : List String} {bytes : List UInt8}

theorem isTree_of_entries (inside : ∀ e ∈ fs.entries, fs.entry? e.1.dropLast = some .dir) : fs.IsTree := by
  intro place there
  unfold entry? at there
  split at there
  · rename_i top
    obtain rfl | rfl := top <;> rfl
  · cases found : fs.entries.find? fun e => e.1 == place with
    | none =>
        rw [found] at there
        exact absurd rfl there
    | some e =>
        have same : e.1 = place := by simpa using List.find?_some found
        exact same ▸ inside e (List.mem_of_find?_eq_some found)

theorem entry?_start (fs : Files) (p : Path) : fs.entry? (Files.start p) = some .dir := by
  unfold start
  split <;> rfl

/-! ### The way to a directory in a tree -/

theorem leads_of_follow (found : fs.follow start names = .ok (folder, .dir)) : fs.Leads start names folder := by
  fun_induction fs.follow start names with
  | case1 =>
      cases found
      exact .here folder
  | case2 start rest ih => exact .up (ih found)
  | case3 | case4 | case6 | case7 => cases found
  | case5 start name rest down short there ih => exact .down down (Bool.eq_false_iff.mpr short) there (ih found)

theorem free_of_follow {name : String} (absent : fs.follow folder [name] = .error .notFound) :
    fs.entry? (folder ++ [name]) ≠ some .dir := by
  rw [follow] at absent
  split at absent
  · cases absent
  · split at absent
    · cases absent
    · intro dir
      rw [dir] at absent
      cases absent

namespace IsTree

theorem above (tree : fs.IsTree) (there : fs.entry? place = some .dir) : fs.entry? (above place) = some .dir := by
  unfold Files.above
  split
  · exact there
  · exact tree place (by rw [there]; nofun)

/-- Directories lead to directories. -/
theorem entry?_of_leads (tree : fs.IsTree) (leads : fs.Leads start names folder) (dir : fs.entry? start = some .dir) :
    fs.entry? folder = some .dir := by
  induction leads with
  | here folder => exact dir
  | up _ ih => exact ih (tree.above dir)
  | down _ _ there _ ih => exact ih there

/-- A place at which a file can be written is free, in a directory. -/
theorem of_placeFor (tree : fs.IsTree) (placed : fs.placeFor p = .ok place) :
    fs.entry? place ≠ some .dir ∧ fs.entry? place.dropLast = some .dir := by
  unfold placeFor at placed
  split at placed
  · rename_i found
    cases placed
    unfold locate at found
    split at found
    · cases found
    · have file := entry?_of_follow found
      exact ⟨by rw [file]; nofun, tree _ (by rw [file]; nofun)⟩
  · cases placed
  · rename_i absent
    split at placed
    · rename_i folder found
      cases placed
      have named : p.names ≠ [] := by
        intro empty
        rw [locate, Path.hasNul, empty] at absent
        cases absent
      unfold locate at absent found
      split at absent
      · cases absent
      · split at found
        · cases found
        · have leads : fs.Leads (start p) p.parent.names folder := leads_of_follow found
          rw [names_eq_append named, leads.follow_append] at absent
          refine ⟨free_of_follow absent, ?_⟩
          rw [List.dropLast_concat]
          exact tree.entry?_of_leads leads (entry?_start fs p)
    · cases placed
    · cases placed
  · cases placed

/-! ### Changes of a tree -/

theorem set (tree : fs.IsTree) (free : fs.entry? place ≠ some .dir) (inside : fs.entry? place.dropLast = some .dir)
    (entry : FileEntry) : (fs.set place entry).IsTree := by
  intro other there
  have other' : fs.entry? other.dropLast = some .dir := by
    by_cases same : other = place
    · rw [same, inside]
    · rw [entry?_set_other fs same] at there
      exact tree other there
  exact dirsStay_set free entry _ other'

theorem erase (tree : fs.IsTree) (free : fs.entry? place ≠ some .dir) : (fs.erase place).IsTree := by
  intro other there
  by_cases same : other = place
  · rw [same, entry?_erase_same free] at there
    exact absurd rfl there
  · rw [entry?_erase_other fs same] at there
    exact dirsStay_erase free _ (tree other there)

theorem makeDirsFrom (tree : fs.IsTree) (dir : fs.entry? start = some .dir) (names : List String) :
    (fs.makeDirsFrom start names).2.IsTree := by
  fun_induction fs.makeDirsFrom start names with
  | case1 | case3 | case6 => exact tree
  | case2 fs start rest ih => exact ih tree (tree.above dir)
  | case4 fs start name rest down short absent ih =>
      have free : fs.entry? (start ++ [name]) ≠ some .dir := by simp [absent]
      exact ih (tree.set free (by rw [List.dropLast_concat, dir]) .dir) (entry?_set_same free .dir)
  | case5 fs start name rest down short there ih => exact ih tree there

/-- **Making directories** in a tree leaves a tree, also where not all of them can be made. -/
theorem makeDirs (tree : fs.IsTree) (p : Path) : (fs.makeDirs p).2.IsTree := by
  unfold Files.makeDirs
  split
  · exact tree
  · exact tree.makeDirsFrom (entry?_start fs p) p.names

/-- **Writing a file** of a tree leaves a tree. -/
theorem writeText {cs : List Char} (tree : fs.IsTree) (written : fs.writeText p cs = .ok changed) :
    changed.IsTree := by
  unfold Files.writeText write at written
  cases placed : fs.placeFor p with
  | error fault =>
      rw [placed] at written
      cases written
  | ok place =>
      rw [placed] at written
      cases written
      obtain ⟨free, inside⟩ := tree.of_placeFor placed
      exact tree.set free inside _

theorem free_of_locate (found : fs.locate p = .ok (place, .file bytes)) : fs.entry? place ≠ some .dir := by
  unfold locate at found
  split at found
  · cases found
  · rw [entry?_of_follow found]
    nofun

/-- **Moving a file** of a tree leaves a tree. -/
theorem replace {source target : Path} (tree : fs.IsTree) (moved : fs.replace source target = .ok changed) :
    changed.IsTree := by
  unfold Files.replace at moved
  split at moved
  · cases moved
  · cases moved
  · rename_i origin bytes found
    have taken := free_of_locate found
    cases placed : fs.placeFor target with
    | error fault =>
        rw [placed] at moved
        cases moved
    | ok place =>
        rw [placed] at moved
        obtain ⟨free, inside⟩ := tree.of_placeFor placed
        simp only [Except.map] at moved
        split at moved
        · cases moved
          exact tree
        · rename_i differ
          cases moved
          have stay := dirsStay_erase taken
          refine (tree.erase taken).set ?_ (stay _ inside) _
          rwa [entry?_erase_other fs (Ne.symm differ)]

/-- **Removing a file** of a tree leaves a tree. -/
theorem remove (tree : fs.IsTree) (removed : fs.remove p = .ok changed) : changed.IsTree := by
  unfold Files.remove at removed
  split at removed
  · rename_i found
    cases removed
    exact tree.erase (free_of_locate found)
  · cases removed
  · cases removed
    exact tree
  · cases removed

/-! ### The files of a tree -/

/-- Above every entry of a tree there are directories only. -/
theorem entry?_of_append (tree : fs.IsTree) {more : List String} (below : more ≠ [])
    (there : fs.entry? (place ++ more) ≠ none) : fs.entry? place = some .dir := by
  induction more generalizing place with
  | nil => exact absurd rfl below
  | cons name rest ih =>
      rw [List.append_cons] at there
      have here : fs.entry? (place ++ [name]) ≠ none := by
        cases rest with
        | nil => simpa using there
        | cons => rw [ih (List.cons_ne_nil _ _) there]; nofun
      simpa using tree _ here

end IsTree

/-- Names that do not go up and lead to a file are those of its entry. -/
theorem of_follow_file (down : ".." ∉ names) (found : fs.follow start names = .ok (place, .file bytes)) :
    (∀ name ∈ names, isTooLong name = false) ∧ place = start ++ names := by
  fun_induction fs.follow start names with
  | case1 | case3 | case4 | case7 => cases found
  | case2 start rest ih => exact absurd List.mem_cons_self down
  | case5 start name rest _ short there ih =>
      obtain ⟨short', rfl⟩ := ih (fun mem => down (List.mem_cons_of_mem _ mem)) found
      exact ⟨List.forall_mem_cons.mpr ⟨Bool.eq_false_iff.mpr short, short'⟩, by simp⟩
  | case6 start name _ short bytes there =>
      cases found
      exact ⟨by simpa using short, rfl⟩

/-- In a tree, names that do not go up lead to their entry if it is a file. -/
theorem IsTree.follow_eq_file (tree : fs.IsTree) (down : ".." ∉ names)
    (short : ∀ name ∈ names, isTooLong name = false) (there : fs.entry? (start ++ names) = some (.file bytes))
    (dir : fs.entry? start = some .dir) : fs.follow start names = .ok (start ++ names, .file bytes) := by
  induction names generalizing start with
  | nil =>
      rw [List.append_nil, dir] at there
      cases there
  | cons name rest ih =>
      have further : ".." ∉ rest := fun mem => down (List.mem_cons_of_mem _ mem)
      have down : name ≠ ".." := fun same => down (same ▸ List.mem_cons_self)
      obtain ⟨short, short'⟩ := List.forall_mem_cons.mp short
      rw [follow_down down short]
      rw [List.append_cons] at there
      cases rest with
      | nil =>
          rw [List.append_nil] at there
          rw [there]
          rfl
      | cons name' rest =>
          have above := tree.entry?_of_append (List.cons_ne_nil name' rest) (by rw [there]; nofun)
          have split : start ++ name :: name' :: rest = start ++ [name] ++ name' :: rest := by simp
          rw [above, split]
          exact ih further short' there above

/-- In a change of the tree only directories come, where nothing was. -/
def Gains (fs changed : Files) : Prop :=
  ∀ place, changed.entry? place = fs.entry? place ∨ fs.entry? place = none ∧ changed.entry? place = some .dir

theorem gains_makeDirsFrom (fs : Files) (start names : List String) : fs.Gains (fs.makeDirsFrom start names).2 := by
  fun_induction fs.makeDirsFrom start names with
  | case1 | case3 | case6 => exact fun _ => .inl rfl
  | case2 fs start rest ih => exact ih
  | case4 fs start name rest down short absent ih =>
      intro place
      have stay := dirsStay_makeDirsFrom (fs.set (start ++ [name]) .dir) (start ++ [name]) rest
      by_cases same : place = start ++ [name]
      · rw [same]
        exact .inr ⟨absent, stay _ (entry?_set_same (by simp [absent]) .dir)⟩
      · rw [← entry?_set_other fs same .dir]
        exact ih place
  | case5 fs start name rest down short there ih => exact ih

theorem gains_makeDirs (fs : Files) (p : Path) : fs.Gains (fs.makeDirs p).2 := by
  unfold makeDirs
  split
  · exact fun _ => .inl rfl
  · exact fs.gains_makeDirsFrom _ _

theorem Gains.dirsStay (gains : fs.Gains changed) : fs.DirsStay changed := by
  intro place there
  obtain same | ⟨absent, -⟩ := gains place
  · rw [same, there]
  · cases absent.symm.trans there

theorem read_eq_ok_iff : fs.read p = .ok bytes ↔ ∃ place, fs.locate p = .ok (place, .file bytes) := by
  unfold Files.read
  split
  · rename_i found
    simp [found]
  · rename_i found
    simp [found]
  · rename_i found
    simp [found]

/-- While only directories come, names that lead to a file lead to it. -/
theorem Gains.follow (gains : fs.Gains changed) (found : fs.follow start names = .ok (place, .file bytes)) :
    changed.follow start names = .ok (place, .file bytes) := by
  fun_induction fs.follow start names with
  | case1 | case3 | case4 | case7 => cases found
  | case2 start rest ih => rw [follow_up, ih found]
  | case5 start name rest down short there ih =>
      rw [follow_down down (Bool.eq_false_iff.mpr short), gains.dirsStay _ there]
      exact ih found
  | case6 start name down short bytes there =>
      obtain same | ⟨absent, -⟩ := gains (start ++ [name])
      · rw [follow_down down (Bool.eq_false_iff.mpr short), same, there]
        exact found
      · cases absent.symm.trans there

/-- **While only directories come** to a tree, a path that does not go up leads to the same file as before, or still to
none. -/
theorem Gains.read_eq_ok_iff (gains : fs.Gains changed) (tree : fs.IsTree) (down : ".." ∉ p.names) :
    changed.read p = .ok bytes ↔ fs.read p = .ok bytes := by
  rw [Files.read_eq_ok_iff, Files.read_eq_ok_iff]
  unfold locate
  split
  · simp
  · constructor
    · rintro ⟨place, found⟩
      obtain ⟨short, rfl⟩ := of_follow_file down found
      have there := entry?_of_follow found
      refine ⟨_, tree.follow_eq_file down short ?_ (entry?_start fs p)⟩
      obtain same | ⟨-, dir⟩ := gains (Files.start p ++ p.names)
      · rw [← same, there]
      · cases dir.symm.trans there
    · rintro ⟨place, found⟩
      exact ⟨place, gains.follow found⟩

end EditHistory.Files
