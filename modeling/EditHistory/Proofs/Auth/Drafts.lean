import EditHistory.Proofs.Auth.Asking
import EditHistory.Proofs.Auth.Store
import EditHistory.Proofs.Files.Tree
import EditHistory.Proofs.Files.Writing

/-!
# What saving a token leaves behind

A token is written to a draft beside the token file, and the draft is then moved to the place of the file.  The steps
before one that fails are not undone.  So where the draft can be written but cannot be moved, because a directory is at
the place of the token file or the name of the file is too long, the draft stays, and the token is in it.  There is no
other way in which a draft stays, and whoever had signed in before a token could not be saved still has afterwards.

## Main definitions

* `Files.IsTaken` — no file can come to a path, though its directories are there
* `Store.Strands` — a draft is written and cannot be moved

## Main statements

* `Store.write_cases` — how far writing a token gets
* `Store.isTree_save`, `Store.isTree_clear` — the files stay a tree
* `Store.save_ends` — what saving a token leaves behind
-/

namespace EditHistory

/-! ### A path that is taken -/

namespace Files

/-- No file can come to a path, though its directories are there: a directory is at its place, or its name is too
long. -/
def IsTaken (fs : Files) (p : Path) : Prop :=
  (∃ place, fs.locate p = .ok (place, .dir)) ∨ isTooLong p.name = true

variable {fs : Files} {p : Path} {folder : List String}

theorem locate_of_leads (named : p.names ≠ []) (sound : p.hasNul = false)
    (leads : fs.Leads (start p) p.parent.names folder) : fs.locate p = fs.follow folder [p.name] := by
  rw [locate, if_neg (Bool.eq_false_iff.mp sound), names_eq_append named, leads.follow_append]

/-- Where the directories are there, a path has room or is taken. -/
theorem HasRoom.or_isTaken (named : p.names ≠ []) (sound : p.hasNul = false)
    (leads : fs.Leads (start p) p.parent.names folder) : fs.HasRoom p folder ∨ fs.IsTaken p := by
  have found := locate_of_leads named sound leads
  by_cases up : p.name = ".."
  · exact .inr (.inl ⟨above folder, by rw [found, up]; rfl⟩)
  · by_cases long : isTooLong p.name = true
    · exact .inr (.inr long)
    · have short := Bool.eq_false_iff.mpr long
      by_cases dir : fs.entry? (folder ++ [p.name]) = some .dir
      · exact .inr (.inl ⟨folder ++ [p.name], by rw [found, follow_down up short, dir]; rfl⟩)
      · exact .inl ⟨named, sound, leads, up, short, dir⟩

/-- A path that is taken has no place. -/
theorem IsTaken.placeFor (taken : fs.IsTaken p) (named : p.names ≠ []) (sound : p.hasNul = false)
    (leads : fs.Leads (start p) p.parent.names folder) : ∃ fault, fs.placeFor p = .error fault := by
  obtain ⟨place, dir⟩ | long := taken
  · exact ⟨.isADirectory, by rw [Files.placeFor, dir]⟩
  · have down : p.name ≠ ".." := by
      intro up
      rw [up] at long
      exact absurd long (by decide)
    have lost : fs.locate p = .error .nameTooLong := by
      rw [locate_of_leads named sound leads, follow, if_neg down, if_pos long]
    exact ⟨.nameTooLong, by rw [Files.placeFor, lost]⟩

/-- A file that is set beside a path does not change what the path leads to. -/
theorem locate_set_beside {name : String} (named : p.names ≠ []) (sound : p.hasNul = false)
    (leads : fs.Leads (start p) p.parent.names folder) (free : fs.entry? (folder ++ [name]) ≠ some .dir)
    (differ : p.name ≠ name) (entry : FileEntry) : (fs.set (folder ++ [name]) entry).locate p = fs.locate p := by
  have apart : folder ++ [p.name] ≠ folder ++ [name] := by simpa using differ
  rw [locate_of_leads named sound leads, locate_of_leads named sound (leads.stay (dirsStay_set free entry))]
  simp only [follow, entry?_set_other fs apart]

/-- A file that is moved to another name of its folder. -/
theorem HasRoom.replace_beside {source target : Path} {bytes : List UInt8} (here : fs.HasRoom source folder)
    (there : fs.entry? (folder ++ [source.name]) = some (.file bytes)) (room : fs.HasRoom target folder)
    (differ : source.name ≠ target.name) :
    ∃ moved, fs.replace source target = .ok moved ∧ moved.locate source = .error .notFound ∧
      moved.locate target = .ok (folder ++ [target.name], .file bytes) := by
  have apart : folder ++ [source.name] ≠ folder ++ [target.name] := by simpa using differ
  have left := keepsRoom_erase here.free
  have free := (left room).free
  have kept := keepsRoom_set free bytes
  refine ⟨_, ?_, (kept (left here)).locate_of_none ?_,
    (kept (left room)).locate_of_file (entry?_set_same free (.file bytes))⟩
  · rw [Files.replace, here.locate_of_file there]
    simp only [room.placeFor, Except.map, if_neg apart]
  · rw [entry?_set_other _ apart, entry?_erase_same here.free]

end Files

namespace Auth.Store

variable {store : Store} {files : Files} {token : Token}

/-- A draft is written and cannot be moved: the directories can be made and the draft has a place, but that of the token
file is taken. -/
structure Strands (store : Store) (files : Files) : Prop where
  made : (files.makeDirs store.path.parent).1 = none
  drafted : ∃ place, (files.makeDirs store.path.parent).2.placeFor store.draft = .ok place
  taken : (files.makeDirs store.path.parent).2.IsTaken store.path

/-- A draft that stays means that the place of the token file cannot be written. -/
theorem Strands.not_writable (strands : store.Strands files) : ¬ store.Writable files := by
  intro writable
  obtain ⟨folder, room, -⟩ := writable.exists_room
  obtain ⟨fault, lost⟩ := strands.taken.placeFor room.named room.sound room.leads
  cases room.placeFor.symm.trans lost

/-! ### Writing a token -/

theorem names_ne_nil (named : store.path.name ≠ "") : store.path.names ≠ [] := by
  intro empty
  exact named (by rw [Path.name, empty]; rfl)

theorem names_draft_ne_nil (store : Store) : store.draft.names ≠ [] := by
  simp [draft, Path.withSuffix]

theorem path_parent_draft (store : Store) : store.draft.parent = store.path.parent :=
  congrArg (Path.mk store.path.rooted) store.parent_draft

theorem name_draft_ne (named : store.path.names ≠ []) (beside : store.draft ≠ store.path) :
    store.draft.name ≠ store.path.name := by
  intro same
  refine beside (congrArg (Path.mk store.path.rooted) ?_)
  show store.draft.names = store.path.names
  rw [Files.names_eq_append store.names_draft_ne_nil, Files.names_eq_append named, parent_draft, same]

/-- Where the directories cannot be made, there is no draft. -/
theorem write_of_not_made {fault : FileFault} {made : Files}
    (dirs : files.makeDirs store.path.parent = (some fault, made)) :
    store.write token files = (some fault, made) ∧ ∀ bytes, made.read store.draft ≠ .ok bytes := by
  refine ⟨by rw [write, dirs], fun bytes content => ?_⟩
  obtain ⟨-, -, f, lost⟩ := Files.makeDirs_failed (p := store.draft) (store.path_parent_draft ▸ dirs)
  obtain ⟨place, found⟩ := Files.read_eq_ok_iff.mp content
  cases lost.symm.trans found

/-- Where the draft cannot be written, there is none. -/
theorem write_of_not_drafted {fault : FileFault} {made : Files}
    (dirs : files.makeDirs store.path.parent = (none, made)) (lost : made.placeFor store.draft = .error fault) :
    store.write token files = (some fault, made) ∧ ∀ bytes, made.read store.draft ≠ .ok bytes := by
  refine ⟨by simp only [write, dirs, Files.writeText_of_error lost], fun bytes content => ?_⟩
  obtain ⟨place, found⟩ := Files.read_eq_ok_iff.mp content
  cases lost.symm.trans (Files.placeFor_of_file found)

/-- A draft that is written does not change what the path of the token file leads to, and is moved to its place or, if
that is taken, stays. -/
theorem write_of_drafted (named : store.path.names ≠ []) (sound : store.path.hasNul = false)
    (beside : store.draft ≠ store.path) {made : Files} {folder : List String}
    (dirs : files.makeDirs store.path.parent = (none, made))
    (leads : made.Leads (Files.start store.path) store.path.parent.names folder)
    (room : made.HasRoom store.draft folder) (token : Token) :
    let text := Text.utf8 (tokenText token)
    (made.HasRoom store.path folder ∧ ∃ moved place, store.write token files = (none, moved) ∧
        moved.locate store.path = .ok (place, .file text) ∧ moved.locate store.draft = .error .notFound) ∨
      made.IsTaken store.path ∧ ∃ fault drafted place, store.write token files = (some fault, drafted) ∧
        drafted.locate store.path = made.locate store.path ∧ drafted.locate store.draft = .ok (place, .file text) := by
  intro text
  have differ := name_draft_ne named beside
  have written := Files.writeText_of_placeFor room.placeFor (tokenText token)
  have same := Files.locate_set_beside named sound leads room.free (Ne.symm differ) (.file text)
  have leads' := leads.stay (Files.dirsStay_set room.free (.file text))
  have kept := Files.keepsRoom_set room.free text
  have there := Files.entry?_set_same room.free (.file text)
  generalize made.set (folder ++ [store.draft.name]) (.file text) = drafted at written same leads' kept there
  obtain free | taken := Files.HasRoom.or_isTaken named sound leads
  · obtain ⟨moved, replaced, gone, arrived⟩ := (kept room).replace_beside there (kept free) differ
    exact .inl ⟨free, moved, _, by simp only [write, dirs, written, replaced], arrived, gone⟩
  · have taken' : drafted.IsTaken store.path := by rwa [Files.IsTaken, same]
    obtain ⟨fault, lost⟩ := taken'.placeFor named sound leads'
    have found := (kept room).locate_of_file there
    have stays : drafted.replace store.draft store.path = .error fault := by
      rw [Files.replace, found]
      simp only [lost, Except.map]
    exact .inr ⟨taken, fault, drafted, _, by simp only [write, dirs, written, stays], same, found⟩

/-- **How far writing a token gets**: to the end, or to a draft that stays, or to the directories. -/
theorem write_cases (named : store.path.name ≠ "") (sound : store.path.hasNul = false)
    (beside : store.draft ≠ store.path) (token : Token) (files : Files) :
    let made := (files.makeDirs store.path.parent).2
    let text := Text.utf8 (tokenText token)
    (store.Writable files ∧ ∃ moved place, store.write token files = (none, moved) ∧
        moved.locate store.path = .ok (place, .file text) ∧ moved.locate store.draft = .error .notFound) ∨
      (store.Strands files ∧ ∃ fault drafted place, store.write token files = (some fault, drafted) ∧
        drafted.locate store.path = made.locate store.path ∧ drafted.locate store.draft = .ok (place, .file text)) ∨
      ¬ store.Strands files ∧ ∃ fault, store.write token files = (some fault, made) ∧
        ∀ bytes, made.read store.draft ≠ .ok bytes := by
  intro made text
  have listed := names_ne_nil named
  obtain ⟨fault?, dirs⟩ : ∃ fault?, files.makeDirs store.path.parent = (fault?, made) := ⟨_, rfl⟩
  cases fault? with
  | some fault =>
      refine .inr (.inr ⟨fun strands => ?_, fault, write_of_not_made dirs⟩)
      cases (congrArg Prod.fst dirs).symm.trans strands.made
  | none =>
      have all : (files.makeDirs store.path.parent).1 = none := congrArg Prod.fst dirs
      obtain ⟨⟨folder, leads⟩, -⟩ := Files.leads_of_makeDirsFrom (Files.makeDirsFrom_of_makeDirs all)
      cases placed : made.placeFor store.draft with
      | error fault =>
          refine .inr (.inr ⟨fun strands => ?_, fault, write_of_not_drafted dirs placed⟩)
          obtain ⟨place, drafted⟩ := strands.drafted
          cases placed.symm.trans drafted
      | ok place =>
          have room : made.HasRoom store.draft folder := by
            refine .of_placeFor store.names_draft_ne_nil ?_ placed
            rw [parent_draft]
            exact leads
          obtain ⟨free, moved⟩ | ⟨taken, stays⟩ := write_of_drafted listed sound beside dirs leads room token
          · exact .inl ⟨⟨named, all, ⟨_, free.placeFor⟩, place, placed⟩, moved⟩
          · exact .inr (.inl ⟨⟨all, ⟨place, placed⟩, taken⟩, stays⟩)

/-- Saving does not fail where the path names a file. -/
theorem outcome_save (named : store.path.name ≠ "") (sound : store.path.hasNul = false) :
    (store.save token files).outcome = .ok () := by
  cases ended : (store.save token files).outcome with
  | ok done => rfl
  | error error =>
      obtain ⟨nameless | nul, -⟩ := save_eq_error ended
      · exact absurd nameless named
      · cases sound.symm.trans nul

theorem state_save (named : store.path.name ≠ "") : (store.save token files).state = (store.write token files).2 := by
  rw [save, if_neg named]
  obtain ⟨fault?, written⟩ := store.write token files
  cases fault? with
  | none => rfl
  | some fault => cases fault <;> rfl

/-- **Saving a token** in a tree leaves a tree, however far it gets. -/
theorem isTree_save (tree : files.IsTree) (named : store.path.name ≠ "") (token : Token) :
    (store.save token files).state.IsTree := by
  rw [state_save named, write]
  have made := tree.makeDirs store.path.parent
  split
  · rename_i dirs
    rwa [dirs] at made
  · rename_i dirs
    rw [dirs] at made
    split
    · exact made
    · rename_i drafted written
      have drafted' := made.writeText written
      split
      · exact drafted'
      · rename_i moved
        exact drafted'.replace moved

/-- Forgetting a token in a tree leaves a tree. -/
theorem isTree_clear (tree : files.IsTree) : (store.clear files).state.IsTree := by
  unfold clear
  split
  · rename_i removed
    exact tree.remove removed
  · exact tree
  · exact tree

/-! ### Loading afterwards -/

theorem outcome_load_of_error {fault : FileFault} (lost : files.read store.path = .error fault) :
    (store.load files).outcome = .ok none := by
  simp only [load, readValue, Files.readText, lost]
  cases fault <;> rfl

/-- What is loaded depends on the content of the file only. -/
theorem outcome_load_congr {others : Files}
    (same : ∀ bytes, files.read store.path = .ok bytes ↔ others.read store.path = .ok bytes) :
    (store.load files).outcome = (store.load others).outcome := by
  cases content : files.read store.path with
  | ok bytes =>
      have content' := (same bytes).mp content
      have value : store.readValue files = store.readValue others := by
        simp only [readValue, Files.readText, content, content']
      simp only [load, value]
      split
      · rfl
      · rfl
      · split <;> rfl
  | error fault =>
      cases content' : others.read store.path with
      | ok bytes => cases content.symm.trans ((same bytes).mpr content')
      | error fault' => rw [outcome_load_of_error content, outcome_load_of_error content']

/-- **What saving a token leaves behind**.  It does not fail.  If the place of the file can be written the token is
loaded afterwards, and otherwise what would have been loaded once the directories had been made.  This is what was
loaded before, if the path does not go up.  A draft stays just if it is written and cannot be moved, and the token is in
it. -/
theorem save_ends (tree : files.IsTree) (named : store.path.name ≠ "") (sound : store.path.hasNul = false)
    (beside : store.draft ≠ store.path) (isText : token.IsText) :
    let made := (files.makeDirs store.path.parent).2
    let saved := (store.save token files).state
    (store.save token files).outcome = .ok () ∧
      (store.Writable files → store.load saved = .done (some token) saved) ∧
      (¬ store.Writable files → (store.load saved).outcome = (store.load made).outcome) ∧
      (".." ∉ store.path.names → (store.load made).outcome = (store.load files).outcome) ∧
      (∀ bytes, saved.read store.draft = .ok bytes ↔
        store.Strands files ∧ bytes = Text.utf8 (tokenText token)) ∧
      saved.IsTree := by
  intro made saved
  have state : saved = (store.write token files).2 := state_save named
  refine ⟨outcome_save named sound, fun writable => ?_, fun unwritable => ?_, fun down => ?_, fun bytes => ?_,
    isTree_save tree named token⟩
  · obtain ⟨saved', place, done, there, -⟩ := exists_saved writable token
    have same : saved = saved' := congrArg Step.state done
    rw [same]
    exact load_of_locate there isText
  · obtain ⟨writable, -⟩ | ⟨-, fault, drafted, place, written, same, -⟩ | ⟨-, fault, written, -⟩ :=
      write_cases named sound beside token files
    · exact absurd writable unwritable
    · refine outcome_load_congr fun bytes => ?_
      rw [state, written, Files.read_eq_ok_iff, Files.read_eq_ok_iff, same]
    · rw [state, written]
  · exact outcome_load_congr fun bytes => (files.gains_makeDirs store.path.parent).read_eq_ok_iff tree down
  · rw [state]
    obtain ⟨writable, moved, place, written, -, gone⟩ | ⟨strands, fault, drafted, place, written, -, there⟩ |
      ⟨safe, fault, written, none⟩ := write_cases named sound beside token files
    · rw [written, Files.read_eq_ok_iff, gone]
      exact iff_of_false nofun fun ⟨strands, _⟩ => strands.not_writable writable
    · rw [written, Files.read, there]
      simp [strands, eq_comm]
    · rw [written]
      exact iff_of_false (none bytes) fun ⟨strands, _⟩ => safe strands

/-- A tree with a directory at the place of the token file. -/
def takenTree : Files := ⟨[(["token.json"], .dir)]⟩

theorem save_ends_of_taken :
    let saved := (Store.save ⟨⟨false, ["token.json"]⟩⟩ oddToken takenTree).state
    saved.read ⟨false, ["token.tmp"]⟩ = .ok (Text.utf8 (tokenText oddToken)) ∧
      (Store.load ⟨⟨false, ["token.json"]⟩⟩ saved).outcome = .ok none := by
  have strands : Store.Strands ⟨⟨false, ["token.json"]⟩⟩ takenTree := ⟨rfl, ⟨_, rfl⟩, .inl ⟨_, rfl⟩⟩
  have tree : takenTree.IsTree := Files.isTree_of_entries (by decide)
  obtain ⟨-, -, kept, before, left, -⟩ := @save_ends ⟨⟨false, ["token.json"]⟩⟩ takenTree oddToken tree (by decide) rfl
    (by decide)
    ⟨⟨_, rfl⟩, ⟨_, rfl⟩, ⟨_, rfl⟩, ⟨_, rfl, by decide⟩, .inr ⟨_, rfl⟩⟩
  refine ⟨(left _).mpr ⟨strands, rfl⟩, ?_⟩
  rw [kept strands.not_writable, before (by decide)]
  exact outcome_load_of_error rfl

end Auth.Store

end EditHistory
