import EditHistory.Auth.Store
import EditHistory.Proofs.Files.Directories
import EditHistory.Proofs.Json.Writer

/-!
# Saving and loading a token

A token whose fields are texts is what is loaded after it has been saved, whatever the file held before, if the place of
the file can be written.  Saving and clearing leave a place that can be written, so both can be done again and again.

## Main definitions

* `Token.IsText` — a token as a token file can hold it
* `Store.Writable` — the place of a token file can be written

## Main statements

* `Token.read_value` — a token read back from its own fields
* `Store.load_save` — a token that is saved is loaded
* `Store.load_clear` — after the file has been cleared nobody has signed in
-/

namespace EditHistory.Auth

/-! ### Tokens as data -/

namespace Token

/-- The access token, the renewal token and the kind are texts, the last one not empty; the expiry is a double; and the
identity is a text or absent. -/
structure IsText (t : Token) : Prop where
  access : ∃ s, t.access = .str s
  renewal : ∃ s, t.renewal = .str s
  expiry : ∃ x, t.expiry = .float x
  kind : ∃ s, t.kind = .str s ∧ s ≠ ""
  identity : t.identity = .null ∨ ∃ s, t.identity = .str s

variable {t : Token}

/-- A text that is off is the empty one. -/
theorem text_orElse_empty (s : String) : ((Value.str s).orElse (.str "")).text = s := by
  unfold Value.orElse
  split
  · rfl
  · rename_i off
    have empty : s = "" := by simpa [Value.truthy] using off
    rw [empty]
    rfl

/-- **A token read back from its own fields is the token.** -/
theorem read_value (isText : t.IsText) : read t.value = .ok t := by
  obtain ⟨access, renewal, expiry, kind, identity⟩ := t
  obtain ⟨⟨a, rfl⟩, ⟨r, rfl⟩, ⟨x, rfl⟩, ⟨k, rfl, solid⟩, -⟩ := isText
  -- every field is found under its name, and the empty texts are those that the usual ones would replace
  have fields : read (value ⟨.str a, .str r, .float x, .str k, identity⟩) = .ok
      { access := .str a
        renewal := .str ((Value.str r).orElse (.str "")).text
        expiry := .float x
        kind := .str ((Value.str k).orElse (.str "Bearer")).text
        identity } := rfl
  have usual : (Value.str k).orElse (.str "Bearer") = .str k := if_pos (by simpa [Value.truthy] using solid)
  rw [fields, text_orElse_empty, usual]
  rfl

/-- The fields of a token can be written. -/
theorem isWritable_value (isText : t.IsText) : Json.IsWritable t.value := by
  obtain ⟨access, renewal, expiry, kind, identity⟩ := t
  obtain ⟨⟨a, rfl⟩, ⟨r, rfl⟩, ⟨x, rfl⟩, ⟨k, rfl, -⟩, identity⟩ := isText
  have distinct : ["access_token", "refresh_token", "expiry_time", "token_type", "id_token"].Nodup := by decide
  obtain rfl | ⟨i, rfl⟩ := identity <;>
    exact ⟨distinct, trivial, trivial, trivial, trivial, trivial, trivial⟩

end Token

namespace Store

variable {store : Store} {files : Files} {token : Token}

/-! ### The place of the file -/

/-- The place of a token file can be written: its directories can be made, and then both the file and the one beside it
have a place that no directory takes. -/
structure Writable (store : Store) (files : Files) : Prop where
  named : store.path.name ≠ ""
  made : (files.makeDirs store.path.parent).1 = none
  placed : ∃ place, (files.makeDirs store.path.parent).2.placeFor store.path = .ok place
  drafted : ∃ place, (files.makeDirs store.path.parent).2.placeFor store.draft = .ok place

/-- The file and the one beside it have room in a folder. -/
def HasRoom (store : Store) (files : Files) (folder : List String) : Prop :=
  files.HasRoom store.path folder ∧ files.HasRoom store.draft folder

theorem parent_draft (store : Store) : store.draft.parent.names = store.path.parent.names := List.dropLast_concat

namespace Writable

/-- Once the directories have been made, there is room. -/
theorem exists_room (writable : store.Writable files) :
    ∃ folder, store.HasRoom (files.makeDirs store.path.parent).2 folder := by
  obtain ⟨⟨folder, leads⟩, -⟩ := Files.leads_of_makeDirsFrom (Files.makeDirsFrom_of_makeDirs writable.made)
  obtain ⟨place, placed⟩ := writable.placed
  obtain ⟨other, drafted⟩ := writable.drafted
  have named : store.path.names ≠ [] := by
    intro empty
    exact writable.named (by rw [Path.name, empty]; rfl)
  refine ⟨folder, .of_placeFor named leads placed, .of_placeFor (by simp [draft, Path.withSuffix]) ?_ drafted⟩
  rw [parent_draft]
  exact leads

/-- A place with room can be written. -/
theorem of_hasRoom {folder : List String} (named : store.path.name ≠ "") (room : store.HasRoom files folder) :
    store.Writable files := by
  have made := room.1.makeDirs_parent
  exact
    { named
      made := by rw [made]
      placed := ⟨_, by rw [made]; exact room.1.placeFor⟩
      drafted := ⟨_, by rw [made]; exact room.2.placeFor⟩ }

/-- Before the directories have been made, there is room as well, or one of them is missing. -/
theorem room_or_notFound (writable : store.Writable files) :
    (∃ folder, store.HasRoom files folder) ∨ files.locate store.path = .error .notFound := by
  have made := Files.makeDirsFrom_of_makeDirs writable.made
  obtain ⟨folder, room⟩ := writable.exists_room
  obtain ⟨start, leads⟩ | lost := Files.leads_or_notFound made
  · have same : (files.makeDirs store.path.parent).2 = files := congrArg Prod.snd (made.symm.trans leads.makeDirsFrom)
    exact .inl ⟨folder, same ▸ room⟩
  · refine .inr ?_
    rw [Files.locate, if_neg (Bool.eq_false_iff.mp room.1.sound), Files.names_eq_append room.1.named]
    exact lost _

end Writable

/-! ### Saving, loading and clearing -/

/-- Saving puts the text of the token at the place of the file, and the place can be written again. -/
theorem exists_saved (writable : store.Writable files) (token : Token) :
    ∃ saved place, store.save token files = .done () saved ∧
      saved.locate store.path = .ok (place, .file (Text.utf8 (tokenText token))) ∧ store.Writable saved := by
  obtain ⟨folder, room, beside⟩ := writable.exists_room
  obtain ⟨drafted, written, kept, there⟩ := beside.writeText (tokenText token)
  obtain ⟨moved, replaced, kept', there'⟩ := (kept beside).replace there (kept room)
  refine ⟨moved, _, ?_, (kept' (kept room)).locate_of_file there',
    .of_hasRoom writable.named ⟨kept' (kept room), kept' (kept beside)⟩⟩
  have made : files.makeDirs store.path.parent = (none, (files.makeDirs store.path.parent).2) :=
    Prod.ext writable.made rfl
  rw [save, if_neg writable.named, write, made]
  simp only [written, replaced]

/-- Data that have been written to the file are read back. -/
theorem readValue_of_locate {place : List String} {v : Value}
    (there : files.locate store.path = .ok (place, .file (Text.utf8 (Json.pretty v)))) (writable : Json.IsWritable v) :
    store.readValue files = .ok v := by
  have content : files.readText store.path = .ok (Json.pretty v) := by
    simp only [Files.readText, Files.read, there, Text.decodeUtf8?_utf8,
      Text.unifyLineEnds_of_unified (Json.unified_pretty v)]
  simp only [readValue, content, Json.parse_pretty writable, Except.mapError]

/-- The text of a token is loaded as the token. -/
theorem load_of_locate {place : List String}
    (there : files.locate store.path = .ok (place, .file (Text.utf8 (tokenText token)))) (isText : token.IsText) :
    store.load files = .done (some token) files := by
  simp only [load, readValue_of_locate there (Token.isWritable_value isText), Token.read_value isText]

theorem load_of_notFound (absent : files.locate store.path = .error .notFound) :
    store.load files = .done none files := by
  simp only [load, readValue, Files.readText, Files.read, absent]

/-- **A token that is saved is loaded**, equal in all its fields, whatever the file held before, and no warning is given
on the way. -/
theorem load_save (writable : store.Writable files) (isText : token.IsText) :
    ∃ saved, store.save token files = .done () saved ∧ store.load saved = .done (some token) saved := by
  obtain ⟨saved, place, done, there, -⟩ := exists_saved writable token
  exact ⟨saved, done, load_of_locate there isText⟩

/-- A token with quotes, a backslash, control characters and characters beyond the first plane in its texts, that never
expires. -/
def oddToken : Token where
  access := .str "\"a\\b\"\x00\n\u2028é😀"
  renewal := .str ""
  expiry := .float (1 / 0)
  kind := .str " "
  identity := .str "null"

/-- A tree in which the token file holds bytes that are no text. -/
def brokenTree : Files := ⟨[(["home"], .dir), (["home", "token.json"], .file [0xff, 0x22])]⟩

theorem load_save_of_odd : ∃ saved,
    Store.save ⟨⟨false, ["home", "token.json"]⟩⟩ oddToken brokenTree = .done () saved ∧
      Store.load ⟨⟨false, ["home", "token.json"]⟩⟩ saved = .done (some oddToken) saved :=
  load_save ⟨by decide, rfl, ⟨_, rfl⟩, ⟨_, rfl⟩⟩
    ⟨⟨_, rfl⟩, ⟨_, rfl⟩, ⟨_, rfl⟩, ⟨_, rfl, by decide⟩, .inr ⟨_, rfl⟩⟩

/-- **After the file has been cleared nobody has signed in**, and the place can be written again. -/
theorem load_clear (writable : store.Writable files) :
    ∃ cleared, store.clear files = .done () cleared ∧ store.load cleared = .done none cleared ∧
      store.Writable cleared := by
  obtain ⟨folder, room, beside⟩ | absent := writable.room_or_notFound
  · obtain ⟨cleared, removed, kept, absent⟩ := room.remove
    refine ⟨cleared, ?_, load_of_notFound absent, .of_hasRoom writable.named ⟨kept room, kept beside⟩⟩
    rw [clear, removed]
  · refine ⟨files, ?_, load_of_notFound absent, writable⟩
    rw [clear, Files.remove, absent]

end Store

end EditHistory.Auth
