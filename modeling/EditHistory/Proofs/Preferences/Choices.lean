import EditHistory.Preferences
import EditHistory.Proofs.Yaml.Contents

/-!
# The choices on a sheet

The preferences on a sheet depend on nothing but what a few entries of a few sections stand for.

## Main definitions

* `Sheet.choice?` — what an entry of a section stands for

## Main statements

* `Preferences.choice?_sheet` — where the choice is found when the preferences are read
* `Preferences.ofData_of_speed` — sheets that differ in their speed only have preferences that differ in it only
-/

namespace EditHistory

open Yaml Outline

namespace Yaml

/-! ### Scalars -/

/-- Data that hold no other data. -/
def Data.isScalar : Data → Bool
  | .null | .bool _ | .int _ | .float _ | .str _ | .bytes _ | .moment .. => true
  | _ => false

theorem exists_of_map_eq_ok {ε α β : Type} {f : α → β} {x : Except ε α} {b : β} (mapped : x.map f = .ok b) :
    ∃ a, x = .ok a ∧ b = f a := by
  cases x with
  | error e => cases mapped
  | ok a => exact ⟨a, rfl, (Except.ok.inj mapped).symm⟩

theorem isScalar_of_readMoment {cs : List Char} {d : Data} (read : Kind.readMoment cs = .ok d) :
    d.isScalar = true := by
  unfold Kind.readMoment at read
  split at read
  · rename_i found
    obtain rfl := Except.ok.inj read
    obtain ⟨⟨year, month, day, clock⟩, -, found⟩ := Option.map_eq_some_iff.mp found
    cases clock with
    | none =>
        obtain ⟨-, -, rfl⟩ := exists_of_map_eq_ok found
        rfl
    | some c =>
        simp only [bind, Except.bind, pure, Except.pure] at found
        split at found
        · cases found
        · split at found
          · cases found
          · split at found
            · cases found
            · obtain rfl := Except.ok.inj found
              rfl
  · cases read
  · cases read

theorem isScalar_of_readAs {kind : Kind} {cs : List Char} {d : Data} (read : readAs kind cs = .ok d) :
    d.isScalar = true := by
  unfold readAs at read
  split at read
  · rename_i found
    obtain rfl := Except.ok.inj read
    cases kind with
    | moment =>
        obtain ⟨x, read, same⟩ := exists_of_map_eq_ok (show (Kind.readMoment cs).map some = _ from found)
        obtain rfl := Option.some.inj same
        exact isScalar_of_readMoment read
    | switch =>
        obtain ⟨x, -, same⟩ := exists_of_map_eq_ok (show (Kind.readSwitch cs).map _ = _ from found)
        obtain rfl := Option.some.inj same
        rfl
    | float =>
        obtain ⟨x, -, same⟩ := exists_of_map_eq_ok (show (Kind.readFloat cs).map _ = _ from found)
        obtain rfl := Option.some.inj same
        rfl
    | int =>
        obtain ⟨x, -, same⟩ := exists_of_map_eq_ok (show (Kind.readInt cs).map _ = _ from found)
        obtain rfl := Option.some.inj same
        rfl
    | bytes =>
        obtain ⟨x, read, same⟩ := exists_of_map_eq_ok (show (Kind.readBytes cs).map some = _ from found)
        obtain rfl := Option.some.inj same
        unfold Kind.readBytes at read
        split at read
        · obtain rfl := Except.ok.inj read
          rfl
        · cases read
    | null | text =>
        obtain rfl := Option.some.inj (Except.ok.inj found)
        rfl
    | merge | value => cases found
  · cases read
  · cases read

theorem Outline.Entry.isScalar_data (e : Entry) : e.data.isScalar = true := by
  obtain ⟨text, plain, -, same⟩ := Document.exists_scalar_entry e
  unfold Entry.data
  split
  · rename_i read
    exact isScalar_of_readAs (same.symm.trans read)
  · rfl

theorem Place.enter_of_isScalar (around : List Data) {d : Data} (scalar : d.isScalar = true) :
    Place.enter around d = ⟨d, around⟩ := by
  cases d <;> first | rfl | cases scalar

theorem Place.exists_depthLimit (p : Place) : ∃ n, p.depthLimit = n + 1 := ⟨_, rfl⟩

/-- What a scalar is shown as does not depend on what is around it. -/
theorem Place.text_of_isScalar (around : List Data) {d : Data} (scalar : d.isScalar = true) :
    Place.text ⟨d, around⟩ = Place.text ⟨d, []⟩ := by
  obtain ⟨m, here⟩ := Place.exists_depthLimit ⟨d, around⟩
  obtain ⟨n, there⟩ := Place.exists_depthLimit ⟨d, []⟩
  unfold Place.text
  rw [here, there]
  cases d with
  | bool b => cases b <;> rfl
  | null | int n | float x | str s | bytes bs | moment text shown => rfl
  | pair | list | set | mapping | again => cases scalar

/-! ### Choices -/

/-- The section of a sheet that has a name. -/
def Sheet.section? (f : Sheet) (name : String) : Option Section :=
  f.sections.find? fun s => s.name.chars == name.toList

/-- The entry of a section that has a name. -/
def Section.named? (s : Section) (name : String) : Option Entry :=
  s.entries.find? fun e => e.name.chars == name.toList

/-- What an entry of a section stands for. -/
def Sheet.choice? (f : Sheet) (part name : String) : Option Data :=
  (f.section? part).bind fun s => (s.named? name).map Entry.data

theorem lookup?_names {α : Type} (xs : List α) (name : α → Name) (x : α → Data) (key : String) :
    Data.lookup? (xs.map fun a => (.str (name a).chars, x a)) key =
      (xs.find? fun a => (name a).chars == key.toList).map x := by
  rw [Data.lookup?, List.find?_map, Option.map_map]
  rfl

theorem Section.get?_data (s : Section) (later : Nat) (around : List Data) (name : String) :
    (⟨s.data later, around⟩ : Place).get? name =
      ((s.named? name).map Entry.data).map fun d => ⟨d, s.data later :: around⟩ := by
  unfold Section.named? Section.data
  split
  · rename_i empty
    rw [empty]
    rfl
  · rw [Place.get?]
    simp only [lookup?_names s.entries Entry.name Entry.data name, Option.map_map]
    congr 1
    exact funext fun e => Place.enter_of_isScalar _ e.isScalar_data

theorem Section.enter_data (s : Section) (later : Nat) (around : List Data) :
    Place.enter around (s.data later) = ⟨s.data later, around⟩ := by
  unfold Section.data
  split <;> rfl

theorem Sheet.get?_data (f : Sheet) (part : String) :
    ∃ later, (⟨f.data, []⟩ : Place).get? part = (f.section? part).map fun s => ⟨s.data later, [f.data]⟩ := by
  unfold Sheet.section? Sheet.data
  split
  · rename_i empty
    rw [empty]
    exact ⟨0, rfl⟩
  · have sections : f.sections.find? (fun s => s.name.chars == part.toList) =
        ((placed 1 f.sections).find? fun p => p.1.name.chars == part.toList).map Prod.fst := by
      rw [← Sheet.map_fst_placed 1 f.sections, List.find?_map, Sheet.map_fst_placed]
      rfl
    rw [Place.get?]
    simp only [lookup?_names (placed 1 f.sections) (fun p => p.1.name) (fun p => p.1.data p.2) part, sections]
    cases (placed 1 f.sections).find? fun p => p.1.name.chars == part.toList with
    | none => exact ⟨0, rfl⟩
    | some p => exact ⟨p.2, congrArg some (p.1.enter_data p.2 _)⟩

/-! ### Distinct names -/

section Distinct

variable {α : Type} {name : α → Name} {before after : List α} {a : α}

theorem ne_of_distinct (distinct : Distinct ((before ++ a :: after).map name)) :
    ∀ b ∈ before, (name b).chars ≠ (name a).chars := by
  intro b mem same
  rw [Distinct, List.map_append, List.map_append, List.nodup_append] at distinct
  exact distinct.2.2 _ (List.mem_map_of_mem (List.mem_map_of_mem mem)) _
    (List.mem_map_of_mem (List.mem_map_of_mem List.mem_cons_self)) same

/-- Only one of several distinct names is found. -/
theorem find?_of_distinct {as : List α} (distinct : Distinct (as.map name)) (mem : a ∈ as) :
    as.find? (fun b => (name b).chars == (name a).chars) = some a := by
  obtain ⟨before, after, rfl⟩ := List.append_of_mem mem
  have others : before.find? (fun b => (name b).chars == (name a).chars) = none :=
    List.find?_eq_none.mpr fun b mem => by simpa using ne_of_distinct distinct b mem
  rw [List.find?_append, others, Option.none_or, List.find?_cons_of_pos (by simp)]

end Distinct

namespace Sheet

theorem of_section? {f : Sheet} {part : String} {s : Section} (found : f.section? part = some s) :
    s ∈ f.sections ∧ s.name.chars = part.toList := by
  unfold section? at found
  exact ⟨List.mem_of_find?_eq_some found, by simpa using List.find?_some found⟩

theorem of_named? {s : Section} {key : String} {e : Entry} (found : s.named? key = some e) :
    e ∈ s.entries ∧ e.name.chars = key.toList := by
  unfold Section.named? at found
  exact ⟨List.mem_of_find?_eq_some found, by simpa using List.find?_some found⟩

theorem section?_of_mem {f : Sheet} {s : Section} (mem : s ∈ f.sections) {part : String}
    (name : s.name.chars = part.toList) : f.section? part = some s := by
  rw [section?, ← name]
  exact find?_of_distinct f.distinct mem

theorem named?_of_mem {s : Section} {e : Entry} (mem : e ∈ s.entries) {key : String}
    (name : e.name.chars = key.toList) : s.named? key = some e := by
  rw [Section.named?, ← name]
  exact find?_of_distinct s.distinct mem

/-- Where one section is exchanged for another one of the same name, the choices in all others stay. -/
theorem choice?_of_section {f g : Sheet} {before after : List Section} {s t : Section}
    (old : f.sections = before ++ s :: after) (new : g.sections = before ++ t :: after) (name : t.name = s.name)
    {part key : String} (same : s.name.chars = part.toList → t.named? key = s.named? key) :
    g.choice? part key = f.choice? part key := by
  rw [choice?, choice?, section?, section?, old, new, List.find?_append, List.find?_append]
  cases before.find? fun s => s.name.chars == part.toList with
  | some r => rfl
  | none =>
      rw [List.find?_cons, List.find?_cons, name]
      by_cases here : s.name.chars = part.toList
      · simp [here, same here]
      · rw [beq_eq_false_iff_ne.mpr here]

end Sheet

end Yaml

namespace Preferences

/-- The choice on a sheet is found at some place. -/
theorem choice?_sheet (f : Sheet) (part name : String) :
    ∃ around, choice? ((⟨f.data, []⟩ : Place).get? part) name = (f.choice? part name).map fun d => ⟨d, around⟩ := by
  obtain ⟨later, found⟩ := f.get?_data part
  rw [choice?, found, Sheet.choice?]
  cases f.section? part with
  | none => exact ⟨[], rfl⟩
  | some s => exact ⟨_, s.get?_data later _ name⟩

theorem choice?_data_sheet (f : Sheet) (part name : String) :
    (choice? ((⟨f.data, []⟩ : Place).get? part) name).map Place.data = f.choice? part name := by
  obtain ⟨around, found⟩ := choice?_sheet f part name
  rw [found, Option.map_map]
  exact Option.map_id'

theorem isScalar_of_choice? {f : Sheet} {part name : String} {d : Data} (chosen : f.choice? part name = some d) :
    d.isScalar = true := by
  obtain ⟨s, -, chosen⟩ := Option.bind_eq_some_iff.mp chosen
  obtain ⟨e, -, rfl⟩ := Option.map_eq_some_iff.mp chosen
  exact e.isScalar_data

/-! ### Preferences -/

theorem autoPlay_sheet (f : Sheet) (usual : Bool) :
    (choice? ((⟨f.data, []⟩ : Place).get? "playback") "auto_play").elim usual (fun p => p.data.truthy) =
      (f.choice? "playback" "auto_play").elim usual Data.truthy := by
  obtain ⟨around, found⟩ := choice?_sheet f "playback" "auto_play"
  rw [found]
  cases f.choice? "playback" "auto_play" <;> rfl

theorem readPlayback_of_speed {f g : Sheet} {o chosen : Playback.Options} {x : Float}
    (same : g.choice? "playback" "auto_play" = f.choice? "playback" "auto_play")
    (speed : readSpeed o.speed (g.choice? "playback" "speed") = .ok x)
    (read : readPlayback o ((⟨f.data, []⟩ : Place).get? "playback") = .ok chosen) :
    readPlayback o ((⟨g.data, []⟩ : Place).get? "playback") = .ok { chosen with speed := x } := by
  rw [readPlayback, choice?_data_sheet, autoPlay_sheet] at read ⊢
  rw [speed, same]
  cases read' : readSpeed o.speed (f.choice? "playback" "speed") with
  | error e =>
      rw [read'] at read
      cases read
  | ok y =>
      rw [read'] at read
      obtain rfl := Except.ok.inj read
      rfl

theorem readClientId_congr {f g : Sheet} (same : g.choice? "auth" "client_id" = f.choice? "auth" "client_id")
    (usual : String) :
    readClientId usual ((⟨g.data, []⟩ : Place).get? "auth") =
      readClientId usual ((⟨f.data, []⟩ : Place).get? "auth") := by
  obtain ⟨around, found⟩ := choice?_sheet f "auth" "client_id"
  obtain ⟨around', found'⟩ := choice?_sheet g "auth" "client_id"
  rw [readClientId, readClientId, found, found', same]
  cases chosen : f.choice? "auth" "client_id" with
  | none => rfl
  | some d =>
      have scalar := isScalar_of_choice? chosen
      simp only [Option.map_some, Place.text_of_isScalar around scalar, Place.text_of_isScalar around' scalar]

/-- **Sheets that differ in nothing but the speed have preferences that differ in nothing else.** -/
theorem ofData_of_speed {f g : Sheet} {prefs : Preferences} {x : Float}
    (same : ∀ part name, (part, name) ≠ ("playback", "speed") → g.choice? part name = f.choice? part name)
    (speed : readSpeed usual.playback.speed (g.choice? "playback" "speed") = .ok x)
    (read : ofData f.data = .ok prefs) :
    ofData g.data = .ok { prefs with playback := { prefs.playback with speed := x } } := by
  have theme : readTheme usual.theme ((⟨g.data, []⟩ : Place).get? "display") =
      readTheme usual.theme ((⟨f.data, []⟩ : Place).get? "display") := by
    rw [readTheme, readTheme, choice?_data_sheet, choice?_data_sheet, same _ _ (by decide)]
  have level : readLogLevel usual.logLevel ((⟨g.data, []⟩ : Place).get? "logging") =
      readLogLevel usual.logLevel ((⟨f.data, []⟩ : Place).get? "logging") := by
    rw [readLogLevel, readLogLevel, choice?_data_sheet, choice?_data_sheet, same _ _ (by decide)]
  have client := readClientId_congr (same "auth" "client_id" (by decide)) usual.clientId
  rw [ofData] at read ⊢
  simp only [theme, level, client]
  cases before : readPlayback usual.playback ((⟨f.data, []⟩ : Place).get? "playback") with
  | error e =>
      simp only [before] at read
      cases read
  | ok chosen =>
      rw [readPlayback_of_speed (same "playback" "auto_play" (by decide)) speed before]
      simp only [before, bind, Except.bind] at read ⊢
      split at read
      · cases read
      · obtain rfl := Except.ok.inj read
        rfl

end Preferences

end EditHistory
