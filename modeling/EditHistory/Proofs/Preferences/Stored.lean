import EditHistory.Proofs.Preferences.Choices
import EditHistory.Proofs.Preferences.SpeedLine

/-!
# A sheet with a speed stored in it

If the speed of a sheet is where the writer looks for it then what the writer makes of the sheet is a sheet again.
That sheet has the new speed, and every other choice is as before.

## Main definitions

* `Sheet.SpeedInPlace` — the speed is where the writer looks for it
* `Sheet.Stores` — a sheet has a new speed, and is otherwise as another sheet

## Main statements

* `Sheet.exists_stores` — the writer makes such a sheet
-/

namespace EditHistory.Yaml

open EditHistory.Text Outline Preferences.SpeedLine

namespace Sheet

/-! ### Contents -/

/-- The names of the sections with what is in them. -/
def contents (f : Sheet) : List (Name × List Entry) := f.sections.map fun s => (s.name, s.entries)

/-- The choices depend on nothing but the contents. -/
theorem choice?_eq (f : Sheet) (part key : String) :
    f.choice? part key = (f.contents.find? fun p => p.1.chars == part.toList).bind fun p =>
      (p.2.find? fun e => e.name.chars == key.toList).map Entry.data := by
  rw [contents, List.find?_map, Option.bind_map]
  rfl

theorem readable_iff (f : Sheet) : f.Readable ↔ ∀ p ∈ f.contents, ∀ e ∈ p.2, ∃ data, e.read = .ok data := by
  simp [Readable, Section.Readable, contents]

/-! ### A speed that is stored -/

/-- The speed is where the writer looks for it. -/
structure SpeedInPlace (f : Sheet) : Prop where
  /-- No other section than that of playback has a speed. -/
  ofPlayback : ∀ s ∈ f.sections, ∀ e ∈ s.entries, e.name.chars = speedName → s.name.chars = playbackName
  /-- No section has the name of a speed. -/
  inside : ∀ s ∈ f.sections, s.name.chars ≠ speedName
  /-- A speed stands behind its key, and without blanks in it. -/
  onLine : ∀ s ∈ f.sections, ∀ e ∈ s.entries, e.name.chars = speedName → hasWord e = true
  /-- Where playback has no speed, its other entries are as deep as the one that is added. -/
  room : ∀ s ∈ f.sections, s.name.chars = playbackName →
    (∀ e ∈ s.entries, e.name.chars ≠ speedName) → s.entries = [] ∨ s.indent = 2

/-- A sheet has a value as its speed, and all other choices of another sheet. -/
structure Stores (v : Outline.Value) (f g : Sheet) : Prop where
  speed : ∀ d, v.read = .ok d → g.choice? "playback" "speed" = some d
  others : ∀ part key, (part, key) ≠ ("playback", "speed") → g.choice? part key = f.choice? part key
  readable : f.Readable → (∃ d, v.read = .ok d) → g.Readable

variable {f g : Sheet} {v : Outline.Value}

theorem Stores.of_contents {h : Sheet} (same : g.contents = f.contents) (stores : Stores v g h) : Stores v f h where
  speed := stores.speed
  others part key other := by rw [stores.others part key other, choice?_eq, choice?_eq, same]
  readable readable := stores.readable (by rwa [readable_iff, same, ← readable_iff])

theorem data_of_value {e : Entry} {width : Nat} (value : e.value = some (width, v)) {d : Data}
    (read : v.read = .ok d) : e.data = d := by
  rw [Entry.data, Entry.read, value, Option.elim_some, read]

theorem stores_of_section {before after : List Section} {s t : Section} (old : f.sections = before ++ s :: after)
    (new : g.sections = before ++ t :: after) (name : t.name = s.name) (playback : s.name.chars = playbackName)
    {e : Entry} (stored : t.named? "speed" = some e) {width : Nat} (value : e.value = some (width, v))
    (others : ∀ key, key ≠ "speed" → t.named? key = s.named? key)
    (entries : ∀ e' ∈ t.entries, e' = e ∨ e' ∈ s.entries) : Stores v f g where
  speed d read := by
    have found : g.section? "playback" = some t := section?_of_mem (by rw [new]; simp) (by rw [name, playback]; rfl)
    rw [choice?, found, Option.bind_some, stored, Option.map_some, data_of_value value read]
  others part key other := by
    refine choice?_of_section old new name fun here => others key ?_
    rintro rfl
    refine other ?_
    rw [← String.toList_injective (here.symm.trans playback : part.toList = "playback".toList)]
  readable := by
    rintro readable ⟨d, read⟩ r mem e' entry
    rw [new, List.mem_append, List.mem_cons] at mem
    rcases mem with mem | rfl | mem
    · exact readable r (by rw [old]; simp [mem]) e' entry
    · rcases entries e' entry with rfl | entry
      · exact ⟨d, by rw [Entry.read, value, Option.elim_some, read]⟩
      · exact readable s (by rw [old]; simp) e' entry
    · exact readable r (by rw [old]; simp [mem]) e' entry

theorem stores_of_new {t : Section} (new : g.sections = f.sections ++ [t]) (playback : t.name.chars = playbackName)
    {e : Entry} (only : t.entries = [e]) (speed : e.name.chars = speedName) {width : Nat}
    (value : e.value = some (width, v)) : Stores v f g where
  speed d read := by
    have found : g.section? "playback" = some t := section?_of_mem (by rw [new]; simp) playback
    have stored : t.named? "speed" = some e := named?_of_mem (by rw [only]; simp) speed
    rw [choice?, found, Option.bind_some, stored, Option.map_some, data_of_value value read]
  others part key other := by
    rw [choice?, choice?, section?, section?, new, List.find?_append]
    cases found : f.sections.find? fun s => s.name.chars == part.toList with
    | some r => rfl
    | none =>
        rw [Option.none_or, List.find?_singleton]
        split
        · rename_i here
          have isPlayback : part = "playback" :=
            String.toList_injective ((beq_iff_eq.mp here).symm.trans playback)
          have otherKey : speedName ≠ key.toList := fun same =>
            other (Prod.ext isPlayback (String.toList_injective same.symm))
          simp [Section.named?, only, speed, otherKey]
        · rfl
  readable := by
    rintro readable ⟨d, read⟩ r mem e' entry
    rw [new, List.mem_append, List.mem_singleton] at mem
    rcases mem with mem | rfl
    · exact readable r mem e' entry
    · rw [only] at entry
      obtain rfl := List.mem_singleton.mp entry
      exact ⟨d, by rw [Entry.read, value, Option.elim_some, read]⟩

/-! ### Lines of a speed -/

theorem not_isSpeed_rows {indent : Nat} {rows : List Row}
    (none : ∀ e ∈ rows.filterMap Row.held?, e.name.chars ≠ speedName) :
    ∀ l ∈ rows.map (Row.line indent), ¬IsSpeed l := by
  intro l mem speed
  obtain ⟨r, row, rfl⟩ := List.mem_map.mp mem
  cases r with
  | note n => exact speed
  | entry e => exact none e (List.mem_filterMap.mpr ⟨_, row, rfl⟩) speed

theorem not_isSpeed_section {s : Section} (name : s.name.chars ≠ speedName)
    (none : ∀ e ∈ s.entries, e.name.chars ≠ speedName) : ∀ l ∈ s.lines, ¬IsSpeed l := by
  intro l mem
  rcases List.mem_cons.mp mem with rfl | mem
  · exact name
  · exact not_isSpeed_rows none l mem

theorem not_isSpeed_notes (notes : List Note) : ∀ l ∈ notes.map Line.note, ¬IsSpeed l := by
  intro l mem speed
  obtain ⟨n, -, rfl⟩ := List.mem_map.mp mem
  exact speed

/-- The section of a line of a speed is that of playback. -/
theorem SpeedInPlace.isPlayback (inPlace : f.SpeedInPlace) {s : Section} (mem : s ∈ f.sections) {l : Line}
    (line : l ∈ s.lines) (speed : IsSpeed l) : s.name.chars = playbackName := by
  rcases List.mem_cons.mp line with rfl | line
  · exact absurd speed (inPlace.inside s mem)
  · obtain ⟨r, row, rfl⟩ := List.mem_map.mp line
    cases r with
    | note n => cases speed
    | entry e => exact inPlace.ofPlayback s mem e (List.mem_filterMap.mpr ⟨_, row, rfl⟩) speed

/-- No key at the start of a line is that of a speed. -/
theorem SpeedInPlace.inside_lines (inPlace : f.SpeedInPlace) : Inside f.lines := by
  intro e mem speed
  rcases List.mem_append.mp mem with mem | mem
  · exact not_isSpeed_notes _ _ mem speed
  · obtain ⟨s, isSection, mem⟩ := List.mem_flatMap.mp mem
    rcases List.mem_cons.mp mem with same | mem
    · obtain rfl := (Line.key.inj same).2
      exact inPlace.inside s isSection speed
    · obtain ⟨r, -, same⟩ := List.mem_map.mp mem
      cases r with
      | note n => cases same
      | entry e' => exact absurd (Line.key.inj same).1 (Nat.ne_of_gt s.inside)

/-! ### A speed that is there already -/

end Sheet

/-- A row with a value stored in it if it is that of a speed. -/
def Row.store (v : Outline.Value) : Row → Row
  | note n => .note n
  | entry e => .entry (storeEntry v e)

theorem filterMap_store (v : Outline.Value) (rows : List Row) :
    (rows.map (Row.store v)).filterMap Row.held? = (rows.filterMap Row.held?).map (storeEntry v) := by
  rw [List.filterMap_map, List.map_filterMap]
  congr 1
  funext r
  cases r <;> rfl

/-- A section with a value stored in it if it has a speed. -/
def Section.store (v : Outline.Value) (s : Section) : Section :=
  { s with
    rows := s.rows.map (Row.store v)
    distinct := by
      rw [filterMap_store, List.map_map, show Entry.name ∘ storeEntry v = Entry.name from funext (storeEntry_name v)]
      exact s.distinct }

theorem Section.entries_store (v : Outline.Value) (s : Section) :
    (s.store v).entries = s.entries.map (storeEntry v) :=
  filterMap_store v s.rows

theorem Section.named?_store (v : Outline.Value) (s : Section) (key : String) :
    (s.store v).named? key = (s.named? key).map (storeEntry v) := by
  rw [named?, entries_store, List.find?_map,
    show (fun e : Entry => e.name.chars == key.toList) ∘ storeEntry v = fun e => e.name.chars == key.toList from
      funext fun e => by rw [Function.comp_apply, storeEntry_name]]
  rfl

namespace Sheet

variable {f : Sheet}

/-- A sheet with a value stored in it if it has a speed. -/
def store (v : Outline.Value) (f : Sheet) : Sheet :=
  { f with
    sections := f.sections.map (Section.store v)
    distinct := by
      rw [List.map_map]
      exact f.distinct }

theorem SpeedInPlace.lines_store (inPlace : f.SpeedInPlace) (v : Outline.Value) :
    (f.store v).lines = f.lines.map (storeLine v) := by
  have section' : ∀ s ∈ f.sections, (s.store v).lines = s.lines.map (storeLine v) := by
    intro s mem
    have other : s.header.name.chars ≠ speedName := inPlace.inside s mem
    have header : storeLine v (.key 0 s.header) = .key 0 s.header := by rw [storeLine, storeEntry, if_neg other]
    rw [Section.lines, Section.lines, List.map_cons, header, Section.store, List.map_map, List.map_map]
    refine congrArg _ (List.map_congr_left fun r _ => ?_)
    cases r <;> rfl
  rw [lines, lines, store, List.map_append, map_storeLine (not_isSpeed_notes f.preamble), List.flatMap_map,
    List.map_flatMap, List.flatMap_def, List.flatMap_def, List.map_congr_left section']

/-- A sheet has one speed at most. -/
theorem SpeedInPlace.atMostOne (inPlace : f.SpeedInPlace) : AtMostOneSpeed f.lines := by
  have notes : AtMostOneSpeed (f.preamble.map Line.note) :=
    List.pairwise_map.mpr (List.pairwise_of_forall fun _ _ both => both.1)
  -- two speeds in a section would have the same name, and so would two sections that each have one
  have rows (s : Section) : AtMostOneSpeed (s.rows.map (Row.line s.indent)) := by
    have distinct := s.distinct
    rw [Distinct, List.map_map, List.Nodup, List.pairwise_map, List.pairwise_filterMap] at distinct
    refine List.pairwise_map.mpr (distinct.imp fun {r r'} other both => ?_)
    cases r with
    | note n => exact both.1
    | entry e =>
        cases r' with
        | note n => exact both.2
        | entry e' => exact other e rfl e' rfl (both.1.trans both.2.symm)
  have sections : AtMostOneSpeed (f.sections.flatMap Section.lines) := by
    have distinct := f.distinct
    rw [Distinct, List.map_map, List.Nodup, List.pairwise_map] at distinct
    refine List.pairwise_flatMap.mpr ⟨fun s mem => ?_, ?_⟩
    · exact List.pairwise_cons.mpr ⟨fun l _ both => inPlace.inside s mem both.1, rows s⟩
    · refine distinct.imp_of_mem fun {s t} mem mem' other l line m line' both => other ?_
      exact (inPlace.isPlayback mem line both.1).trans (inPlace.isPlayback mem' line' both.2).symm
  exact List.pairwise_append.mpr ⟨notes, sections, fun l line _ _ both => not_isSpeed_notes _ l line both.1⟩

theorem section?_store (v : Outline.Value) (f : Sheet) (part : String) :
    (f.store v).section? part = (f.section? part).map (Section.store v) := by
  rw [section?, store, List.find?_map]
  rfl

theorem choice?_store (v : Outline.Value) (f : Sheet) (part key : String) :
    (f.store v).choice? part key =
      (f.section? part).bind fun s => (s.named? key).map fun e => (storeEntry v e).data := by
  rw [choice?, section?_store, Option.bind_map]
  refine congrArg _ (funext fun s => ?_)
  rw [Function.comp_apply, Section.named?_store, Option.map_map]
  rfl

/-- The value stored is the speed, and nothing else changes. -/
theorem SpeedInPlace.stores_store (inPlace : f.SpeedInPlace) {s : Section} (mem : s ∈ f.sections) {e : Entry}
    (entry : e ∈ s.entries) (speed : e.name.chars = speedName) (v : Outline.Value) : Stores v f (f.store v) where
  speed d read := by
    have playback := inPlace.ofPlayback s mem e entry speed
    have stored : storeEntry v e = speedEntry e v := if_pos speed
    rw [choice?_store, section?_of_mem mem playback, Option.bind_some, named?_of_mem entry speed, Option.map_some,
      stored, data_of_value rfl read]
  others part key other := by
    rw [choice?_store, choice?]
    cases found : f.section? part with
    | none => rfl
    | some r =>
        rw [Option.bind_some, Option.bind_some]
        cases found' : r.named? key with
        | none => rfl
        | some e' =>
            have notSpeed : e'.name.chars ≠ speedName := by
              intro speed
              obtain ⟨isSection, part'⟩ := of_section? found
              obtain ⟨entry', key'⟩ := of_named? found'
              have playback := inPlace.ofPlayback r isSection e' entry' speed
              exact other (Prod.ext (String.toList_injective (part'.symm.trans playback))
                (String.toList_injective (key'.symm.trans speed)))
            rw [Option.map_some, Option.map_some, storeEntry, if_neg notSpeed]
  readable := by
    rintro readable ⟨d, read⟩ r' mem' e' entry'
    obtain ⟨r, isSection, rfl⟩ := List.mem_map.mp mem'
    rw [Section.entries_store] at entry'
    obtain ⟨e, entry, rfl⟩ := List.mem_map.mp entry'
    unfold storeEntry
    split
    · exact ⟨d, read⟩
    · exact readable r isSection e entry

theorem SpeedInPlace.replaceValue_store (inPlace : f.SpeedInPlace) {s : Section} (mem : s ∈ f.sections) {e : Entry}
    (entry : e ∈ s.entries) (speed : e.name.chars = speedName) (v : Outline.Value) :
    replaceValue v.text f.text = (f.store v).text := by
  obtain ⟨width, old, value, oneWord⟩ := exists_of_hasWord (inPlace.onLine s mem e entry speed)
  have line : .key s.indent e ∈ f.lines := by
    obtain ⟨r, row, isEntry⟩ := List.mem_filterMap.mp entry
    cases r with
    | note n => cases isEntry
    | entry e' =>
        obtain rfl := Option.some.inj isEntry
        exact List.mem_append_right _ (List.mem_flatMap.mpr
          ⟨s, mem, List.mem_cons_of_mem _ (List.mem_map_of_mem (f := Row.line s.indent) row)⟩)
  rw [text, text, inPlace.lines_store,
    replaceValue_of_only inPlace.atMostOne inPlace.inside_lines line speed value oneWord]

/-! ### A speed that is not there yet -/

/-- Only the lines of playback can be lines of a speed. -/
theorem SpeedInPlace.not_isSpeed (inPlace : f.SpeedInPlace)
    (none : ∀ s ∈ f.sections, s.name.chars = playbackName → ∀ e ∈ s.entries, e.name.chars ≠ speedName) :
    ∀ l ∈ f.lines, ¬IsSpeed l := by
  intro l line
  rcases List.mem_append.mp line with line | line
  · exact not_isSpeed_notes _ l line
  · obtain ⟨s, mem, line⟩ := List.mem_flatMap.mp line
    intro speed
    exact not_isSpeed_section (inPlace.inside s mem) (none s mem (inPlace.isPlayback mem line speed)) l line speed

theorem not_opensPlayback_notes (notes : List Note) : ∀ l ∈ notes.map Line.note, ¬OpensPlayback l := by
  intro l mem opens
  obtain ⟨n, -, rfl⟩ := List.mem_map.mp mem
  exact opens

theorem not_opensPlayback_section {s : Section} (name : s.name.chars ≠ playbackName) :
    ∀ l ∈ s.lines, ¬OpensPlayback l := by
  intro l mem opens
  rcases List.mem_cons.mp mem with rfl | mem
  · exact name opens.2
  · obtain ⟨r, -, rfl⟩ := List.mem_map.mp mem
    cases r with
    | note n => exact opens
    | entry e => exact Nat.ne_of_gt s.inside opens.1

theorem not_opensPlayback {notes : List Note} {ss : List Section} (others : ∀ s ∈ ss, s.name.chars ≠ playbackName) :
    ∀ l ∈ notes.map Line.note ++ ss.flatMap Section.lines, ¬OpensPlayback l := by
  intro l line
  rcases List.mem_append.mp line with line | line
  · exact not_opensPlayback_notes _ l line
  · obtain ⟨s, mem, line⟩ := List.mem_flatMap.mp line
    exact not_opensPlayback_section (others s mem) l line

end Sheet

/-- The key of a speed. -/
def speedKey : Name := ⟨speedName, by decide, by decide, by decide, by decide⟩

/-- The key of the section of playback. -/
def playbackKey : Name := ⟨playbackName, by decide, by decide, by decide, by decide⟩

/-- The entry that is added for a speed. -/
def newEntry (v : Outline.Value) : Entry := ⟨speedKey, some (0, v), none⟩

/-- A section without a speed with one added. -/
def Section.withSpeed (s : Section) (new : ∀ e ∈ s.entries, e.name.chars ≠ speedName) (v : Outline.Value) :
    Section :=
  { s with
    indent := 2
    rows := .entry (newEntry v) :: s.rows
    inside := Nat.zero_lt_two
    distinct := by
      rw [List.filterMap_cons_some (by rfl)]
      refine List.nodup_cons.mpr ⟨fun same => ?_, s.distinct⟩
      obtain ⟨name, mem, same⟩ := List.mem_map.mp same
      obtain ⟨e, entry, rfl⟩ := List.mem_map.mp mem
      exact new e entry same }

theorem Section.lines_withSpeed {s : Section} (new : ∀ e ∈ s.entries, e.name.chars ≠ speedName) (v : Outline.Value)
    (room : s.entries = [] ∨ s.indent = 2) :
    (s.withSpeed new v).lines = .key 0 s.header :: .key 2 (newEntry v) :: s.rows.map (Row.line s.indent) := by
  have rows : s.rows.map (Row.line 2) = s.rows.map (Row.line s.indent) := by
    rcases room with none | indent
    · refine List.map_congr_left fun r row => ?_
      cases r with
      | note n => rfl
      | entry e => exact absurd (List.filterMap_eq_nil_iff.mp none _ row) (Option.some_ne_none e)
    · rw [indent]
  rw [← rows]
  rfl

namespace Sheet

variable {f : Sheet}

/-- Below the line that opens playback there is room for a speed. -/
theorem SpeedInPlace.exists_withSpeed (inPlace : f.SpeedInPlace) {s : Section} (mem : s ∈ f.sections)
    (playback : s.name.chars = playbackName) (new : ∀ e ∈ s.entries, e.name.chars ≠ speedName) (v : Outline.Value) :
    ∃ g : Sheet, replaceValue v.text f.text = g.text ∧ Stores v f g := by
  have room := inPlace.room s mem playback new
  have onlyPlayback : ∀ r ∈ f.sections, r.name.chars = playbackName → ∀ e ∈ r.entries, e.name.chars ≠ speedName := by
    intro r mem' playback'
    obtain rfl : r = s :=
      Option.some.inj ((section?_of_mem mem' playback').symm.trans (section?_of_mem mem playback))
    exact new
  obtain ⟨before, after, sections⟩ := List.append_of_mem mem
  let g : Sheet :=
    { f with
      sections := before ++ s.withSpeed new v :: after
      distinct := by simpa [sections, Section.withSpeed] using f.distinct }
  have others : ∀ r ∈ before, r.name.chars ≠ playbackName :=
    fun r mem => playback ▸ ne_of_distinct (sections ▸ f.distinct) r mem
  let pre : List Line := f.preamble.map Line.note ++ before.flatMap Section.lines
  let post : List Line := s.rows.map (Row.line s.indent) ++ after.flatMap Section.lines
  have lines : f.lines = pre ++ .key 0 s.header :: post := by
    simp [Sheet.lines, sections, Section.lines, pre, post]
  have lines' : g.lines = pre ++ .key 0 s.header :: .key 2 (newEntry v) :: post := by
    simp [Sheet.lines, g, Section.lines_withSpeed new v room, pre, post]
  have opens : OpensPlayback (.key 0 s.header) := ⟨rfl, playback⟩
  refine ⟨g, ?_, ?_⟩
  · rw [Sheet.text, Sheet.text, lines, lines']
    exact replaceValue_of_section (lines ▸ inPlace.not_isSpeed onlyPlayback) (not_opensPlayback others) opens
      (e := newEntry v) rfl rfl v
  · have stored : (s.withSpeed new v).named? "speed" = some (newEntry v) := named?_of_mem List.mem_cons_self rfl
    refine stores_of_section sections rfl rfl playback stored rfl (fun key other => ?_) fun e' mem => ?_
    · have otherKey : ¬(speedName == key.toList) = true := fun same =>
        other (String.toList_injective (beq_iff_eq.mp same).symm)
      exact List.find?_cons_of_neg otherKey
    · exact List.mem_cons.mp mem

end Sheet

/-! ### A section that is not there yet -/

/-- A list ends with elements of one kind, after the last that is not. -/
theorem exists_last {α : Type} (p : α → Prop) (xs : List α) :
    (∀ x ∈ xs, p x) ∨ ∃ front x back, xs = front ++ x :: back ∧ ¬p x ∧ ∀ y ∈ back, p y := by
  induction xs with
  | nil => exact .inl fun x mem => absurd mem List.not_mem_nil
  | cons x xs ih =>
      rcases ih with all | ⟨front, y, back, rfl, other, all⟩
      · by_cases here : p x
        · exact .inl (List.forall_mem_cons.mpr ⟨here, all⟩)
        · exact .inr ⟨[], x, xs, rfl, here, all⟩
      · exact .inr ⟨x :: front, y, back, rfl, other, all⟩

theorem filterMap_held?_of_blank {indent : Nat} {rows : List Row}
    (blank : ∀ r ∈ rows, IsBlankLine (Row.line indent r)) : rows.filterMap Row.held? = [] := by
  refine List.filterMap_eq_nil_iff.mpr fun r row => ?_
  cases r with
  | note n => rfl
  | entry e => cases blank _ row

/-- A section without the blank lines at its end, and with another one there. -/
theorem Section.exists_trimmed (s : Section) : ∃ (t : Section) (front : List Line) (l : Line) (blanks : List Line),
    s.lines = front ++ l :: blanks ∧ t.lines = front ++ [l, .note (.blank 0)] ∧ ¬IsBlankLine l ∧
      (∀ m ∈ blanks, IsBlankLine m) ∧ t.name = s.name ∧ t.entries = s.entries := by
  rcases exists_last (fun r : Row => IsBlankLine (r.line s.indent)) s.rows with all | ⟨above, r, below, rows, some, all⟩
  · exact ⟨{ s with rows := [.note (.blank 0)], distinct := List.nodup_nil }, [], .key 0 s.header, _, rfl, rfl, id,
      List.forall_mem_map.mpr all, rfl, (filterMap_held?_of_blank all).symm⟩
  · have entries : s.entries = (above ++ [r, .note (.blank 0)]).filterMap Row.held? := by
      rw [Section.entries, rows, List.filterMap_append, List.filterMap_append, ← List.singleton_append,
        List.filterMap_append, filterMap_held?_of_blank all]
      cases r <;> rfl
    have distinct : Distinct (s.entries.map Entry.name) := s.distinct
    refine ⟨{ s with rows := above ++ [r, .note (.blank 0)], distinct := entries ▸ distinct },
      .key 0 s.header :: above.map (Row.line s.indent), r.line s.indent, below.map (Row.line s.indent), ?_, ?_, some,
      List.forall_mem_map.mpr all, rfl, entries.symm⟩
    · rw [Section.lines, rows, List.map_append, List.map_cons, List.cons_append]
    · rw [Section.lines, List.map_append]
      rfl

namespace Sheet

variable {f : Sheet}

/-- A sheet without the blank lines at its end, and with another one there. -/
theorem exists_trimmed (f : Sheet) : ∃ (g : Sheet) (left : List Line), g.lines = left ++ [.note (.blank 0)] ∧
    left ≠ [] ∧ trimEnd f.text = Outline.text left ∧ g.contents = f.contents := by
  rcases List.eq_nil_or_concat f.sections with none | ⟨ss, s, sections⟩
  -- without sections the lines at the end are notes, and otherwise they are the rows of the last section
  · have lines : f.lines = f.preamble.map Line.note := by rw [Sheet.lines, none]; exact List.append_nil _
    have contents (notes : List Note) : (⟨notes, [], List.nodup_nil⟩ : Sheet).contents = f.contents := by
      rw [Sheet.contents, Sheet.contents, none]
    rcases exists_last (fun n : Note => IsBlankLine (.note n)) f.preamble with all | ⟨above, n, below, notes, some, all⟩
    · refine ⟨⟨[.blank 0, .blank 0], [], List.nodup_nil⟩, [.note (.blank 0)], rfl, List.cons_ne_nil _ _, ?_,
        contents _⟩
      rw [Sheet.text, lines]
      exact trimEnd_text_of_blank (List.forall_mem_map.mpr all)
    · refine ⟨⟨above ++ [n, .blank 0], [], List.nodup_nil⟩, above.map Line.note ++ [.note n], ?_, ?_, ?_,
        contents _⟩
      · simp [Sheet.lines]
      · simp
      · rw [Sheet.text, lines, notes, List.map_append, List.map_cons]
        exact trimEnd_text some (List.forall_mem_map.mpr all)
  · obtain ⟨t, front, l, blanks, lines, lines', some, blank, name, entries⟩ := s.exists_trimmed
    refine ⟨{ f with sections := ss ++ [t], distinct := by simpa [sections, name] using f.distinct },
      f.preamble.map Line.note ++ (ss.flatMap Section.lines ++ (front ++ [l])), ?_, ?_, ?_, ?_⟩
    · simp [Sheet.lines, lines']
    · simp
    · have split : f.lines = (f.preamble.map Line.note ++ (ss.flatMap Section.lines ++ front)) ++ l :: blanks := by
        simp [Sheet.lines, sections, lines]
      rw [Sheet.text, split, trimEnd_text some blank, List.append_assoc, List.append_assoc]
    · simp [Sheet.contents, sections, name, entries]

/-- Without a section of playback there is one at the end. -/
theorem SpeedInPlace.exists_withPlayback (inPlace : f.SpeedInPlace)
    (none : ∀ s ∈ f.sections, s.name.chars ≠ playbackName) (v : Outline.Value) :
    ∃ g : Sheet, replaceValue v.text f.text = g.text ∧ Stores v f g := by
  obtain ⟨h, left, lines, some, trimmed, contents⟩ := f.exists_trimmed
  let s : Section := ⟨playbackKey, .none, 2, [.entry (newEntry v), .note (.blank 0)], by decide, List.nodup_cons.mpr
    ⟨List.not_mem_nil, List.nodup_nil⟩⟩
  have noSpeed := inPlace.not_isSpeed fun s mem playback => absurd playback (none s mem)
  have names : h.sections.map Section.name = f.sections.map Section.name := by
    have same := congrArg (List.map Prod.fst) contents
    rwa [Sheet.contents, Sheet.contents, List.map_map, List.map_map] at same
  let g : Sheet :=
    { h with
      sections := h.sections ++ [s]
      distinct := by
        rw [List.map_append, names, Distinct, List.map_append, List.nodup_append]
        refine ⟨f.distinct, List.nodup_cons.mpr ⟨List.not_mem_nil, List.nodup_nil⟩, fun name old name' new => ?_⟩
        obtain ⟨key, isName, rfl⟩ := List.mem_map.mp old
        obtain ⟨r, mem, rfl⟩ := List.mem_map.mp isName
        rw [List.mem_singleton.mp new]
        exact none r mem }
  refine ⟨g, ?_, ?_⟩
  · have lines' : g.lines = h.lines ++ s.lines := by simp [Sheet.lines, g]
    rw [Sheet.text, Sheet.text, lines', lines, List.append_assoc]
    exact replaceValue_of_neither noSpeed (not_opensPlayback none) trimmed some (h := s.header) (e := newEntry v)
      rfl ⟨rfl, rfl⟩ rfl rfl v
  · exact (stores_of_new (t := s) rfl rfl rfl rfl rfl).of_contents contents

/-- **What the writer makes of a sheet is a sheet that stores the value as the speed.** -/
theorem SpeedInPlace.exists_stores (inPlace : f.SpeedInPlace) (v : Outline.Value) :
    ∃ g : Sheet, replaceValue v.text f.text = g.text ∧ Stores v f g := by
  -- the three places of the writer: the line of the speed, the line below that of playback, and the end of the text
  by_cases playback : ∃ s ∈ f.sections, s.name.chars = playbackName
  · obtain ⟨s, mem, playback⟩ := playback
    by_cases speed : ∃ e ∈ s.entries, e.name.chars = speedName
    · obtain ⟨e, entry, speed⟩ := speed
      exact ⟨f.store v, inPlace.replaceValue_store mem entry speed v, inPlace.stores_store mem entry speed v⟩
    · exact inPlace.exists_withSpeed mem playback (fun e entry same => speed ⟨e, entry, same⟩) v
  · exact inPlace.exists_withPlayback (fun s mem same => playback ⟨s, mem, same⟩) v

end Sheet

end EditHistory.Yaml
