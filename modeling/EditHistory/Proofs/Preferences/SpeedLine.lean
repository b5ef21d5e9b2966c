import EditHistory.Preferences.SpeedLine
import EditHistory.Proofs.Text.Blank
import EditHistory.Proofs.Yaml.Landing
import EditHistory.Proofs.Yaml.Outline

/-!
# Storing a speed in an outline

In an outline the writer finds the line of a speed exactly if some line has the key of a speed, and the line that opens
the section of playback exactly if some line has that key at its start.  What it then writes is an outline again.

## Main statements

* `SpeedLine.findAtLineStart_key`, `SpeedLine.findAtLineStart_section` — what the writer finds
* `SpeedLine.replaceValue_of_speed` — the first line of a speed gets the new value
* `SpeedLine.replaceValue_of_section` — without one a line is added below the line that opens the section
* `SpeedLine.replaceValue_of_neither` — without that line a section is added at the end
-/

namespace EditHistory.Preferences.SpeedLine

open EditHistory.Text Yaml Outline

/-! ### Names -/

/-- Texts before the first colon are determined by the whole. -/
theorem append_colon_inj {a b x y : List Char} (noColon : ':' ∉ a) (noColon' : ':' ∉ b) :
    a ++ ':' :: x = b ++ ':' :: y ↔ a = b ∧ x = y := by
  constructor
  · intro same
    induction a generalizing b with
    | nil =>
        cases b with
        | nil => exact ⟨rfl, (List.cons.inj same).2⟩
        | cons d b => exact absurd ((List.cons.inj same).1 ▸ List.mem_cons_self) noColon'
    | cons c a ih =>
        cases b with
        | nil => exact absurd ((List.cons.inj same).1 ▸ List.mem_cons_self) noColon
        | cons d b =>
            obtain ⟨rfl, tails⟩ := List.cons.inj same
            obtain ⟨rfl, rest⟩ := ih (fun mem => noColon (List.mem_cons_of_mem _ mem))
              (fun mem => noColon' (List.mem_cons_of_mem _ mem)) tails
            exact ⟨rfl, rest⟩
  · rintro ⟨rfl, rfl⟩
    rfl

/-! ### Lines -/

/-- The text up to the end of some lines. -/
def front (ls : List Line) : List Char := ls.flatMap fun l => l.text ++ ['\n']

theorem after_of_ne_nil {ls : List Line} (some : ls ≠ []) : after ls = '\n' :: text ls := by
  cases ls with
  | nil => exact absurd rfl some
  | cons l ls => rfl

theorem text_append_cons (ls : List Line) (l : Line) (post : List Line) :
    text (ls ++ l :: post) = front ls ++ (l.text ++ after post) := by
  induction ls with
  | nil => rfl
  | cons m ls ih =>
      rw [List.cons_append, text_cons, after_of_ne_nil (by simp), ih]
      simp [front]

theorem after_append (ls post : List Line) : after (ls ++ post) = after ls ++ after post := by
  induction ls with
  | nil => rfl
  | cons l ls ih => rw [List.cons_append, after, after, ih, List.cons_append, List.append_assoc]

theorem text_append {ls : List Line} (some : ls ≠ []) (post : List Line) :
    text (ls ++ post) = text ls ++ after post := by
  cases ls with
  | nil => exact absurd rfl some
  | cons l ls => rw [List.cons_append, text_cons, text_cons, after_append, List.append_assoc]

theorem noNewline_spaces (n : Nat) : '\n' ∉ spaces n := fun mem => by
  cases List.eq_of_mem_replicate mem

theorem noNewline_name (name : Name) : '\n' ∉ name.chars := fun mem => by
  cases List.all_eq_true.mp name.inAlphabet _ mem

theorem noNewline_comment (c : Comment) : '\n' ∉ c.chars := fun mem => by
  cases List.all_eq_true.mp c.onOneLine _ mem

theorem noNewline_value (v : Outline.Value) : '\n' ∉ v.text := by
  cases v with
  | word cs isWord =>
      intro mem
      cases solid_of_isWord isWord _ mem
  | quoted cs isQuotable =>
      intro mem
      simp only [Outline.Value.text, List.mem_cons, List.mem_append, List.not_mem_nil, or_false] at mem
      rcases mem with (mem | mem) | mem
      · exact absurd mem (by decide)
      · cases List.all_eq_true.mp isQuotable _ mem
      · exact absurd mem (by decide)

theorem noNewline_afterColon (e : Entry) : '\n' ∉ e.afterColon := by
  unfold Entry.afterColon Entry.valueText Entry.remarkText
  cases e.value <;> cases e.remark <;>
    simp [noNewline_spaces, noNewline_value, noNewline_comment]

theorem noNewline_line (l : Line) : '\n' ∉ l.text := by
  cases l with
  | note n =>
      cases n <;> simp [Line.text, Note.text, noNewline_spaces, noNewline_comment]
  | key indent e =>
      simp [Line.text, noNewline_spaces, noNewline_name, noNewline_afterColon]

/-! ### The search -/

variable (at? : List Char → Option (List Char × List Char))

theorem findAtLineStart_append {line : List Char} (noNewline : '\n' ∉ line) (rest : List Char) :
    findAtLineStart at? false (line ++ rest) =
      (findAtLineStart at? false rest).map fun p => (line ++ p.1, p.2) := by
  induction line with
  | nil => simp
  | cons c line ih =>
      have other : (c == '\n') = false := beq_eq_false_iff_ne.mpr fun same => noNewline (same ▸ List.mem_cons_self)
      rw [List.cons_append, findAtLineStart]
      simp only [Bool.false_eq_true, if_false, other, ih fun mem => noNewline (List.mem_cons_of_mem _ mem),
        Option.map_map]
      rfl

/-- A line at which nothing is found is passed over. -/
theorem findAtLineStart_line {l : Line} {ls : List Line} (nothing : at? (text (l :: ls)) = none) :
    findAtLineStart at? true (text (l :: ls)) =
      if ls = [] then none else (findAtLineStart at? true (text ls)).map fun p => (l.text ++ '\n' :: p.1, p.2) := by
  have noNewline := noNewline_line l
  have behind : findAtLineStart at? false (after ls) =
      if ls = [] then none else (findAtLineStart at? true (text ls)).map fun p => ('\n' :: p.1, p.2) := by
    cases ls with
    | nil => rfl
    | cons m ls => rfl
  rw [text_cons] at nothing ⊢
  cases chars : l.text with
  | nil =>
      rw [chars] at nothing
      cases ls with
      | nil => rfl
      | cons m ls =>
          rw [List.nil_append, after_cons] at nothing ⊢
          simp only [findAtLineStart, if_true, nothing]
          rfl
  | cons c cs =>
      rw [chars] at nothing noNewline
      have other : (c == '\n') = false := beq_eq_false_iff_ne.mpr fun same => noNewline (same ▸ List.mem_cons_self)
      rw [List.cons_append] at nothing ⊢
      simp only [findAtLineStart, if_true, nothing, other,
        findAtLineStart_append at? (fun mem => noNewline (List.mem_cons_of_mem _ mem)), behind]
      split <;> simp [Option.map_map, Function.comp_def]

/-! ### The line of a speed -/

/-- The name of a speed. -/
def speedName : List Char := "speed".toList

/-- The name of the section of playback. -/
def playbackName : List Char := "playback".toList

theorem key_eq : key = speedName ++ [':'] := rfl

theorem sectionKey_eq : sectionKey = playbackName ++ [':'] := rfl

/-- A line with the key of a speed. -/
def IsSpeed : Line → Prop
  | .note _ => False
  | .key _ e => e.name.chars = speedName

/-- No key at the start of a line is that of a speed. -/
def Inside (ls : List Line) : Prop := ∀ e, Line.key 0 e ∈ ls → e.name.chars ≠ speedName

theorem noColon_name (name : Name) : ':' ∉ name.chars := fun mem => by
  cases List.all_eq_true.mp name.inAlphabet _ mem

theorem blank_spaces {n : Nat} : ∀ c ∈ spaces n, isBlank c = true := by
  intro c mem
  rw [List.eq_of_mem_replicate mem]
  rfl

theorem blanks_spaces (n : Nat) {c : Char} (rest : List Char) (solid : isBlank c = false) :
    (spaces n ++ c :: rest).takeWhile isBlank = spaces n ∧ (spaces n ++ c :: rest).dropWhile isBlank = c :: rest := by
  constructor
  · rw [List.takeWhile_append_of_pos blank_spaces, List.takeWhile_cons_of_neg (by simp [solid]), List.append_nil]
  · rw [List.dropWhile_append_of_pos blank_spaces, List.dropWhile_cons_of_neg (by simp [solid])]

/-- The key of a speed is found where a line has it, unless it is at the start of the line. -/
theorem keyAt?_key (indent : Nat) (e : Entry) (rest : List Char) :
    keyAt? (spaces indent ++ (e.name.chars ++ ':' :: rest)) =
      if indent ≠ 0 ∧ e.name.chars = speedName then some (spaces indent ++ key, rest) else none := by
  obtain ⟨c, cs, chars, letter⟩ := e.name.exists_letter
  have noColon := noColon_name e.name
  have blanks := blanks_spaces indent (cs ++ ':' :: rest) (isBlank_of_isAlpha letter)
  rw [← List.cons_append, ← chars] at blanks
  rw [keyAt?, blanks.1, blanks.2]
  cases indent with
  | zero => rfl
  | succ n =>
      simp only [spaces, List.replicate_succ, ne_eq, Nat.succ_ne_zero, not_false_eq_true, true_and]
      split
      · rename_i same
        have dropped : dropMark? key (e.name.chars ++ ':' :: rest) = some rest :=
          dropMark?_eq_some_iff.mpr (by rw [same, key_eq, List.append_assoc]; rfl)
        rw [dropped]
        rfl
      · rename_i other
        cases dropped : dropMark? key (e.name.chars ++ ':' :: rest) with
        | none => rfl
        | some r =>
            have same := dropMark?_eq_some_iff.mp dropped
            rw [key_eq, List.append_assoc, List.singleton_append] at same
            exact absurd ((append_colon_inj noColon (by decide)).mp same).1 other

theorem keyAt?_comment (indent : Nat) (rest : List Char) : keyAt? (spaces indent ++ '#' :: rest) = none := by
  have blanks := blanks_spaces indent rest (show isBlank '#' = false from rfl)
  rw [keyAt?, blanks.1, blanks.2]
  cases indent <;> rfl

/-- What leads a text: blanks, and the key of a speed behind them or not. -/
theorem keyAt?_blanks {blanks : List Char} (cs : List Char) (blank : ∀ c ∈ blanks, isBlank c = true)
    (some : blanks ≠ []) :
    keyAt? (blanks ++ cs) =
      (dropMark? key (cs.dropWhile isBlank)).map fun rest => (blanks ++ (cs.takeWhile isBlank ++ key), rest) := by
  rw [keyAt?, List.takeWhile_append_of_pos blank, List.dropWhile_append_of_pos blank]
  cases blanks with
  | nil => exact absurd rfl some
  | cons c blanks =>
      simp only [List.cons_append, List.append_assoc]

/-- A text of lines that starts with the key of a speed has that key at the start of its first line. -/
theorem not_inside_of_dropMark? {ls : List Line} {rest : List Char} (found : dropMark? key (text ls) = some rest) :
    ¬Inside ls := by
  have same := dropMark?_eq_some_iff.mp found
  rw [key_eq, List.append_assoc, List.singleton_append] at same
  have noSpace (n : Nat) (cs : List Char) : spaces (n + 1) ++ cs ≠ speedName ++ ':' :: rest := fun same => by
    cases same
  intro inside
  cases ls with
  | nil => cases same
  | cons l ls =>
      rw [text_cons] at same
      cases l with
      | note n =>
          cases n with
          | blank width =>
              cases width with
              | zero => cases ls <;> cases same
              | succ width => exact noSpace width _ same
          | comment indent c =>
              rw [Line.text, Note.text, List.append_assoc] at same
              cases indent with
              | zero => cases same
              | succ indent => exact noSpace indent _ same
      | key indent e =>
          rw [Line.text, List.append_assoc, List.append_assoc] at same
          cases indent with
          | zero =>
              exact inside e List.mem_cons_self ((append_colon_inj (noColon_name e.name) (by decide)).mp same).1
          | succ indent => exact noSpace indent _ same

/-- A key below a blank line is found from that line on: the white space that leads a key may go across line ends. -/
theorem keyAt?_blank_cons (width : Nat) {m : Line} {ls : List Line} (inside : Inside (m :: ls)) :
    keyAt? (text (.note (.blank width) :: m :: ls)) =
      (keyAt? (text (m :: ls))).map fun p => (spaces width ++ '\n' :: p.1, p.2) := by
  have split : text (.note (.blank width) :: m :: ls) = (spaces width ++ ['\n']) ++ text (m :: ls) := by
    rw [text_cons, after_cons, List.append_assoc]
    rfl
  have blank : ∀ c ∈ spaces width ++ ['\n'], isBlank c = true := by
    intro c mem
    rcases List.mem_append.mp mem with mem | mem
    · exact blank_spaces c mem
    · rw [List.mem_singleton.mp mem]
      rfl
  rw [split, keyAt?_blanks _ blank (by simp), keyAt?]
  cases blanks : (text (m :: ls)).takeWhile isBlank with
  | cons c cs => simp [Option.map_map, Function.comp_def]
  | nil =>
      -- no white space leads the next line, so the key would be at its start
      have whole : (text (m :: ls)).dropWhile isBlank = text (m :: ls) := by
        have parts := List.takeWhile_append_dropWhile (p := isBlank) (l := text (m :: ls))
        rwa [blanks, List.nil_append] at parts
      cases dropped : dropMark? key ((text (m :: ls)).dropWhile isBlank) with
      | none => rfl
      | some rest => exact absurd inside (not_inside_of_dropMark? (whole ▸ dropped))

variable {at?} in
theorem findAtLineStart_of_some {cs : List Char} {found : List Char × List Char} (here : at? cs = some found)
    (some : cs ≠ []) : findAtLineStart at? true cs = .some found := by
  cases cs with
  | nil => exact absurd rfl some
  | cons c cs => simp only [findAtLineStart, if_true, here]

/-- The search goes on behind a line without the key of a speed. -/
theorem findAtLineStart_key_cons {l : Line} (other : ¬IsSpeed l) {ls : List Line} (inside : Inside ls) :
    findAtLineStart keyAt? true (text (l :: ls)) =
      if ls = [] then none
      else (findAtLineStart keyAt? true (text ls)).map fun p => (l.text ++ '\n' :: p.1, p.2) := by
  cases l with
  | key indent e =>
      refine findAtLineStart_line keyAt? ?_
      rw [text_cons, Line.text, List.append_assoc, List.append_assoc, List.cons_append, keyAt?_key,
        if_neg fun speed => other speed.2]
  | note n =>
      cases n with
      | comment indent c =>
          refine findAtLineStart_line keyAt? ?_
          rw [text_cons, Line.text, Note.text, List.append_assoc]
          exact keyAt?_comment indent _
      | blank width =>
          cases ls with
          | nil =>
              refine findAtLineStart_line keyAt? ?_
              cases width with
              | zero => rfl
              | succ width => exact keyAt?_blanks [] blank_spaces (List.cons_ne_nil _ _)
          | cons m ls =>
              have here := keyAt?_blank_cons width inside
              cases found : keyAt? (text (m :: ls)) with
              | none => exact findAtLineStart_line keyAt? (by rw [here, found]; rfl)
              | some p =>
                  rw [found, Option.map_some] at here
                  have solid : text (m :: ls) ≠ [] := by
                    intro empty
                    rw [empty] at found
                    cases found
                  have solid' : text (.note (.blank width) :: m :: ls) ≠ [] := by
                    rw [text_cons, after_cons]
                    simp
                  rw [findAtLineStart_of_some here solid', if_neg (List.cons_ne_nil m ls),
                    findAtLineStart_of_some found solid]
                  rfl

theorem Inside.tail {l : Line} {ls : List Line} (inside : Inside (l :: ls)) : Inside ls :=
  fun e mem => inside e (List.mem_cons_of_mem _ mem)

/-- The first line of a speed is found, up to its colon. -/
theorem findAtLineStart_key {pre post : List Line} {indent : Nat} {e : Entry} (before : ∀ l ∈ pre, ¬IsSpeed l)
    (inside : Inside (pre ++ .key indent e :: post)) (speed : e.name.chars = speedName) :
    findAtLineStart keyAt? true (text (pre ++ .key indent e :: post)) =
      some (front pre ++ (spaces indent ++ key), e.afterColon ++ after post) := by
  induction pre with
  | nil =>
      have deep : indent ≠ 0 := by
        rintro rfl
        exact inside e List.mem_cons_self speed
      have whole : text ([] ++ .key indent e :: post) =
          spaces indent ++ (e.name.chars ++ ':' :: (e.afterColon ++ after post)) := by
        rw [List.nil_append, text_cons, Line.text, List.append_assoc, List.append_assoc, List.cons_append]
      have found := keyAt?_key indent e (e.afterColon ++ after post)
      rw [if_pos ⟨deep, speed⟩] at found
      rw [whole, findAtLineStart_of_some found (by simp)]
      rfl
  | cons l pre ih =>
      have inside : Inside (pre ++ .key indent e :: post) := inside.tail
      rw [List.cons_append, findAtLineStart_key_cons (before l List.mem_cons_self) inside, if_neg (by simp),
        ih (fun m mem => before m (List.mem_cons_of_mem _ mem)) inside]
      simp [front]

/-- Without a line of a speed none is found. -/
theorem findAtLineStart_key_none {ls : List Line} (none : ∀ l ∈ ls, ¬IsSpeed l) :
    findAtLineStart keyAt? true (text ls) = .none := by
  induction ls with
  | nil => rfl
  | cons l ls ih =>
      have none' : ∀ m ∈ ls, ¬IsSpeed m := fun m mem => none m (List.mem_cons_of_mem _ mem)
      rw [findAtLineStart_key_cons (none l List.mem_cons_self) fun e mem => none' _ mem, ih none']
      split <;> rfl

/-! ### The line that opens the section of playback -/

/-- A line that opens the section of playback. -/
def OpensPlayback : Line → Prop
  | .note _ => False
  | .key indent e => indent = 0 ∧ e.name.chars = playbackName

theorem sectionAt?_of_opens {l : Line} (opens : OpensPlayback l) (ls : List Line) :
    sectionAt? (text (l :: ls)) = some (l.text, after ls) := by
  have noNewline := noNewline_line l
  cases l with
  | note n => cases opens
  | key indent e =>
      obtain ⟨rfl, name⟩ := opens
      have dropped : dropMark? sectionKey (text (.key 0 e :: ls)) = some (e.afterColon ++ after ls) := by
        refine dropMark?_eq_some_iff.mpr ?_
        rw [text_cons, Line.text, name, sectionKey_eq]
        simp [spaces]
      have goesOn : ∀ c ∈ (Line.key 0 e).text, (c != '\n') = true := fun c mem =>
        bne_iff_ne.mpr fun same => noNewline (same ▸ mem)
      have stops : (after ls).takeWhile (· != '\n') = [] ∧ (after ls).dropWhile (· != '\n') = after ls := by
        cases ls <;> exact ⟨rfl, rfl⟩
      rw [sectionAt?, dropped, text_cons, List.takeWhile_append_of_pos goesOn, List.dropWhile_append_of_pos goesOn,
        stops.1, stops.2, List.append_nil]
      rfl

theorem sectionAt?_of_not_opens {l : Line} (other : ¬OpensPlayback l) (ls : List Line) :
    sectionAt? (text (l :: ls)) = none := by
  rw [sectionAt?, Option.map_eq_none_iff]
  cases dropped : dropMark? sectionKey (text (l :: ls)) with
  | none => rfl
  | some rest =>
      have same := dropMark?_eq_some_iff.mp dropped
      rw [sectionKey_eq, List.append_assoc, List.singleton_append, text_cons] at same
      have noSpace (n : Nat) (cs : List Char) : spaces (n + 1) ++ cs ≠ playbackName ++ ':' :: rest := fun same => by
        cases same
      cases l with
      | note n =>
          cases n with
          | blank width =>
              cases width with
              | zero => cases ls <;> cases same
              | succ width => exact absurd same (noSpace width _)
          | comment indent c =>
              rw [Line.text, Note.text, List.append_assoc] at same
              cases indent with
              | zero => cases same
              | succ indent => exact absurd same (noSpace indent _)
      | key indent e =>
          rw [Line.text, List.append_assoc, List.append_assoc] at same
          cases indent with
          | zero => exact absurd ⟨rfl, ((append_colon_inj (noColon_name e.name) (by decide)).mp same).1⟩ other
          | succ indent => exact absurd same (noSpace indent _)

/-- The first line that opens the section of playback is found. -/
theorem findAtLineStart_section {pre post : List Line} {l : Line} (before : ∀ m ∈ pre, ¬OpensPlayback m)
    (opens : OpensPlayback l) :
    findAtLineStart sectionAt? true (text (pre ++ l :: post)) = some (front pre ++ l.text, after post) := by
  induction pre with
  | nil =>
      have solid : text (l :: post) ≠ [] := by
        cases l with
        | note n => cases opens
        | key indent e => simp [Line.text]
      exact findAtLineStart_of_some (sectionAt?_of_opens opens post) solid
  | cons m pre ih =>
      rw [List.cons_append, findAtLineStart_line _ (sectionAt?_of_not_opens (before m List.mem_cons_self) _),
        if_neg (by simp), ih fun k mem => before k (List.mem_cons_of_mem _ mem)]
      simp [front]

/-- Without a line that opens the section of playback none is found. -/
theorem findAtLineStart_section_none {ls : List Line} (none : ∀ l ∈ ls, ¬OpensPlayback l) :
    findAtLineStart sectionAt? true (text ls) = .none := by
  induction ls with
  | nil => rfl
  | cons l ls ih =>
      rw [findAtLineStart_line _ (sectionAt?_of_not_opens (none l List.mem_cons_self) ls),
        ih fun m mem => none m (List.mem_cons_of_mem _ mem)]
      split <;> rfl

/-! ### Storing -/

/-- A value without blanks in it. -/
def IsOneWord (v : Outline.Value) : Prop := ∀ c ∈ v.text, isBlank c = false

/-- Whether an entry has a value without blanks in it. -/
def hasWord (e : Entry) : Bool := e.value.any fun v => v.2.text.all fun c => !isBlank c

theorem exists_of_hasWord {e : Entry} (has : hasWord e = true) :
    ∃ width v, e.value = some (width, v) ∧ IsOneWord v := by
  obtain ⟨⟨width, v⟩, value, oneWord⟩ := (Option.any_eq_true _ _).mp has
  exact ⟨width, v, value, fun c mem => by simpa using List.all_eq_true.mp oneWord c mem⟩

theorem exists_cons_of_value (v : Outline.Value) : ∃ c cs, v.text = c :: cs := by
  cases v with
  | word cs isWord =>
      cases cs with
      | nil => cases isWord
      | cons c cs => exact ⟨c, cs, rfl⟩
  | quoted cs isQuotable => exact ⟨'"', _, rfl⟩

/-- The first word is replaced, and nothing behind it. -/
theorem replaceWord_of_word {word rest behind : List Char} (value : List Char)
    (first : rest.dropWhile isBlank = word ++ behind) (some : word ≠ []) (solid : ∀ c ∈ word, isBlank c = false)
    (stops : behind.dropWhile (fun c => !isBlank c) = behind) :
    replaceWord value rest = ' ' :: value ++ behind := by
  have dropped : (word ++ behind).dropWhile (fun c => !isBlank c) = behind := by
    rw [List.dropWhile_append_of_pos fun d mem => by simp [solid d mem], stops]
  rw [replaceWord, first]
  cases whole : word ++ behind with
  | nil => exact absurd (List.append_eq_nil_iff.mp whole).1 some
  | cons c cs => simp only [← whole, dropped]

/-- What stands behind a value starts with white space. -/
theorem dropWhile_remarkText (e : Entry) (ls : List Line) :
    (e.remarkText ++ after ls).dropWhile (fun c => !isBlank c) = e.remarkText ++ after ls := by
  unfold Entry.remarkText
  cases e.remark <;> cases ls <;> rfl

/-- What stands behind a colon starts with white space. -/
theorem dropWhile_afterColon (e : Entry) (ls : List Line) :
    (e.afterColon ++ after ls).dropWhile (fun c => !isBlank c) = e.afterColon ++ after ls := by
  unfold Entry.afterColon Entry.valueText Entry.remarkText
  cases e.value <;> cases e.remark <;> cases ls <;> rfl

/-- A value of one word is replaced, and nothing behind it. -/
theorem replaceWord_of_value {v : Outline.Value} (oneWord : IsOneWord v) (width : Nat) (word : List Char) (e : Entry)
    (ls : List Line) :
    replaceWord word (spaces width ++ (v.text ++ (e.remarkText ++ after ls))) =
      ' ' :: word ++ (e.remarkText ++ after ls) := by
  obtain ⟨c, cs, chars⟩ := exists_cons_of_value v
  have solid : isBlank c = false := oneWord c (chars ▸ List.mem_cons_self)
  have blanks := (blanks_spaces width (cs ++ (e.remarkText ++ after ls)) solid).2
  rw [← List.cons_append, ← chars] at blanks
  exact replaceWord_of_word word blanks (by simp [chars]) oneWord (dropWhile_remarkText e ls)

/-- The entry of a speed. -/
def speedEntry (e : Entry) (value : Outline.Value) : Entry := { e with value := some (0, value) }

/-- **The first line of a speed gets the new value; its comment and all other lines stay as they are.** -/
theorem replaceValue_of_speed {pre post : List Line} {indent width : Nat} {e : Entry} {old : Outline.Value}
    (before : ∀ l ∈ pre, ¬IsSpeed l) (inside : Inside (pre ++ .key indent e :: post))
    (speed : e.name.chars = speedName) (value : e.value = some (width, old)) (oneWord : IsOneWord old)
    (new : Outline.Value) :
    replaceValue new.text (text (pre ++ .key indent e :: post)) =
      text (pre ++ .key indent (speedEntry e new) :: post) := by
  have found := findAtLineStart_key before inside speed
  have old' : e.afterColon ++ after post = spaces (width + 1) ++ (old.text ++ (e.remarkText ++ after post)) := by
    simp [Entry.afterColon, Entry.valueText, value]
  rw [replaceValue, found, old']
  simp only [replaceWord_of_value oneWord]
  rw [text_append_cons, Line.text]
  simp [speedEntry, speed, key_eq, Entry.afterColon, Entry.valueText, Entry.remarkText, spaces]

/-- An entry with a value stored in it if it is that of a speed. -/
def storeEntry (v : Outline.Value) (e : Entry) : Entry := if e.name.chars = speedName then speedEntry e v else e

@[simp] theorem storeEntry_name (v : Outline.Value) (e : Entry) : (storeEntry v e).name = e.name := by
  unfold storeEntry
  split <;> rfl

/-- A line with a value stored in it if it is that of a speed. -/
def storeLine (v : Outline.Value) : Line → Line
  | .note n => .note n
  | .key indent e => .key indent (storeEntry v e)

theorem map_storeLine {v : Outline.Value} {ls : List Line} (none : ∀ l ∈ ls, ¬IsSpeed l) :
    ls.map (storeLine v) = ls := by
  have same : ∀ l ∈ ls, storeLine v l = id l := by
    intro l mem
    cases l with
    | note n => rfl
    | key indent e =>
        have other : e.name.chars ≠ speedName := none _ mem
        rw [storeLine, storeEntry, if_neg other, id]
  rw [List.map_congr_left same, List.map_id]

/-- At most one of some lines is that of a speed. -/
def AtMostOneSpeed (ls : List Line) : Prop := ls.Pairwise fun l m => ¬(IsSpeed l ∧ IsSpeed m)

/-- **The line of a speed gets the new value if it is the only one; its comment and all other lines stay.** -/
theorem replaceValue_of_only {ls : List Line} (only : AtMostOneSpeed ls) (inside : Inside ls) {indent width : Nat}
    {e : Entry} {old : Outline.Value} (mem : .key indent e ∈ ls) (speed : e.name.chars = speedName)
    (value : e.value = some (width, old)) (oneWord : IsOneWord old) (new : Outline.Value) :
    replaceValue new.text (text ls) = text (ls.map (storeLine new)) := by
  obtain ⟨pre, post, rfl⟩ := List.append_of_mem mem
  rw [AtMostOneSpeed, List.pairwise_append, List.pairwise_cons] at only
  obtain ⟨-, ⟨after, -⟩, before⟩ := only
  have above : ∀ l ∈ pre, ¬IsSpeed l := fun l mem isSpeed =>
    before l mem _ List.mem_cons_self ⟨isSpeed, speed⟩
  have below : ∀ l ∈ post, ¬IsSpeed l := fun l mem isSpeed => after l mem ⟨speed, isSpeed⟩
  rw [replaceValue_of_speed above inside speed value oneWord, List.map_append, List.map_cons, map_storeLine above,
    map_storeLine below, storeLine, storeEntry, if_pos speed]

/-- **A speed that has no value on its line takes the place of the next key, whose value stays behind it.**  The white
space between a key and its value may go across line ends, so the first word after the key is the next key. -/
theorem replaceValue_of_empty {pre post : List Line} {indent indent' : Nat} {e e' : Entry}
    (before : ∀ l ∈ pre, ¬IsSpeed l) (inside : Inside (pre ++ .key indent e :: .key indent' e' :: post))
    (speed : e.name.chars = speedName) (empty : e.afterColon = []) (value : List Char) :
    replaceValue value (text (pre ++ .key indent e :: .key indent' e' :: post)) =
      front pre ++ (spaces indent ++ key ++ ' ' :: value ++ (e'.afterColon ++ after post)) := by
  have solid : ∀ c ∈ e'.name.chars ++ [':'], isBlank c = false := by
    intro c mem
    rcases List.mem_append.mp mem with mem | mem
    · exact isBlank_of_isNameChar (List.all_eq_true.mp e'.name.inAlphabet c mem)
    · rw [List.mem_singleton.mp mem]
      rfl
  have nextLine : e.afterColon ++ after (.key indent' e' :: post) =
      '\n' :: (spaces indent' ++ (e'.name.chars ++ ':' :: (e'.afterColon ++ after post))) := by
    simp [empty, after, Line.text]
  have nextKey : (e.afterColon ++ after (.key indent' e' :: post)).dropWhile isBlank =
      e'.name.chars ++ [':'] ++ (e'.afterColon ++ after post) := by
    obtain ⟨c, cs, chars, letter⟩ := e'.name.exists_letter
    have blanks := (blanks_spaces indent' (cs ++ ':' :: (e'.afterColon ++ after post))
      (isBlank_of_isAlpha letter)).2
    rw [nextLine, List.dropWhile_cons_of_pos rfl, chars, List.cons_append, blanks]
    simp
  rw [replaceValue, findAtLineStart_key before inside speed]
  simp only [replaceWord_of_word value nextKey (by simp) solid (dropWhile_afterColon e' post),
    List.append_assoc]

example : replaceValue ['4'] "playback:\n  speed:\n  auto_play: true\n".toList =
    "playback:\n  speed: 4 true\n".toList := by decide

/-- **Without a line of a speed one is added below the line that opens the section of playback.** -/
theorem replaceValue_of_section {pre post : List Line} {l : Line} (none : ∀ m ∈ pre ++ l :: post, ¬IsSpeed m)
    (before : ∀ m ∈ pre, ¬OpensPlayback m) (opens : OpensPlayback l) {e : Entry} (speed : e.name.chars = speedName)
    (remark : e.remark = .none) (new : Outline.Value) :
    replaceValue new.text (text (pre ++ l :: post)) = text (pre ++ l :: .key 2 (speedEntry e new) :: post) := by
  rw [replaceValue, findAtLineStart_key_none none, findAtLineStart_section before opens]
  simp only
  rw [text_append_cons, after_cons, text_cons, Line.text]
  simp [speedEntry, speed, speedName, Entry.afterColon, Entry.valueText, Entry.remarkText, remark, spaces]

/-! ### A section at the end -/

/-- A text that ends with a character that is not blank. -/
def EndsSolid (cs : List Char) : Prop := ∃ c, cs.getLast? = some c ∧ isBlank c = false

theorem EndsSolid.append {cs : List Char} (solid : EndsSolid cs) (front : List Char) : EndsSolid (front ++ cs) := by
  obtain ⟨c, last, noBlank⟩ := solid
  exact ⟨c, by rw [List.getLast?_append, last, Option.some_or], noBlank⟩

theorem endsSolid_singleton {c : Char} (solid : isBlank c = false) : EndsSolid [c] := ⟨c, rfl, solid⟩

theorem endsSolid_comment (c : Comment) : EndsSolid ('#' :: c.chars) := by
  have trimmed := c.trimmed
  cases last : c.chars.getLast? with
  | none =>
      rw [List.getLast?_eq_none_iff.mp last]
      exact endsSolid_singleton rfl
  | some d =>
      refine ⟨d, ?_, by simpa [last] using trimmed⟩
      rw [List.getLast?_cons, last]
      rfl

theorem endsSolid_value (v : Outline.Value) : EndsSolid v.text := by
  cases v with
  | word cs isWord =>
      cases last : cs.getLast? with
      | none =>
          rw [List.getLast?_eq_none_iff.mp last] at isWord
          cases isWord
      | some c => exact ⟨c, last, solid_of_isWord isWord c (List.mem_of_getLast? last)⟩
  | quoted cs isQuotable => exact (endsSolid_singleton (c := '"') rfl).append ('"' :: cs)

theorem endsSolid_entry (e : Entry) : EndsSolid (':' :: e.afterColon) := by
  unfold Entry.afterColon Entry.valueText Entry.remarkText
  cases e.remark with
  | some r => exact (((endsSolid_comment r.2).append (spaces (r.1 + 1))).append _).append [':']
  | none =>
      cases e.value with
      | some v =>
          rw [Option.elim_none, List.append_nil]
          exact ((endsSolid_value v.2).append (spaces (v.1 + 1))).append [':']
      | none => exact endsSolid_singleton rfl

/-- A line without anything on it. -/
def IsBlankLine : Line → Prop
  | .note (.blank _) => True
  | _ => False

/-- A line with something on it does not end with a blank. -/
theorem endsSolid_line {l : Line} (some : ¬IsBlankLine l) : EndsSolid l.text := by
  cases l with
  | note n =>
      cases n with
      | blank width => exact absurd trivial some
      | comment indent c => exact (endsSolid_comment c).append (spaces indent)
  | key indent e => exact ((endsSolid_entry e).append e.name.chars).append (spaces indent)

theorem blank_after {ls : List Line} (blank : ∀ l ∈ ls, IsBlankLine l) : ∀ c ∈ after ls, isBlank c = true := by
  induction ls with
  | nil => exact fun c mem => absurd mem List.not_mem_nil
  | cons l ls ih =>
      have below := ih fun m mem => blank m (List.mem_cons_of_mem _ mem)
      have here := blank l List.mem_cons_self
      intro c mem
      rcases List.mem_cons.mp mem with rfl | mem
      · rfl
      · rcases List.mem_append.mp mem with mem | mem
        · cases l with
          | key indent e => cases here
          | note n =>
              cases n with
              | comment indent r => cases here
              | blank width => exact blank_spaces c mem
        · exact below c mem

theorem trimEnd_append {cs blanks : List Char} (solid : EndsSolid cs) (blank : ∀ c ∈ blanks, isBlank c = true) :
    trimEnd (cs ++ blanks) = cs := by
  obtain ⟨c, last, noBlank⟩ := solid
  refine trimEnd_append_blanks (fun d last' => ?_) blank
  rw [last] at last'
  exact Option.some.inj last' ▸ noBlank

/-- Blank lines at the end are trimmed. -/
theorem trimEnd_text {ls blanks : List Line} {l : Line} (some : ¬IsBlankLine l) (blank : ∀ m ∈ blanks, IsBlankLine m) :
    trimEnd (text (ls ++ l :: blanks)) = text (ls ++ [l]) := by
  rw [text_append_cons, text_append_cons, ← List.append_assoc, after, List.append_nil]
  exact trimEnd_append ((endsSolid_line some).append (front ls)) (blank_after blank)

theorem trimEnd_text_of_blank {ls : List Line} (blank : ∀ l ∈ ls, IsBlankLine l) : trimEnd (text ls) = [] := by
  cases ls with
  | nil => rfl
  | cons l ls => exact trimEnd_of_blank fun c mem => blank_after blank c (List.mem_cons_of_mem '\n' mem)

/-- **Without either a section is added behind what is left of the text when the blanks at its end are trimmed.** -/
theorem replaceValue_of_neither {ls left : List Line} (none : ∀ l ∈ ls, ¬IsSpeed l)
    (none' : ∀ l ∈ ls, ¬OpensPlayback l) (trimmed : trimEnd (text ls) = text left) (some : left ≠ []) {h e : Entry}
    (playback : h.name.chars = playbackName) (bare : h.value = .none ∧ h.remark = .none)
    (speed : e.name.chars = speedName) (remark : e.remark = .none) (new : Outline.Value) :
    replaceValue new.text (text ls) =
      text (left ++ [.note (.blank 0), .key 0 h, .key 2 (speedEntry e new), .note (.blank 0)]) := by
  rw [replaceValue, findAtLineStart_key_none none, findAtLineStart_section_none none', trimmed]
  have opening : (Line.key 0 h).text = playbackName ++ [':'] := by
    rw [Line.text, playback, Entry.afterColon, Entry.valueText, Entry.remarkText, bare.1, bare.2]
    rfl
  have stored : (Line.key 2 (speedEntry e new)).text = [' ', ' '] ++ (speedName ++ ([':', ' '] ++ new.text)) := by
    simp [Line.text, speedEntry, speed, Entry.afterColon, Entry.valueText, Entry.remarkText, remark, spaces]
  have literal : "\n\nplayback:\n  speed: ".toList =
      ['\n', '\n'] ++ (playbackName ++ ([':', '\n', ' ', ' '] ++ (speedName ++ [':', ' ']))) := rfl
  rw [text_append some, after, after, after, after, after, opening, stored]
  simp only [literal, List.append_assoc, List.cons_append, List.nil_append]
  rfl

/-! ### What is added -/

/-- What is found at the front of a text is split from the rest of it. -/
def Splits (at? : List Char → Option (List Char × List Char)) : Prop :=
  ∀ cs p, at? cs = some p → p.1 ++ p.2 = cs

theorem splits_keyAt? : Splits keyAt? := by
  intro cs p found
  unfold keyAt? at found
  split at found
  · cases found
  · obtain ⟨rest, dropped, rfl⟩ := Option.map_eq_some_iff.mp found
    rw [List.append_assoc, ← dropMark?_eq_some_iff.mp dropped, List.takeWhile_append_dropWhile]

theorem splits_sectionAt? : Splits sectionAt? := by
  intro cs p found
  obtain ⟨rest, -, rfl⟩ := Option.map_eq_some_iff.mp found
  exact List.takeWhile_append_dropWhile

theorem splits_findAtLineStart {at? : List Char → Option (List Char × List Char)} (splits : Splits at?)
    (fresh : Bool) : Splits (findAtLineStart at? fresh) := by
  intro cs p found
  induction cs generalizing fresh p with
  | nil => cases found
  | cons c cs ih =>
      rw [findAtLineStart] at found
      split at found
      · rename_i here
        cases fresh with
        | false => cases here
        | true => exact Option.some.inj found ▸ splits _ _ here
      · obtain ⟨q, later, rfl⟩ := Option.map_eq_some_iff.mp found
        exact congrArg (c :: ·) (ih _ _ later)

/-- The text of a section that is added, up to its value. -/
def sectionText : List Char := "\n\nplayback:\n  speed: ".toList

theorem mem_replaceWord {word rest : List Char} {c : Char} (mem : c ∈ replaceWord word rest) :
    c ∈ rest ∨ c ∈ word ∨ c ∈ sectionText := by
  unfold replaceWord at mem
  split at mem
  · exact .inl mem
  · rw [List.cons_append, List.mem_cons, List.mem_append] at mem
    rcases mem with rfl | mem | mem
    · exact .inr (.inr (by decide))
    · exact .inr (.inl mem)
    · exact .inl ((List.dropWhile_sublist _).mem ((List.dropWhile_sublist _).mem mem))

/-- Storing a value adds no other characters than those of the value and of the names. -/
theorem mem_replaceValue {value cs : List Char} {c : Char} (mem : c ∈ replaceValue value cs) :
    c ∈ cs ∨ c ∈ value ∨ c ∈ sectionText := by
  unfold replaceValue at mem
  split at mem
  · rename_i before rest found
    rw [← splits_findAtLineStart splits_keyAt? true cs _ found]
    rcases List.mem_append.mp mem with mem | mem
    · exact .inl (List.mem_append_left _ mem)
    · exact (mem_replaceWord mem).imp_left (List.mem_append_right _)
  · split at mem
    · rename_i before rest found
      have name : sectionText = "\n\nplayback:".toList ++ "\n  speed: ".toList := rfl
      rw [← splits_findAtLineStart splits_sectionAt? true cs _ found]
      rw [List.mem_append, List.mem_append, List.mem_append] at mem
      rcases mem with ((mem | mem) | mem) | mem
      · exact .inl (List.mem_append_left _ mem)
      · exact .inr (.inr (name ▸ List.mem_append_right _ mem))
      · exact .inr (.inl mem)
      · exact .inl (List.mem_append_right _ mem)
    · rw [List.mem_append, List.mem_append, List.mem_append] at mem
      rcases mem with ((mem | mem) | mem) | mem
      · exact .inl (mem_of_mem_dropEndWhile mem)
      · exact .inr (.inr mem)
      · exact .inr (.inl mem)
      · exact .inr (.inr (List.mem_singleton.mp mem ▸ by decide))

end EditHistory.Preferences.SpeedLine
