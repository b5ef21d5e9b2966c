import EditHistory.Proofs.Yaml.Scan
import EditHistory.Yaml.Node

/-!
# Sheets

A sheet is an outline with two levels: sections, and the entries in them.  No two sections have the same name, and no
two entries in a section have.

## Main definitions

* `Sheet` — notes and then sections
* `Sheet.text` — the sheet as it is written
* `Sheet.tokens`, `Sheet.node` — its tokens, and the node that they write

## Main statements

* `Sheet.scan_text` — the tokens of a sheet
* `Sheet.ofTokens_tokens` — the document of its tokens
-/

namespace EditHistory.Yaml

open Outline

/-- A line of a section below its first. -/
inductive Row where
  | note (note : Note)
  | entry (entry : Entry)

namespace Row

/-- The row as a line at an indentation. -/
def line (indent : Nat) : Row → Line
  | note n => .note n
  | entry e => .key indent e

/-- The entry in a row. -/
def held? : Row → Option Entry
  | note _ => none
  | entry e => some e

end Row

/-- Names that are all different. -/
abbrev Distinct (names : List Name) : Prop := (names.map Name.chars).Nodup

/-- A section: its name on a line of its own, and below it rows at one indentation. -/
structure Section where
  name : Name
  remark : Option (Nat × Comment)
  indent : Nat
  rows : List Row
  inside : 0 < indent
  distinct : Distinct ((rows.filterMap Row.held?).map Entry.name)

/-- A sheet: notes, and sections after them. -/
structure Sheet where
  preamble : List Note
  sections : List Section
  distinct : Distinct (sections.map Section.name)

/-! ### Lines -/

namespace Section

/-- The entries of a section. -/
def entries (s : Section) : List Entry := s.rows.filterMap Row.held?

/-- The first line of a section. -/
def header (s : Section) : Entry := ⟨s.name, none, s.remark⟩

/-- The lines of a section. -/
def lines (s : Section) : List Line := .key 0 s.header :: s.rows.map (Row.line s.indent)

end Section

namespace Sheet

/-- The lines of a sheet. -/
def lines (f : Sheet) : List Line := f.preamble.map Line.note ++ f.sections.flatMap Section.lines

/-- The sheet as it is written. -/
def text (f : Sheet) : List Char := Outline.text f.lines

end Sheet

theorem firstColumn?_rows {indent : Nat} (rows : List Row) {ls : List Line}
    (behind : ∀ k ∈ firstColumn? ls, k ≤ indent) :
    ∀ k ∈ firstColumn? (rows.map (Row.line indent) ++ ls), k ≤ indent := by
  induction rows with
  | nil => exact behind
  | cons r rows ih =>
      cases r with
      | note n => exact ih
      | entry e =>
          intro k column
          obtain rfl := Option.some.inj column
          exact Nat.le_refl _

theorem steady_rows {indent : Nat} (rows : List Row) {ls : List Line}
    (behind : ∀ k ∈ firstColumn? ls, k ≤ indent) (steady : Steady ls) :
    Steady (rows.map (Row.line indent) ++ ls) := by
  induction rows with
  | nil => exact steady
  | cons r rows ih =>
      cases r with
      | note n => exact ih
      | entry e => exact ⟨fun _ => firstColumn?_rows rows behind, ih⟩

theorem firstColumn?_sections (ss : List Section) (indent : Nat) :
    ∀ k ∈ firstColumn? (ss.flatMap Section.lines), k ≤ indent := by
  cases ss with
  | nil => exact fun k column => nomatch column
  | cons s ss =>
      intro k column
      obtain rfl := Option.some.inj column
      exact Nat.zero_le _

theorem steady_sections (ss : List Section) : Steady (ss.flatMap Section.lines) := by
  induction ss with
  | nil => exact trivial
  | cons s ss ih =>
      exact ⟨fun some => (nomatch some), steady_rows s.rows (firstColumn?_sections ss s.indent) ih⟩

theorem steady_notes (notes : List Note) {ls : List Line} (steady : Steady ls) :
    Steady (notes.map Line.note ++ ls) := by
  induction notes with
  | nil => exact steady
  | cons n notes ih => exact ih

theorem Sheet.steady_lines (f : Sheet) : Steady f.lines :=
  steady_notes f.preamble (steady_sections f.sections)

/-! ### Tokens -/

/-- The tokens of an entry. -/
def entryTokens (e : Entry) : List Token := .key :: .scalar e.name.chars true :: .value :: e.valueTokens

namespace Section

/-- The tokens of what is in a section. -/
def valueTokens (s : Section) : List Token :=
  if s.entries = [] then [] else .blockMappingStart :: (s.entries.flatMap entryTokens ++ [.blockEnd])

/-- The tokens of a section. -/
def tokens (s : Section) : List Token := .key :: .scalar s.name.chars true :: .value :: s.valueTokens

end Section

/-- The tokens of a sheet. -/
def Sheet.tokens (f : Sheet) : List Token :=
  if f.sections = [] then [] else .blockMappingStart :: (f.sections.flatMap Section.tokens ++ [.blockEnd])

/-- Inside the block of a section the tokens of its rows are those of its entries. -/
theorem tokensIn_rows {indent : Nat} (columns : List Nat) (rows : List Row) (ls : List Line) :
    tokensIn (indent :: columns) (rows.map (Row.line indent) ++ ls) =
      (rows.filterMap Row.held?).flatMap entryTokens ++ tokensIn (indent :: columns) ls := by
  induction rows with
  | nil => rfl
  | cons r rows ih =>
      cases r with
      | note n => exact ih
      | entry e =>
          have same : kept indent (indent :: columns) = indent :: columns :=
            List.dropWhile_cons_of_neg (by simp)
          have none : ended indent (indent :: columns) = 0 := by
            rw [ended, List.takeWhile_cons_of_neg (by simp), List.length_nil]
          have stays : opened indent (indent :: columns) = indent :: columns := by simp [opened, same]
          have inside : opening indent (indent :: columns) = [] := by simp [opening, same]
          rw [List.map_cons, List.cons_append, Row.line, tokensIn, none, stays, inside, ih]
          simp [Row.held?, entryTokens]

/-- The block of a section ends where the next section starts. -/
theorem tokensIn_sections {indent : Nat} (inside : 0 < indent) (ss : List Section) :
    tokensIn [indent, 0] (ss.flatMap Section.lines) = .blockEnd :: tokensIn [0] (ss.flatMap Section.lines) := by
  cases ss with
  | nil => rfl
  | cons s ss =>
      have left : kept 0 [indent, 0] = [0] := by simp [kept, inside]
      have one : ended 0 [indent, 0] = 1 := by simp [ended, inside]
      have left' : kept 0 [0] = [0] := rfl
      have none : ended 0 [0] = 0 := rfl
      rw [List.flatMap_cons, Section.lines, List.cons_append, tokensIn, tokensIn]
      simp only [opened, opening, left, one, left', none, List.head?_cons, if_true, List.replicate_zero,
        List.replicate_one, List.nil_append, List.append_nil, List.cons_append]

/-- The tokens of the rows of a section are those of what is in the section. -/
theorem tokensIn_section (s : Section) (ss : List Section) :
    tokensIn [0] (s.rows.map (Row.line s.indent) ++ ss.flatMap Section.lines) =
      s.valueTokens ++ tokensIn [0] (ss.flatMap Section.lines) := by
  have inside := s.inside
  unfold Section.valueTokens Section.entries
  generalize s.indent = indent at inside
  induction s.rows with
  | nil => rfl
  | cons r rows ih =>
      cases r with
      | note n => exact ih
      | entry e =>
          have left : kept indent [0] = [0] := List.dropWhile_cons_of_neg (by simp)
          have none : ended indent [0] = 0 := by
            rw [ended, List.takeWhile_cons_of_neg (by simp), List.length_nil]
          have other : ¬[0].head? = some indent := by
            simp only [List.head?_cons, Option.some.injEq]
            omega
          -- the first entry opens the block of the section, and the others stay in it
          rw [List.map_cons, List.cons_append, Row.line, tokensIn, opened, opening, left, none, if_neg other,
            if_neg other, tokensIn_rows, tokensIn_sections inside]
          simp [Row.held?, entryTokens]

theorem tokensIn_sheet (ss : List Section) :
    tokensIn [0] (ss.flatMap Section.lines) = ss.flatMap Section.tokens ++ [.blockEnd] := by
  induction ss with
  | nil => rfl
  | cons s ss ih =>
      have left : kept 0 [0] = [0] := rfl
      have none : ended 0 [0] = 0 := rfl
      rw [List.flatMap_cons, Section.lines, List.cons_append, tokensIn]
      simp only [opened, opening, left, none, List.head?_cons, if_true, tokensIn_section, ih]
      simp [Section.tokens, Section.header, Entry.valueTokens]

theorem tokensIn_notes (columns : List Nat) (notes : List Note) (ls : List Line) :
    tokensIn columns (notes.map Line.note ++ ls) = tokensIn columns ls := by
  induction notes with
  | nil => rfl
  | cons n notes ih => exact ih

theorem Sheet.tokens_lines (f : Sheet) : Outline.tokens f.lines = f.tokens := by
  rw [Outline.tokens, lines, tokensIn_notes, Sheet.tokens]
  cases f.sections with
  | nil => rfl
  | cons s ss =>
      have nothing : kept 0 ([] : List Nat) = [] := rfl
      have none : ended 0 ([] : List Nat) = 0 := rfl
      rw [List.flatMap_cons, Section.lines, List.cons_append, tokensIn]
      simp only [opened, opening, nothing, none, List.head?_nil, reduceCtorEq, if_false, tokensIn_section,
        tokensIn_sheet]
      simp [Section.tokens, Section.header, Entry.valueTokens]

/-- The tokens of a sheet. -/
theorem Sheet.scan_text (f : Sheet) : Token.scan f.text = .ok f.tokens := by
  rw [text, Token.scan_text f.lines f.steady_lines, f.tokens_lines]

/-! ### Nodes -/

/-- The node of a name. -/
def Outline.Name.node (name : Name) : Node := .scalar none name.chars true

/-- The node of a value. -/
def Outline.Value.node : Value → Node
  | word cs _ => .scalar none cs true
  | quoted cs _ => .scalar none cs false

/-- The node of what follows a key; nothing is an empty scalar. -/
def Outline.Entry.node (e : Entry) : Node := e.value.elim .empty fun v => v.2.node

/-- The nodes of an entry. -/
def entryNodes (e : Entry) : Node × Node := (e.name.node, e.node)

/-- The node of what is in a section before some tokens. -/
def Section.node (s : Section) (later : Nat) : Node :=
  if s.entries = [] then .empty else .mapping (s.valueTokens.length + later) none (s.entries.map entryNodes)

/-- Sections, each of them with the number of tokens after it; `later` come after the last of them. -/
def placed (later : Nat) : List Section → List (Section × Nat)
  | [] => []
  | s :: ss => (s, (ss.flatMap Section.tokens).length + later) :: placed later ss

/-- The nodes of a section. -/
def sectionNodes (p : Section × Nat) : Node × Node := (p.1.name.node, p.1.node p.2)

/-- The node of a sheet. -/
def Sheet.node (f : Sheet) : Node := .mapping f.tokens.length none ((placed 1 f.sections).map sectionNodes)

namespace Node

theorem node_of_scalar (place : Place) (fuel : Nat) {r : Reader} {text : List Char} {plain : Bool} {ts : List Token}
    (here : r.tokens = .scalar text plain :: ts) :
    node place (fuel + 2) r = .ok (.scalar none text plain, { r with tokens := ts }) := by
  simp [node, content, here, properties, useName, giveName, drop, bind, Except.bind]

theorem nodeOrEmpty_of_scalar (place : Place) (fuel : Nat) {r : Reader} {text : List Char} {plain : Bool}
    {ts : List Token} (here : r.tokens = .scalar text plain :: ts) :
    nodeOrEmpty place (fuel + 3) r = .ok (.scalar none text plain, { r with tokens := ts }) := by
  have some : next r false place.isEmptyBefore = false := by
    simp only [next, here]
    cases place <;> rfl
  rw [nodeOrEmpty, some]
  exact node_of_scalar place fuel here

/-- Some tokens start with the next key, or with the end of the block. -/
def EndsPair (ts : List Token) : Prop := ∃ rest, ts = .key :: rest ∨ ts = .blockEnd :: rest

theorem nodeOrEmpty_of_end (fuel : Nat) {r : Reader} (ends : EndsPair r.tokens) :
    nodeOrEmpty .blockValue (fuel + 1) r = .ok (.empty, r) := by
  have empty : next r false Place.blockValue.isEmptyBefore = true := by
    obtain ⟨rest, here | here⟩ := ends <;> rw [next, here] <;> rfl
  rw [nodeOrEmpty, empty]
  rfl

/-- What follows the key of an entry. -/
theorem valueNode_of_entry (e : Entry) (fuel : Nat) {r : Reader} {ts : List Token} (ends : EndsPair ts)
    (here : r.tokens = .value :: (e.valueTokens ++ ts)) :
    valueNode .blockValue (fuel + 4) r = .ok (e.node, { r with tokens := ts }) := by
  have dropped : (drop r).tokens = e.valueTokens ++ ts := by rw [drop, here, List.tail_cons]
  simp only [valueNode, here]
  unfold Entry.node
  unfold Entry.valueTokens at dropped
  cases value : e.value with
  | none =>
      rw [value] at dropped
      have same : drop r = { r with tokens := ts } := by
        rw [drop] at dropped ⊢
        rw [show r.tokens.tail = ts from dropped]
      rw [nodeOrEmpty_of_end _ (dropped.symm ▸ ends : EndsPair (drop r).tokens), same]
      rfl
  | some v =>
      rw [value] at dropped
      obtain ⟨width, v⟩ := v
      cases v with
      | word cs isWord => exact nodeOrEmpty_of_scalar .blockValue _ dropped
      | quoted cs isQuotable => exact nodeOrEmpty_of_scalar .blockValue _ dropped

/-- One more pair of a block. -/
theorem blockPairs_cons {fuel : Nat} {r after : Reader} {name : List Char} {ts : List Token} {v : Node}
    (here : r.tokens = .key :: .scalar name true :: .value :: ts)
    (value : valueNode .blockValue (fuel + 3) { r with tokens := .value :: ts } = .ok (v, after)) :
    blockPairs (fuel + 4) r = (blockPairs (fuel + 3) after).map fun p => ((.scalar none name true, v) :: p.1, p.2) := by
  have dropped : (drop r).tokens = .scalar name true :: .value :: ts := by rw [drop, here, List.tail_cons]
  have key := nodeOrEmpty_of_scalar .blockKey fuel dropped
  have value' : valueNode .blockValue (fuel + 3) { drop r with tokens := .value :: ts } = .ok (v, after) := value
  rw [blockPairs]
  simp only [here, key, value', bind, Except.bind, pure, Except.pure]
  cases blockPairs (fuel + 3) after <;> rfl

theorem blockPairs_end (fuel : Nat) {r : Reader} {ts : List Token} (here : r.tokens = .blockEnd :: ts) :
    blockPairs (fuel + 1) r = .ok ([], { r with tokens := ts }) := by
  simp only [blockPairs, here, drop, List.tail_cons]

theorem endsPair_entries (es : List Entry) (ts : List Token) :
    EndsPair (es.flatMap entryTokens ++ .blockEnd :: ts) := by
  cases es with
  | nil => exact ⟨ts, .inr rfl⟩
  | cons e es => exact ⟨_, .inl rfl⟩

/-- The pairs of a block that are entries. -/
theorem blockPairs_entries (es : List Entry) {fuel : Nat} (enough : es.length + 5 ≤ fuel) {r : Reader}
    {ts : List Token} (here : r.tokens = es.flatMap entryTokens ++ .blockEnd :: ts) :
    blockPairs fuel r = .ok (es.map entryNodes, { r with tokens := ts }) := by
  induction es generalizing fuel r with
  | nil =>
      obtain ⟨fuel, rfl⟩ : ∃ n, fuel = n + 1 := ⟨fuel - 1, by omega⟩
      exact blockPairs_end fuel here
  | cons e es ih =>
      rw [List.length_cons] at enough
      obtain ⟨fuel, rfl⟩ : ∃ n, fuel = n + 5 := ⟨fuel - 5, by omega⟩
      have here : r.tokens = .key :: .scalar e.name.chars true :: .value ::
          (e.valueTokens ++ (es.flatMap entryTokens ++ .blockEnd :: ts)) := by
        rw [here, List.flatMap_cons, entryTokens]
        simp
      have value := valueNode_of_entry e fuel (endsPair_entries es ts)
        (r := { r with tokens := .value :: (e.valueTokens ++ (es.flatMap entryTokens ++ .blockEnd :: ts)) }) rfl
      rw [blockPairs_cons here value, ih (by omega) rfl]
      rfl

/-- A block of pairs is a mapping, which has the number of the tokens that are left at its start. -/
theorem node_of_block {place : Place} (takes : place.takesBlocks = true) {fuel : Nat} {r after : Reader}
    {ts : List Token} {ps : List (Node × Node)} (here : r.tokens = .blockMappingStart :: ts)
    (pairs : blockPairs fuel { r with tokens := ts } = .ok (ps, after)) :
    node place (fuel + 2) r = .ok (.mapping (ts.length + 1) none ps, after) := by
  have dropped : drop r = { r with tokens := ts } := by rw [drop, here, List.tail_cons]
  simp [node, content, here, properties, useName, giveName, takes, dropped, pairs, bind, Except.bind, pure,
    Except.pure]

theorem length_entries_le (s : Section) : s.entries.length ≤ s.valueTokens.length := by
  have le (es : List Entry) : es.length ≤ (es.flatMap entryTokens).length := by
    induction es with
    | nil => exact Nat.le_refl _
    | cons e es ih =>
        simp only [List.flatMap_cons, List.length_cons, List.length_append, entryTokens]
        omega
  unfold Section.valueTokens
  split
  · rename_i none
    rw [none]
    exact Nat.le_refl _
  · simp only [List.length_cons, List.length_append]
    have := le s.entries
    omega

/-- What follows the name of a section. -/
theorem valueNode_of_section (s : Section) {fuel : Nat} (enough : s.valueTokens.length + 5 ≤ fuel) {r : Reader}
    {ts : List Token} (ends : EndsPair ts) (here : r.tokens = .value :: (s.valueTokens ++ ts)) :
    valueNode .blockValue (fuel + 4) r = .ok (s.node ts.length, { r with tokens := ts }) := by
  have dropped : (drop r).tokens = s.valueTokens ++ ts := by rw [drop, here, List.tail_cons]
  have few := length_entries_le s
  simp only [valueNode, here]
  unfold Section.node
  unfold Section.valueTokens at dropped ⊢
  split at dropped
  · rename_i none
    have same : drop r = { r with tokens := ts } := by
      rw [drop] at dropped ⊢
      rw [show r.tokens.tail = ts from dropped]
    rw [nodeOrEmpty_of_end _ (dropped.symm ▸ ends : EndsPair (drop r).tokens), same, if_pos none]
  · rename_i some
    have full : next (drop r) false Place.blockValue.isEmptyBefore = false := by
      rw [next, dropped]
      rfl
    have inside : (drop r).tokens = .blockMappingStart :: (s.entries.flatMap entryTokens ++ .blockEnd :: ts) := by
      rw [dropped]
      simp
    have enough' : s.entries.length + 5 ≤ fuel := by omega
    have pairs := blockPairs_entries s.entries enough'
      (r := { r with tokens := s.entries.flatMap entryTokens ++ .blockEnd :: ts }) rfl
    rw [nodeOrEmpty, full]
    simp only [Bool.false_eq_true, if_false]
    rw [node_of_block (rfl : Place.blockValue.takesBlocks = true) inside pairs, if_neg some, if_neg some]
    simp only [List.length_append, List.length_cons, List.length_nil]
    congr 3
    omega

theorem endsPair_sections (ss : List Section) (ts : List Token) :
    EndsPair (ss.flatMap Section.tokens ++ .blockEnd :: ts) := by
  cases ss with
  | nil => exact ⟨ts, .inr rfl⟩
  | cons s ss => exact ⟨_, .inl rfl⟩

/-- The pairs of a block that are sections. -/
theorem blockPairs_sections (ss : List Section) {fuel : Nat} (enough : (ss.flatMap Section.tokens).length + 9 ≤ fuel)
    {r : Reader} {ts : List Token} (here : r.tokens = ss.flatMap Section.tokens ++ .blockEnd :: ts) :
    blockPairs fuel r = .ok ((placed (ts.length + 1) ss).map sectionNodes, { r with tokens := ts }) := by
  induction ss generalizing fuel r with
  | nil =>
      obtain ⟨fuel, rfl⟩ : ∃ n, fuel = n + 1 := ⟨fuel - 1, by omega⟩
      exact blockPairs_end fuel here
  | cons s ss ih =>
      rw [List.flatMap_cons, List.length_append, Section.tokens, List.length_cons, List.length_cons,
        List.length_cons] at enough
      obtain ⟨fuel, rfl⟩ : ∃ n, fuel = n + 5 := ⟨fuel - 5, by omega⟩
      have here : r.tokens = .key :: .scalar s.name.chars true :: .value ::
          (s.valueTokens ++ (ss.flatMap Section.tokens ++ .blockEnd :: ts)) := by
        rw [here, List.flatMap_cons, Section.tokens]
        simp
      have enough' : s.valueTokens.length + 5 ≤ fuel := by omega
      have value := valueNode_of_section s enough' (endsPair_sections ss ts)
        (r := { r with tokens := .value :: (s.valueTokens ++ (ss.flatMap Section.tokens ++ .blockEnd :: ts)) }) rfl
      rw [blockPairs_cons here value, ih (by omega) rfl, placed]
      simp only [Except.map, List.length_append, List.length_cons]
      rfl

end Node

/-- **The tokens of a sheet write its document.** -/
theorem Sheet.ofTokens_tokens (f : Sheet) :
    Document.ofTokens f.tokens = .ok (if f.sections = [] then none else some ⟨f.node, []⟩) := by
  unfold tokens
  split
  · rfl
  · rename_i some
    have enough : (f.sections.flatMap Section.tokens).length + 9 ≤
        4 * (f.sections.flatMap Section.tokens ++ [Token.blockEnd]).length + 10 := by
      rw [List.length_append]
      omega
    have pairs := Node.blockPairs_sections f.sections enough
      (r := ⟨f.sections.flatMap Section.tokens ++ [.blockEnd], Document.usualHandles, [], []⟩) rfl
    have root := Node.node_of_block (rfl : Node.Place.blockEntry.takesBlocks = true)
      (r := ⟨.blockMappingStart :: (f.sections.flatMap Section.tokens ++ [.blockEnd]), Document.usualHandles, [], []⟩)
      rfl pairs
    have bare : Document.bare Document.usualHandles
        (.blockMappingStart :: (f.sections.flatMap Section.tokens ++ [.blockEnd])) = .ok (⟨f.node, []⟩, []) := by
      have fuel : 4 * (Token.blockMappingStart :: (f.sections.flatMap Section.tokens ++ [Token.blockEnd])).length + 8 =
          4 * (f.sections.flatMap Section.tokens ++ [Token.blockEnd]).length + 10 + 2 := by
        rw [List.length_cons]
        omega
      rw [Document.bare, fuel, root, Sheet.node, tokens, if_neg some]
      rfl
    simp only [Document.ofTokens, bare, bind, Except.bind]
    rfl

end EditHistory.Yaml
