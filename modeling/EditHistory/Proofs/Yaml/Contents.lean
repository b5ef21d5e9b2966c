import EditHistory.Proofs.Yaml.Sheet
import EditHistory.Yaml.Load

/-!
# What a sheet stands for

A sheet stands for a mapping of its sections, and a section for a mapping of its entries.  It can be loaded exactly if
all of its values can be read.

## Main definitions

* `Outline.Entry.read` — what an entry stands for
* `Sheet.Readable` — every entry stands for something
* `Sheet.data` — what a sheet stands for

## Main statements

* `Sheet.load_text` — a sheet of which every entry can be read is loaded
* `Sheet.readable_of_load` — only such sheets are
-/

namespace EditHistory.Yaml

open Outline

/-! ### Values -/

/-- What a text stands for that is read in a form. -/
def readAs (kind : Kind) (text : List Char) : Except Error Data :=
  match kind.read text with
  | .ok (some data) => .ok data
  | .ok none => .error .malformed
  | .error fault => .error (.plain fault)

/-- What a value stands for. -/
def Outline.Value.read : Value → Except Error Data
  | word cs _ => readAs (Kind.of cs) cs
  | quoted cs _ => .ok (.str cs)

/-- What an entry stands for. -/
def Outline.Entry.read (e : Entry) : Except Error Data :=
  e.value.elim (.ok .null) fun v => v.2.read

/-- What an entry stands for if it can be read. -/
def Outline.Entry.data (e : Entry) : Data :=
  match e.read with
  | .ok data => data
  | .error _ => .null

theorem Outline.Entry.read_eq {e : Entry} (readable : ∃ data, e.read = .ok data) : e.read = .ok e.data := by
  obtain ⟨x, read⟩ := readable
  rw [Entry.data, read]

/-! ### Sections -/

/-- What a section stands for before some tokens. -/
def Section.data (s : Section) (later : Nat) : Data :=
  if s.entries = [] then .null
  else .mapping (s.valueTokens.length + later) (s.entries.map fun e => (.str e.name.chars, e.data))

/-- Every entry stands for something. -/
def Section.Readable (s : Section) : Prop := ∀ e ∈ s.entries, ∃ data, e.read = .ok data

namespace Sheet

/-- What a sheet stands for if every entry stands for something. -/
def data (f : Sheet) : Data :=
  if f.sections = [] then .null
  else .mapping f.tokens.length ((placed 1 f.sections).map fun p => (.str p.1.name.chars, p.1.data p.2))

/-- Every entry stands for something. -/
def Readable (f : Sheet) : Prop := ∀ s ∈ f.sections, s.Readable

end Sheet

/-! ### Nodes -/

namespace Document

variable (d : Document)

theorem scalarData_scalar (sized : 0 < d.root.size) (kind : Kind) (tag : Option (List Char)) (text : List Char)
    (plain : Bool) : d.scalarData kind (.scalar tag text plain) = readAs kind text := by
  obtain ⟨n, size⟩ := Nat.exists_eq_succ_of_ne_zero (Nat.ne_of_gt sized)
  have noId : ¬(kind = .moment ∧ (Node.scalar tag text plain).id?.isSome = true) := fun both => nomatch both.2
  rw [scalarData, size]
  exact if_neg noId

/-- A scalar is read in its form; the two forms that are only for keys stand for nothing. -/
theorem readAs_of_shape? (text : List Char) (plain : Bool) :
    (Node.scalar none text plain).shape? = none ∧
        readAs (Node.scalarKind none text plain) text = .error .malformed ∨
      (Node.scalar none text plain).shape? = some (.scalar (Node.scalarKind none text plain)) := by
  unfold Node.shape?
  simp only [Node.typeName?, Option.filter_none]
  generalize Node.scalarKind none text plain = kind
  cases kind
  case merge => exact .inl ⟨rfl, rfl⟩
  case value => exact .inl ⟨rfl, rfl⟩
  all_goals exact .inr rfl

/-- The node of an entry is a scalar that is read as the entry. -/
theorem exists_scalar_entry (e : Entry) : ∃ text plain, e.node = .scalar none text plain ∧
    e.read = readAs (Node.scalarKind none text plain) text := by
  unfold Entry.node Entry.read
  cases e.value with
  | none => exact ⟨[], true, rfl, rfl⟩
  | some v =>
      obtain ⟨width, v⟩ := v
      cases v with
      | word cs isWord => exact ⟨cs, true, rfl, rfl⟩
      | quoted cs isQuotable => exact ⟨cs, false, rfl, rfl⟩

theorem meet_entry (sized : 0 < d.root.size) (e : Entry) : d.meet e.node = e.read.map fun _ => [] := by
  obtain ⟨text, plain, node, read⟩ := exists_scalar_entry e
  rw [read, node, meet, show d.deref (.scalar none text plain) = .scalar none text plain from rfl]
  rcases readAs_of_shape? text plain with ⟨shape, malformed⟩ | shape
  · rw [shape, malformed]
    rfl
  · simp only [shape, d.scalarData_scalar sized]

theorem data_entry (sized : 0 < d.root.size) (within : List Nat) (fuel : Nat) (e : Entry) :
    d.data within (fuel + 1) e.node = e.read := by
  obtain ⟨text, plain, node, read⟩ := exists_scalar_entry e
  rw [read, node, data, show d.deref (.scalar none text plain) = .scalar none text plain from rfl]
  rcases readAs_of_shape? text plain with ⟨shape, malformed⟩ | shape
  · simp only [shape, malformed]
  · simp only [shape, d.scalarData_scalar sized]

theorem isKey_name (name : Name) (kind : Kind) : (d.deref name.node).isKey kind = (Kind.text == kind) := by
  rw [show d.deref name.node = name.node from rfl]
  simp [Name.node, Node.isKey, Node.givenType?, Node.typeName?, Node.scalarKind, name.isText]

theorem shape?_name (name : Name) : name.node.shape? = some (.scalar .text) := by
  simp [Name.node, Node.shape?, Node.typeName?, Node.scalarKind, name.isText]

theorem keyData_name (sized : 0 < d.root.size) (name : Name) : d.keyData name.node = .ok (.str name.chars) := by
  have noValue : name.node.isKey .value = false := d.isKey_name name .value
  have same : d.deref name.node = name.node := rfl
  rw [keyData, same, noValue, shape?_name]
  exact d.scalarData_scalar sized _ _ _ _

theorem meet_name (sized : 0 < d.root.size) (name : Name) : d.meet name.node = .ok [] := by
  have same : d.deref name.node = name.node := rfl
  rw [meet, same, shape?_name]
  simp only [Name.node, d.scalarData_scalar sized]
  rfl

theorem meetPair_name (sized : 0 < d.root.size) (name : Name) (node : Node) :
    d.meetPair (name.node, node) = d.meet node := by
  have noValue : (d.deref name.node).isKey .value = false := d.isKey_name name .value
  have scalar : d.isScalar name.node = true := by
    rw [isScalar, show d.deref name.node = name.node from rfl, shape?_name]
  simp only [meetPair, noValue, d.meet_name sized, scalar]
  rfl

/-- Nothing is taken over by a mapping whose keys are names. -/
theorem allPairs_names (id : Nat) {pairs : List (Node × Node)} (named : ∀ p ∈ pairs, ∃ name : Name, p.1 = name.node) :
    d.allPairs id pairs = .ok pairs := by
  have noMerge : ∀ p ∈ pairs, (d.deref p.1).isKey .merge = false := by
    intro p mem
    obtain ⟨name, same⟩ := named p mem
    rw [same]
    exact d.isKey_name name .merge
  have noneTaken : pairs.filter (fun p => (d.deref p.1).isKey .merge) = [] :=
    List.filter_eq_nil_iff.mpr fun p mem => by rw [noMerge p mem]; exact Bool.false_ne_true
  have allOwn : d.ownPairs pairs = pairs :=
    List.filter_eq_self.mpr fun p mem => by rw [noMerge p mem]; rfl
  rw [allPairs, merged]
  simp only [noneTaken, allOwn, List.mapM_nil]
  rfl

/-! ### Errors -/

theorem mapM_eq_ok {α β : Type} {f : α → Except Error β} {g : α → β} {xs : List α}
    (each : ∀ x ∈ xs, f x = .ok (g x)) : xs.mapM f = .ok (xs.map g) := by
  induction xs with
  | nil => rfl
  | cons x xs ih =>
      rw [List.mapM_cons, each x List.mem_cons_self, ih fun y mem => each y (List.mem_cons_of_mem _ mem)]
      rfl

theorem mem_of_mem_fresh {seen : List Nat} {ns : List Node} {n : Node} (mem : n ∈ fresh seen ns) : n ∈ ns := by
  induction ns generalizing seen with
  | nil => exact mem
  | cons m ns ih =>
      unfold fresh at mem
      split at mem
      · split at mem
        · exact List.mem_cons_of_mem _ (ih mem)
        · exact (List.mem_cons.mp mem).elim (· ▸ List.mem_cons_self) fun mem => List.mem_cons_of_mem _ (ih mem)
      · exact (List.mem_cons.mp mem).elim (· ▸ List.mem_cons_self) fun mem => List.mem_cons_of_mem _ (ih mem)

theorem length_fresh_le (seen : List Nat) (ns : List Node) : (fresh seen ns).length ≤ ns.length := by
  induction ns generalizing seen with
  | nil => exact Nat.le_refl _
  | cons m ns ih =>
      unfold fresh
      split
      · split
        · exact Nat.le_succ_of_le (ih seen)
        · exact Nat.succ_le_succ (ih _)
      · exact Nat.succ_le_succ (ih seen)

/-- Nodes that hold nothing but scalars are inspected one by one. -/
theorem inspectAll_of_scalars {fuel : Nat} (seen : List Nat) {ns : List Node}
    (scalars : ∀ n ∈ ns, d.meetAll n = .ok []) (enough : ns.length ≤ fuel) : d.inspectAll fuel seen ns = .ok () := by
  induction ns generalizing fuel seen with
  | nil => simp [inspectAll]
  | cons n ns ih =>
      obtain ⟨fuel, rfl⟩ := Nat.exists_eq_succ_of_ne_zero (Nat.ne_of_gt (Nat.lt_of_lt_of_le (Nat.succ_pos _) enough))
      rw [inspectAll, scalars n List.mem_cons_self]
      simp only [bind, Except.bind, fresh, List.append_nil]
      exact ih _ (fun m mem => scalars m (List.mem_cons_of_mem _ mem)) (Nat.le_of_succ_le_succ enough)

/-- What is kept for later of a mapping whose keys are names. -/
theorem meetAll_names {α : Type} (sized : 0 < d.root.size) (id : Nat) (xs : List α) {pair : α → Node × Node}
    (kept : α → List Node) (named : ∀ x ∈ xs, ∃ name : Name, (pair x).1 = name.node)
    (met : ∀ x ∈ xs, d.meet (pair x).2 = .ok (kept x)) :
    d.meetAll (.mapping id none (xs.map pair)) = .ok (xs.flatMap kept) := by
  have pairs : d.allPairs id (xs.map pair) = .ok (xs.map pair) :=
    d.allPairs_names id fun p mem => by
      obtain ⟨x, mem', rfl⟩ := List.mem_map.mp mem
      exact named x mem'
  have each : ∀ x ∈ xs, d.meetPair (pair x) = .ok (kept x) := by
    intro x mem
    obtain ⟨name, same⟩ := named x mem
    rw [show pair x = (name.node, (pair x).2) from Prod.ext same rfl, d.meetPair_name sized, met x mem]
  have all : (xs.map pair).mapM d.meetPair = .ok (xs.map kept) := by
    rw [List.mapM_map]
    exact mapM_eq_ok each
  simp only [meetAll, Node.shape?, Node.typeName?, Option.filter_none, Option.elim_none, pairs, bind, Except.bind, all,
    pure, Except.pure, List.flatMap_def]

theorem meetAll_section (sized : 0 < d.root.size) {s : Section} (readable : s.Readable) (id : Nat) :
    d.meetAll (.mapping id none (s.entries.map entryNodes)) = .ok [] := by
  have each : ∀ e ∈ s.entries, d.meet (entryNodes e).2 = .ok [] := by
    intro e mem
    rw [entryNodes, d.meet_entry sized, e.read_eq (readable e mem)]
    rfl
  rw [d.meetAll_names sized id s.entries _ (fun e _ => ⟨e.name, rfl⟩) each, List.flatMap_eq_nil_iff.mpr fun _ _ => rfl]

end Document

/-- The sections that are kept for later when a sheet is inspected. -/
def Section.kept (p : Section × Nat) : List Node :=
  if p.1.entries = [] then [] else [p.1.node p.2]

theorem meet_section (d : Document) (sized : 0 < d.root.size) (p : Section × Nat) :
    d.meet (sectionNodes p).2 = .ok (Section.kept p) := by
  unfold sectionNodes Section.kept Section.node
  split
  · exact d.meet_entry sized ⟨p.1.name, none, none⟩
  · rfl

namespace Sheet

/-- The document of a sheet. -/
def document (f : Sheet) : Document := ⟨f.node, []⟩

theorem sized (f : Sheet) : 0 < f.document.root.size := by
  simp [document, node, Node.size]

theorem length_flatMap_kept_le (ps : List (Section × Nat)) :
    (ps.flatMap Section.kept).length ≤ Node.sizeOfPairs (ps.map sectionNodes) := by
  induction ps with
  | nil => exact Nat.le_refl _
  | cons p ps ih =>
      have one : (Section.kept p).length ≤ 1 := by
        unfold Section.kept
        split <;> simp
      simp only [List.flatMap_cons, List.length_append, List.map_cons, Node.sizeOfPairs, sectionNodes, Name.node,
        Node.size]
      omega

theorem mem_placed {later : Nat} {ss : List Section} {p : Section × Nat} (mem : p ∈ placed later ss) : p.1 ∈ ss := by
  induction ss with
  | nil => exact absurd mem List.not_mem_nil
  | cons s ss ih =>
      rcases List.mem_cons.mp mem with rfl | mem
      · exact List.mem_cons_self
      · exact List.mem_cons_of_mem _ (ih mem)

/-- A sheet of which every entry can be read has no error. -/
theorem inspect_document {f : Sheet} (readable : f.Readable) : f.document.inspect = .ok () := by
  have met : f.document.meet f.document.root = .ok [f.node] := rfl
  have found := f.document.meetAll_names f.sized f.tokens.length (placed 1 f.sections) Section.kept
    (fun p _ => ⟨p.1.name, (rfl : (sectionNodes p).1 = _)⟩) fun p _ => meet_section f.document f.sized p
  have size : f.document.root.size = Node.sizeOfPairs ((placed 1 f.sections).map sectionNodes) + 1 := by
    simp [document, node, Node.size]
  rw [Document.inspect, met]
  simp only [bind, Except.bind, Document.inspectAll, node, found]
  -- the sheet leaves its sections to be inspected later, and these leave nothing
  refine f.document.inspectAll_of_scalars _ ?_ ?_
  · intro n mem
    obtain ⟨p, placed, kept⟩ := List.mem_flatMap.mp (Document.mem_of_mem_fresh mem)
    unfold Section.kept at kept
    split at kept
    · exact absurd kept List.not_mem_nil
    · rename_i some
      obtain rfl := List.mem_singleton.mp kept
      rw [Section.node, if_neg some]
      exact f.document.meetAll_section f.sized (readable p.1 (mem_placed placed)) _
  · refine Nat.le_trans (Document.length_fresh_le _ _) (Nat.le_trans (length_flatMap_kept_le _) ?_)
    exact Nat.le_of_lt (size ▸ Nat.lt_succ_self _)

end Sheet

/-! ### Data -/

theorem sameKey_str (a b : List Char) : Data.sameKey (.str a) (.str b) = (a == b) := rfl

theorem put_of_new {pairs : List (Data × Data)} {key : Data} (v : Data)
    (new : ∀ p ∈ pairs, Data.sameKey p.1 key = false) : Data.put pairs key v = pairs ++ [(key, v)] := by
  induction pairs with
  | nil => rfl
  | cons p pairs ih =>
      obtain ⟨k, w⟩ := p
      have other : Data.sameKey k key = false := new (k, w) List.mem_cons_self
      rw [Data.put, other, ih fun q mem => new q (List.mem_cons_of_mem _ mem)]
      rfl

namespace Document

variable (d : Document)

/-- One more pair of a mapping. -/
def addPair (value : Node → Except Error Data) (done : List (Data × Data)) (p : Node × Node) :
    Except Error (List (Data × Data)) := do
  let key ← d.keyData p.1
  return Data.put done key (← value p.2)

/-- A mapping with distinct names as its keys keeps its pairs in order. -/
theorem foldlM_addPair {α : Type} (sized : 0 < d.root.size) {value : Node → Except Error Data} {xs : List α}
    {node : α → Node} {name : α → Name} {x : α → Data} (read : ∀ a ∈ xs, value (node a) = .ok (x a))
    (distinct : Distinct (xs.map name)) {done : List (Data × Data)}
    (new : ∀ p ∈ done, ∀ a ∈ xs, Data.sameKey p.1 (.str (name a).chars) = false) :
    (xs.map fun a => ((name a).node, node a)).foldlM (d.addPair value) done =
      .ok (done ++ xs.map fun a => (.str (name a).chars, x a)) := by
  induction xs generalizing done with
  | nil => exact congrArg Except.ok (List.append_nil done).symm
  | cons a xs ih =>
      obtain ⟨notLater, distinct⟩ := List.nodup_cons.mp distinct
      have added : d.addPair value done ((name a).node, node a) = .ok (done ++ [(.str (name a).chars, x a)]) := by
        rw [addPair, d.keyData_name sized, read a List.mem_cons_self]
        exact congrArg Except.ok (put_of_new _ fun p mem => new p mem a List.mem_cons_self)
      have new' : ∀ p ∈ done ++ [(.str (name a).chars, x a)], ∀ b ∈ xs,
          Data.sameKey p.1 (.str (name b).chars) = false := by
        intro p mem b later
        rcases List.mem_append.mp mem with mem | mem
        · exact new p mem b (List.mem_cons_of_mem _ later)
        · obtain rfl := List.mem_singleton.mp mem
          rw [sameKey_str, beq_eq_false_iff_ne]
          intro same
          -- a later key of the same text would have the same name
          exact notLater (same ▸ List.mem_map_of_mem (List.mem_map_of_mem later))
      rw [List.map_cons, List.foldlM_cons, added]
      simp only [bind, Except.bind]
      rw [ih (fun b mem => read b (List.mem_cons_of_mem _ mem)) distinct new', List.append_assoc]
      rfl

theorem foldlM_addPair_nil {α : Type} (sized : 0 < d.root.size) {value : Node → Except Error Data} {xs : List α}
    {node : α → Node} {name : α → Name} {x : α → Data} (read : ∀ a ∈ xs, value (node a) = .ok (x a))
    (distinct : Distinct (xs.map name)) :
    (xs.map fun a => ((name a).node, node a)).foldlM (d.addPair value) [] =
      .ok (xs.map fun a => (.str (name a).chars, x a)) :=
  d.foldlM_addPair sized read distinct fun _ mem => absurd mem List.not_mem_nil

/-- If a mapping stands for something then all of its values do. -/
theorem exists_of_foldlM_addPair {value : Node → Except Error Data} {pairs : List (Node × Node)}
    {done all : List (Data × Data)} (read : pairs.foldlM (d.addPair value) done = .ok all) :
    ∀ p ∈ pairs, ∃ x, value p.2 = .ok x := by
  induction pairs generalizing done with
  | nil => exact fun p mem => absurd mem List.not_mem_nil
  | cons p pairs ih =>
      rw [List.foldlM_cons] at read
      cases added : d.addPair value done p with
      | error e =>
          rw [added] at read
          cases read
      | ok done' =>
          rw [added] at read
          have here : ∃ x, value p.2 = .ok x := by
            unfold addPair at added
            cases key : d.keyData p.1 with
            | error e => rw [key] at added; cases added
            | ok k =>
                cases read' : value p.2 with
                | error e => rw [key, read'] at added; cases added
                | ok x => exact ⟨x, rfl⟩
          intro q mem
          rcases List.mem_cons.mp mem with rfl | mem
          · exact here
          · exact ih read q mem

/-- What a mapping whose keys are names stands for. -/
theorem data_mapping {within : List Nat} {id : Nat} (outside : within.contains id = false) (fuel : Nat)
    {pairs : List (Node × Node)} (named : ∀ p ∈ pairs, ∃ name : Name, p.1 = name.node) :
    d.data within (fuel + 1) (.mapping id none pairs) =
      (pairs.foldlM (d.addPair (d.data (id :: within) fuel)) []).map (.mapping id) := by
  rw [data, show d.deref (.mapping id none pairs) = .mapping id none pairs from rfl]
  simp only [Node.id?, Node.shape?, Node.typeName?, Option.filter_none, Option.elim_none, outside, Bool.false_eq_true,
    if_false, d.allPairs_names id named]
  change Except.bind (List.foldlM (d.addPair (d.data (id :: within) fuel)) [] pairs) _ = _
  cases List.foldlM (d.addPair (d.data (id :: within) fuel)) [] pairs <;> rfl

end Document

theorem named_entries (es : List Entry) : ∀ p ∈ es.map entryNodes, ∃ name : Name, p.1 = name.node := by
  intro p mem
  obtain ⟨e, -, rfl⟩ := List.mem_map.mp mem
  exact ⟨e.name, rfl⟩

theorem named_sections (ps : List (Section × Nat)) : ∀ p ∈ ps.map sectionNodes, ∃ name : Name, p.1 = name.node := by
  intro p mem
  obtain ⟨q, -, rfl⟩ := List.mem_map.mp mem
  exact ⟨q.1.name, rfl⟩

namespace Section

variable (d : Document) (sized : 0 < d.root.size)
include sized

/-- What a section stands for inside others. -/
theorem data_node {s : Section} (readable : s.Readable) {within : List Nat} {later : Nat}
    (outside : within.contains (s.valueTokens.length + later) = false) (fuel : Nat) :
    d.data within (fuel + 2) (s.node later) = .ok (s.data later) := by
  unfold Section.node Section.data
  split
  · exact d.data_entry sized within (fuel + 1) ⟨s.name, none, none⟩
  · have read : ∀ e ∈ s.entries, d.data ((s.valueTokens.length + later) :: within) (fuel + 1) e.node = .ok e.data := by
      intro e mem
      rw [d.data_entry sized, e.read_eq (readable e mem)]
    have pairs := d.foldlM_addPair_nil sized read s.distinct
    rw [d.data_mapping outside (fuel + 1) (named_entries s.entries)]
    exact congrArg (Except.map _) pairs

/-- If a section stands for something then all of its entries do. -/
theorem readable_of_data {s : Section} {within : List Nat} {later : Nat}
    (outside : within.contains (s.valueTokens.length + later) = false) {fuel : Nat} {x : Data}
    (read : d.data within (fuel + 2) (s.node later) = .ok x) : s.Readable := by
  unfold Section.node at read
  split at read
  · rename_i none
    intro e mem
    rw [none] at mem
    exact absurd mem List.not_mem_nil
  · rw [d.data_mapping outside (fuel + 1) (named_entries s.entries)] at read
    cases pairs : (s.entries.map entryNodes).foldlM
        (d.addPair (d.data ((s.valueTokens.length + later) :: within) (fuel + 1))) [] with
    | error e =>
        rw [pairs] at read
        cases read
    | ok all =>
        intro e mem
        obtain ⟨x, found⟩ := d.exists_of_foldlM_addPair pairs _ (List.mem_map_of_mem mem)
        rw [entryNodes, d.data_entry sized] at found
        exact ⟨x, found⟩

end Section

namespace Sheet

theorem lt_of_mem_placed {later : Nat} {ss : List Section} {p : Section × Nat} (mem : p ∈ placed later ss) :
    p.1.valueTokens.length + p.2 < (ss.flatMap Section.tokens).length + later := by
  induction ss with
  | nil => exact absurd mem List.not_mem_nil
  | cons s ss ih =>
      rw [List.flatMap_cons, List.length_append, Section.tokens]
      simp only [List.length_cons]
      rcases List.mem_cons.mp mem with rfl | mem
      · simp only
        omega
      · have := ih mem
        omega

theorem map_fst_placed (later : Nat) (ss : List Section) : (placed later ss).map Prod.fst = ss := by
  induction ss with
  | nil => rfl
  | cons s ss ih => rw [placed, List.map_cons, ih]

/-- No section has the number of the sheet. -/
theorem outside_of_mem_placed {f : Sheet} (full : f.sections ≠ []) {p : Section × Nat}
    (mem : p ∈ placed 1 f.sections) :
    [f.tokens.length].contains (p.1.valueTokens.length + p.2) = false := by
  have lt := lt_of_mem_placed mem
  have length : f.tokens.length = (f.sections.flatMap Section.tokens).length + 2 := by
    simp [tokens, full]
  simp only [List.contains_cons, List.contains_nil, Bool.or_false, beq_eq_false_iff_ne, length]
  omega

theorem exists_fuel (f : Sheet) : ∃ n, 2 * f.document.root.size + 1 = n + 3 :=
  ⟨2 * f.document.root.size - 2, by have := f.sized; omega⟩

/-- Loading a sheet is reading the document that its tokens write. -/
theorem load_of_tokens {f : Sheet} (printable : f.text.all isPrintable = true) {found : Option Document}
    (document : (Document.ofTokens f.tokens).mapError Error.scalar = .ok found) :
    load f.text = found.elim (.ok .null) fun d => d.inspect.bind fun _ =>
      d.data [] (2 * d.root.size + 1) d.root := by
  have tokens : (Token.scan f.text).mapError Error.scalar = .ok f.tokens := congrArg _ f.scan_text
  simp only [load, printable, if_true, tokens, document, bind, Except.bind]
  cases found <;> rfl

/-- Loading a sheet that has sections is inspecting its document and reading it. -/
theorem load_eq {f : Sheet} (full : f.sections ≠ []) (printable : f.text.all isPrintable = true) :
    load f.text = f.document.inspect.bind fun _ =>
      f.document.data [] (2 * f.document.root.size + 1) f.document.root := by
  have document : Document.ofTokens f.tokens = .ok (some f.document) := by
    rw [f.ofTokens_tokens, if_neg full]
    rfl
  exact load_of_tokens printable (congrArg _ document)

theorem data_root (f : Sheet) (n : Nat) :
    f.document.data [] (n + 3) f.document.root =
      (((placed 1 f.sections).map sectionNodes).foldlM
        (f.document.addPair (f.document.data [f.tokens.length] (n + 2))) []).map (.mapping f.tokens.length) :=
  f.document.data_mapping rfl (n + 2) (named_sections _)

theorem data_document {f : Sheet} (full : f.sections ≠ []) (readable : f.Readable) :
    f.document.data [] (2 * f.document.root.size + 1) f.document.root = .ok f.data := by
  obtain ⟨n, fuel⟩ := f.exists_fuel
  have read : ∀ p ∈ placed 1 f.sections,
      f.document.data [f.tokens.length] (n + 2) (p.1.node p.2) = .ok (p.1.data p.2) := fun p mem =>
    p.1.data_node f.document f.sized (readable p.1 (mem_placed mem)) (outside_of_mem_placed full mem) n
  have distinct : Distinct ((placed 1 f.sections).map fun p => p.1.name) := by
    rw [show (fun p : Section × Nat => p.1.name) = Section.name ∘ Prod.fst from rfl, ← List.map_map, map_fst_placed]
    exact f.distinct
  have pairs := f.document.foldlM_addPair_nil f.sized read distinct
  rw [fuel, data_root, data, if_neg full]
  exact congrArg (Except.map _) pairs

/-- **A sheet of which every entry can be read is loaded.** -/
theorem load_text {f : Sheet} (printable : f.text.all isPrintable = true) (readable : f.Readable) :
    load f.text = .ok f.data := by
  by_cases empty : f.sections = []
  · have document : Document.ofTokens f.tokens = .ok none := by rw [f.ofTokens_tokens, if_pos empty]
    rw [data, if_pos empty]
    exact load_of_tokens printable (congrArg _ document)
  · rw [load_eq empty printable, inspect_document readable]
    exact data_document empty readable

/-- **Only sheets are loaded of which every entry can be read.** -/
theorem readable_of_load {f : Sheet} {x : Data} (loaded : load f.text = .ok x) :
    f.text.all isPrintable = true ∧ f.Readable := by
  have printable : f.text.all isPrintable = true := by
    cases printable : f.text.all isPrintable with
    | true => rfl
    | false =>
        simp only [load, printable, Bool.false_eq_true, if_false] at loaded
        cases loaded
  refine ⟨printable, ?_⟩
  by_cases empty : f.sections = []
  · intro s mem
    rw [empty] at mem
    exact absurd mem List.not_mem_nil
  · rw [load_eq empty printable] at loaded
    cases inspected : f.document.inspect with
    | error e =>
        rw [inspected] at loaded
        cases loaded
    | ok u =>
        rw [inspected] at loaded
        replace loaded : f.document.data [] (2 * f.document.root.size + 1) f.document.root = .ok x := loaded
        obtain ⟨n, fuel⟩ := f.exists_fuel
        rw [fuel, data_root] at loaded
        intro s mem
        obtain ⟨p, isPlaced, rfl⟩ := List.mem_map.mp (map_fst_placed 1 f.sections ▸ mem)
        cases pairs : ((placed 1 f.sections).map sectionNodes).foldlM
            (f.document.addPair (f.document.data [f.tokens.length] (n + 2))) [] with
        | error e =>
            rw [pairs] at loaded
            cases loaded
        | ok all =>
            obtain ⟨x, found⟩ := f.document.exists_of_foldlM_addPair pairs _ (List.mem_map_of_mem isPlaced)
            exact p.1.readable_of_data f.document f.sized (outside_of_mem_placed empty isPlaced) found

end Sheet

end EditHistory.Yaml
