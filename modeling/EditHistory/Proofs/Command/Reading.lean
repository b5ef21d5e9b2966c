import EditHistory.Command.Reading
import EditHistory.Proofs.Number
import EditHistory.Proofs.Replay
import Mathlib.Data.List.Nodup
import Mathlib.Data.List.Perm.Basic

/-!
# What a change record stands for

A change record stands for a command or for nothing, and this says which, without saying how it is found out.  The
fields of a record decide its kind.  A leaf of a record is an ungrouped command at the end of a path of indices that
leads through groups only; a record that stands for nothing ends every path.  The command of a group has all leaves as
its parts, in the order of their paths.

## Main definitions

* `Value.IsInsert`, `Value.IsDelete`, `Value.IsStyle`, `Value.IsGroup` — the kinds of records
* `Value.IsTime` — the values that are times
* `Value.IsTimed` — the time of a record inside a group
* `Value.LeafAt` — a leaf at a path
* `Value.Denotes` — the command that a record stands for

## Main statements

* `Command.command_read_iff` — one level of reading
* `Command.lists_leaves` — the parts of a reading are the leaves of the record
* `Command.read_denotes` — what is read is what the record stands for
-/

namespace EditHistory

namespace Value

/-! ### The kinds of records -/

/-- The record says that it is of a kind. -/
def HasKind (v : Value) (kind : String) : Prop :=
  v.get? "ty" = some (.str kind)

/-- Under a key the record has a position, which is an integer and not negative. -/
def HasPosition (v : Value) (key : String) (n : Int) : Prop :=
  v.get? key = some (.int n) ∧ 0 ≤ n

/-- The value is a time: an integer or a double without a fractional part. -/
def IsTime (v : Value) (t : Int) : Prop :=
  v = .int t ∨ ∃ x, v = .float x ∧ Number.value? x = some (t : ℚ)

/-- The record has a time of its own, which is an integer or a double without a fractional part. -/
def HasTime (v : Value) (t : Int) : Prop :=
  v.get? "ts" = some (.int t) ∨ ∃ x, v.get? "ts" = some (.float x) ∧ Number.value? x = some (t : ℚ)

/-- The time of a record in a group: its own or that of the group `around` it. -/
def IsTimed (around : Int) (v : Value) (t : Int) : Prop :=
  v.HasTime t ∨ (∀ n, ¬ v.HasTime n) ∧ t = around

/-- The record inserts a text at a position. -/
structure IsInsert (v : Value) (position : Int) (text : String) : Prop where
  kind : v.HasKind "is"
  position : v.HasPosition "ibi" position
  text : v.get? "s" = some (.str text)

/-- The record has a range. -/
structure HasRange (v : Value) (start stop : Int) : Prop where
  start : v.HasPosition "si" start
  stop : v.HasPosition "ei" stop

/-- The record deletes a range. -/
structure IsDelete (v : Value) (start stop : Int) : Prop where
  kind : v.HasKind "ds"
  range : v.HasRange start stop

/-- The record styles a range; it may be without properties. -/
structure IsStyle (v : Value) (start stop : Int) (properties : List (String × Value)) : Prop where
  kind : v.HasKind "st"
  range : v.HasRange start stop
  properties : v.get? "s" = some (.object properties) ∨ v.get? "s" = none ∧ properties = []

/-- The record groups other values. -/
structure IsGroup (v : Value) (items : List Value) : Prop where
  kind : v.HasKind "mlti"
  items : v.get? "cmds" = some (.list items)

/-- The record stands for a command: it is of one of the four kinds and has what its kind needs. -/
def IsAccepted (v : Value) : Prop :=
  (∃ position text, v.IsInsert position text) ∨ (∃ start stop, v.IsDelete start stop) ∨
    (∃ start stop properties, v.IsStyle start stop properties) ∨ ∃ items, v.IsGroup items

/-! ### What they stand for -/

/-- The record stands for an ungrouped command. -/
inductive IsSimple (around : Int) (v : Value) : Command → Prop
  | insert {position : Int} {text : String} {t : Int} (shape : v.IsInsert position text)
      (time : v.IsTimed around t) : IsSimple around v (.insert position text.toList t)
  | delete {start stop t : Int} (shape : v.IsDelete start stop) (time : v.IsTimed around t) :
      IsSimple around v (.delete start stop t)
  | style {start stop : Int} {properties : List (String × Value)} {t : Int}
      (shape : v.IsStyle start stop properties) (time : v.IsTimed around t) :
      IsSimple around v (.style start stop properties t)

/-- **A leaf at a path.**  At the end of the path is a record that stands for an ungrouped command, and every record on
the way there is a group, the time of which is the time around the next. -/
inductive LeafAt : Int → Value → List Nat → Command → Prop
  | here {around : Int} {v : Value} {c : Command} (simple : v.IsSimple around c) :
      LeafAt around v [] c
  | inside {around : Int} {v : Value} {items : List Value} {t : Int} {i : Nat} {item : Value}
      {path : List Nat} {c : Command} (group : v.IsGroup items) (time : v.IsTimed around t)
      (entry : items[i]? = some item) (leaf : LeafAt t item path c) : LeafAt around v (i :: path) c

/-- A list of commands with their paths has all that a relation puts at paths, each once, from left to right. -/
structure Lists (R : List Nat → Command → Prop) (placed : List (List Nat × Command)) : Prop where
  ordered : placed.Pairwise fun x y => x.1 < y.1
  exact : ∀ path c, (path, c) ∈ placed ↔ R path c

/-- **The command that a record stands for.**  A group stands for the group of its leaves. -/
inductive Denotes (around : Int) (v : Value) : Command → Prop
  | simple {c : Command} (simple : v.IsSimple around c) : Denotes around v c
  | group {items : List Value} {t : Int} {placed : List (List Nat × Command)} (group : v.IsGroup items)
      (time : v.IsTimed around t) (leaves : Lists (v.LeafAt around) placed) :
      Denotes around v (.group (placed.map Prod.snd) t)

/-! ### The fields -/

theorem bind_position?_eq_some_iff {v : Value} {key : String} {n : Int} :
    (v.get? key).bind position? = some n ↔ v.HasPosition key n := by
  rw [Option.bind_eq_some_iff]
  constructor
  · rintro ⟨w, field, position⟩
    cases w with
    | int m =>
        have position : (if 0 ≤ m then some m else none) = some n := position
        split at position
        · rename_i low
          cases position
          exact ⟨field, low⟩
        · cases position
    | _ => cases position
  · rintro ⟨field, low⟩
    exact ⟨.int n, field, if_pos low⟩

/-- A value is read as the time that it is. -/
theorem timestamp?_eq_some_iff {v : Value} {t : Int} : v.timestamp? = some t ↔ v.IsTime t := by
  cases v with
  | int n => simp [timestamp?, IsTime]
  | float x => simp [timestamp?, IsTime, Number.integral?_eq_some_iff]
  | _ => simp [timestamp?, IsTime]

theorem bind_timestamp?_eq_some_iff {v : Value} {t : Int} :
    (v.get? "ts").bind timestamp? = some t ↔ v.HasTime t := by
  rw [Option.bind_eq_some_iff]
  constructor
  · rintro ⟨w, field, time⟩
    rcases timestamp?_eq_some_iff.mp time with rfl | ⟨x, rfl, whole⟩
    · exact Or.inl field
    · exact Or.inr ⟨x, field, whole⟩
  · rintro (field | ⟨x, field, whole⟩)
    · exact ⟨.int t, field, rfl⟩
    · exact ⟨.float x, field, timestamp?_eq_some_iff.mpr (Or.inr ⟨x, rfl, whole⟩)⟩

/-- The time of a record in a group, as it is computed. -/
def timeIn (around : Int) (v : Value) : Int :=
  ((v.get? "ts").bind timestamp?).getD around

/-- Every record has exactly one time. -/
theorem isTimed_iff {around : Int} {v : Value} {t : Int} : v.IsTimed around t ↔ t = v.timeIn around := by
  unfold IsTimed timeIn
  cases own : (v.get? "ts").bind timestamp? with
  | none =>
      have none (n : Int) : ¬ v.HasTime n := by
        rw [← bind_timestamp?_eq_some_iff, own]
        nofun
      exact ⟨fun timed => (timed.resolve_left (none t)).2, fun same => Or.inr ⟨none, same⟩⟩
  | some n =>
      have its (m : Int) : v.HasTime m ↔ m = n := by
        rw [← bind_timestamp?_eq_some_iff, own, Option.some.injEq]
        exact eq_comm
      rw [its t]
      refine ⟨fun timed => timed.resolve_right ?_, Or.inl⟩
      rintro ⟨none, -⟩
      exact none n ((its n).mpr rfl)

/-- What has a kind is an object. -/
theorem HasKind.exists_fields {v : Value} {kind : String} (has : v.HasKind kind) :
    ∃ fields, v = .object fields ∧ lookup? fields "ty" = some (.str kind) := by
  cases v with
  | object fields => exact ⟨fields, rfl, has⟩
  | _ => cases has

/-- A record has one kind. -/
theorem HasKind.eq {v : Value} {kind kind' : String} (has : v.HasKind kind)
    (has' : v.HasKind kind') : kind = kind' :=
  Value.str.inj (Option.some.inj (has.symm.trans has'))

theorem lookup?_mem {fields : List (String × Value)} {key : String} {v : Value}
    (found : lookup? fields key = some v) : (key, v) ∈ fields := by
  induction fields with
  | nil => cases found
  | cons field fields ih =>
      obtain ⟨k, w⟩ := field
      unfold lookup? at found
      split at found
      · rename_i same
        cases found
        rw [same]
        exact List.mem_cons_self
      · exact List.mem_cons_of_mem _ (ih found)

/-- A group has one list of entries. -/
theorem IsGroup.eq {v : Value} {items items' : List Value} (group : v.IsGroup items) (group' : v.IsGroup items') :
    items = items' :=
  Value.list.inj (Option.some.inj (group.items.symm.trans group'.items))

/-- The entries of a group are smaller than the group. -/
theorem IsGroup.sizeOf_lt {v : Value} {items : List Value} (group : v.IsGroup items) {item : Value}
    (mem : item ∈ items) : sizeOf item < sizeOf v := by
  obtain ⟨fields, rfl, -⟩ := group.kind.exists_fields
  have field := List.sizeOf_lt_of_mem (lookup?_mem group.items)
  have entry := List.sizeOf_lt_of_mem mem
  simp only [Prod.mk.sizeOf_spec, Value.list.sizeOf_spec, Value.object.sizeOf_spec] at field ⊢
  omega

end Value

/-- A group that was read adds its parts. -/
theorem Reading.parts_of_group {r : Reading} {parts : List Command} {t : Int}
    (command : r.command = some (.group parts t)) : r.parts = parts := by
  unfold Reading.parts
  rw [command]

namespace Command

open Value

/-! ### One level of reading -/

theorem readRange?_eq_some_iff {fields : List (String × Value)} {start stop : Int} :
    readRange? fields = some (start, stop) ↔ (Value.object fields).HasRange start stop := by
  unfold readRange?
  constructor
  · intro found
    obtain ⟨a, first, found⟩ := Option.bind_eq_some_iff.mp found
    obtain ⟨b, second, found⟩ := Option.bind_eq_some_iff.mp found
    cases found
    exact ⟨bind_position?_eq_some_iff.mp first, bind_position?_eq_some_iff.mp second⟩
  · rintro ⟨first, second⟩
    have first := bind_position?_eq_some_iff.mpr first
    have second := bind_position?_eq_some_iff.mpr second
    exact Option.bind_eq_some_iff.mpr ⟨start, first, Option.bind_eq_some_iff.mpr ⟨stop, second, rfl⟩⟩

theorem command_readInsert_iff {fields : List (String × Value)} {t : Int} {c : Command}
    (kind : (Value.object fields).HasKind "is") :
    (readInsert fields t).command = some c ↔
      ∃ position text, (Value.object fields).IsInsert position text ∧
        c = .insert position text.toList t := by
  unfold readInsert
  constructor
  · intro accepted
    split at accepted
    · rename_i position text first second
      cases accepted
      exact ⟨position, text, ⟨kind, bind_position?_eq_some_iff.mp first, second⟩, rfl⟩
    · cases accepted
  · rintro ⟨position, text, shape, rfl⟩
    have first : (Value.lookup? fields "ibi").bind Value.position? = some position :=
      bind_position?_eq_some_iff.mpr shape.position
    have second : Value.lookup? fields "s" = some (.str text) := shape.text
    rw [first, second]
    rfl

theorem command_readDelete_iff {fields : List (String × Value)} {t : Int} {c : Command}
    (kind : (Value.object fields).HasKind "ds") :
    (readDelete fields t).command = some c ↔
      ∃ start stop, (Value.object fields).IsDelete start stop ∧ c = .delete start stop t := by
  unfold readDelete
  constructor
  · intro accepted
    split at accepted
    · rename_i start stop range
      cases accepted
      exact ⟨start, stop, ⟨kind, readRange?_eq_some_iff.mp range⟩, rfl⟩
    · cases accepted
  · rintro ⟨start, stop, shape, rfl⟩
    rw [readRange?_eq_some_iff.mpr shape.range]
    rfl

theorem command_readStyle_iff {fields : List (String × Value)} {t : Int} {c : Command}
    (kind : (Value.object fields).HasKind "st") :
    (readStyle fields t).command = some c ↔
      ∃ start stop properties, (Value.object fields).IsStyle start stop properties ∧
        c = .style start stop properties t := by
  unfold readStyle
  constructor
  · intro accepted
    split at accepted
    · cases accepted
    · rename_i start stop found
      have range := readRange?_eq_some_iff.mp found
      split at accepted
      · rename_i none
        cases accepted
        exact ⟨start, stop, [], ⟨kind, range, Or.inr ⟨none, rfl⟩⟩, rfl⟩
      · rename_i properties some
        cases accepted
        exact ⟨start, stop, properties, ⟨kind, range, Or.inl some⟩, rfl⟩
      · cases accepted
  · rintro ⟨start, stop, properties, shape, rfl⟩
    rw [readRange?_eq_some_iff.mpr shape.range]
    rcases shape.properties with some | ⟨none, rfl⟩
    · have some : Value.lookup? fields "s" = Option.some (.object properties) := some
      rw [some]
      rfl
    · have none : Value.lookup? fields "s" = Option.none := none
      rw [none]
      rfl

theorem readItems_eq_map (t : Int) (items : List Value) : readItems t items = items.map (read t) := by
  induction items with
  | nil => rw [readItems, List.map_nil]
  | cons item items ih => rw [readItems, ih, List.map_cons]

/-- The entries of a group are the items of the first field `cmds`. -/
theorem readEntries_eq (t : Int) (fields : List (String × Value)) :
    readEntries t fields = (Value.lookup? fields "cmds").bind (readList t) := by
  induction fields with
  | nil =>
      rw [readEntries]
      rfl
  | cons field fields ih =>
      obtain ⟨key, v⟩ := field
      rw [readEntries, Value.lookup?]
      split
      · rfl
      · exact ih

theorem command_ofReadings_iff {fields : List (String × Value)} {t : Int} {c : Command}
    (kind : (Value.object fields).HasKind "mlti") :
    (ofReadings (readEntries t fields) t).command = some c ↔
      ∃ items, (Value.object fields).IsGroup items ∧
        c = .group (items.flatMap fun item => (read t item).parts) t := by
  have parts (items : List Value) :
      (readItems t items).flatMap Reading.parts = items.flatMap fun item => (read t item).parts := by
    rw [readItems_eq_map, List.flatMap_map]
  rw [readEntries_eq]
  constructor
  · intro accepted
    cases found : Value.lookup? fields "cmds" with
    | none =>
        rw [found] at accepted
        cases accepted
    | some w =>
        rw [found, Option.bind_some] at accepted
        unfold readList at accepted
        split at accepted
        · rename_i items
          cases accepted
          exact ⟨items, ⟨kind, found⟩, congrArg (Command.group · t) (parts items)⟩
        · cases accepted
  · rintro ⟨items, shape, rfl⟩
    have found : Value.lookup? fields "cmds" = some (.list items) := shape.items
    rw [found, Option.bind_some, readList, ofReadings, parts]

/-- A record stands for one ungrouped command at most. -/
theorem command_of_isSimple {around : Int} {v : Value} {c : Command} (simple : v.IsSimple around c) :
    (read around v).command = some c := by
  cases simple with
  | insert shape time =>
      obtain ⟨fields, rfl, kind⟩ := shape.kind.exists_fields
      rw [isTimed_iff.mp time]
      simp only [read, kind]
      exact (command_readInsert_iff kind).mpr ⟨_, _, shape, rfl⟩
  | delete shape time =>
      obtain ⟨fields, rfl, kind⟩ := shape.kind.exists_fields
      rw [isTimed_iff.mp time]
      simp only [read, kind]
      exact (command_readDelete_iff kind).mpr ⟨_, _, shape, rfl⟩
  | style shape time =>
      obtain ⟨fields, rfl, kind⟩ := shape.kind.exists_fields
      rw [isTimed_iff.mp time]
      simp only [read, kind]
      exact (command_readStyle_iff kind).mpr ⟨_, _, _, shape, rfl⟩

/-- A group is read as the parts of its entries in order, whatever these are. -/
theorem command_of_isGroup {around : Int} {v : Value} {items : List Value} (group : v.IsGroup items) :
    (read around v).command = some (.group (items.flatMap fun item => (read (v.timeIn around) item).parts)
      (v.timeIn around)) := by
  obtain ⟨fields, rfl, kind⟩ := group.kind.exists_fields
  simp only [read, kind]
  exact (command_ofReadings_iff kind).mpr ⟨items, group, rfl⟩

theorem isSimple_or_isGroup_of_read {around : Int} {v : Value} {c : Command}
    (accepted : (read around v).command = some c) :
    v.IsSimple around c ∨
      ∃ items, v.IsGroup items ∧
        c = .group (items.flatMap fun item => (read (v.timeIn around) item).parts) (v.timeIn around) := by
  cases v with
  | object fields =>
      have time : (Value.object fields).IsTimed around ((Value.object fields).timeIn around) :=
        isTimed_iff.mpr rfl
      unfold read at accepted
      simp only at accepted
      split at accepted
      · rename_i kind
        obtain ⟨position, text, shape, rfl⟩ := (command_readInsert_iff kind).mp accepted
        exact Or.inl (.insert shape time)
      · rename_i kind
        obtain ⟨start, stop, shape, rfl⟩ := (command_readDelete_iff kind).mp accepted
        exact Or.inl (.delete shape time)
      · rename_i kind
        obtain ⟨start, stop, properties, shape, rfl⟩ := (command_readStyle_iff kind).mp accepted
        exact Or.inl (.style shape time)
      · rename_i kind
        exact Or.inr ((command_ofReadings_iff kind).mp accepted)
      · cases accepted
  | _ => cases accepted

/-- **One level of reading.**  A record gives an ungrouped command if it stands for one, and a group gives the parts
of its entries in order, whatever these are. -/
theorem command_read_iff {around : Int} {v : Value} {c : Command} :
    (read around v).command = some c ↔
      v.IsSimple around c ∨
        ∃ items, v.IsGroup items ∧
          c = .group (items.flatMap fun item => (read (v.timeIn around) item).parts)
            (v.timeIn around) := by
  refine ⟨isSimple_or_isGroup_of_read, ?_⟩
  rintro (simple | ⟨items, group, rfl⟩)
  · exact command_of_isSimple simple
  · exact command_of_isGroup group

/-- No group stands for an ungrouped command. -/
theorem not_isSimple_of_isGroup {around : Int} {v : Value} {items : List Value}
    (group : v.IsGroup items) (c : Command) : ¬ v.IsSimple around c := by
  intro simple
  cases simple with
  | insert shape time => exact absurd (group.kind.eq shape.kind) (by decide)
  | delete shape time => exact absurd (group.kind.eq shape.kind) (by decide)
  | style shape time => exact absurd (group.kind.eq shape.kind) (by decide)

theorem leaves_of_isSimple {around : Int} {v : Value} {c : Command} (simple : v.IsSimple around c) :
    c.leaves = [c] := by
  cases simple <;> rfl

end Command

namespace Value

/-! ### Lists of leaves -/

namespace Lists

variable {R S : List Nat → Command → Prop} {placed others : List (List Nat × Command)}

theorem of_iff (lists : Lists R placed) (same : ∀ path c, R path c ↔ S path c) : Lists S placed :=
  ⟨lists.ordered, fun path c => (lists.exact path c).trans (same path c)⟩

theorem nil (empty : ∀ path c, ¬ R path c) : Lists R [] :=
  ⟨List.Pairwise.nil, fun path c => ⟨nofun, fun related => absurd related (empty path c)⟩⟩

theorem singleton (path : List Nat) (c : Command) : Lists (fun p d => p = path ∧ d = c) [(path, c)] := by
  refine ⟨List.pairwise_singleton _ _, fun p d => ?_⟩
  rw [List.mem_singleton, Prod.mk.injEq]

/-- Two lists make one if every path of the first comes before every path of the second. -/
theorem append (first : Lists R placed) (second : Lists S others)
    (before : ∀ path c path' c', R path c → S path' c' → path < path') :
    Lists (fun path c => R path c ∨ S path c) (placed ++ others) := by
  refine ⟨List.pairwise_append.mpr ⟨first.ordered, second.ordered, ?_⟩, fun path c => ?_⟩
  · rintro ⟨path, c⟩ mem ⟨path', c'⟩ mem'
    exact before path c path' c' ((first.exact path c).mp mem) ((second.exact path' c').mp mem')
  · rw [List.mem_append, first.exact, second.exact]

/-- The list one level up: every path begins with one more index. -/
theorem below (lists : Lists R placed) (i : Nat) :
    Lists (fun path c => ∃ rest, path = i :: rest ∧ R rest c)
      (placed.map fun x => (i :: x.1, x.2)) := by
  constructor
  · rw [List.pairwise_map]
    exact lists.ordered.imp fun less => List.cons_lt_cons_iff.mpr (Or.inr ⟨rfl, less⟩)
  · intro path c
    constructor
    · intro mem
      obtain ⟨⟨rest, d⟩, inner, same⟩ := List.mem_map.mp mem
      cases same
      exact ⟨rest, rfl, (lists.exact rest d).mp inner⟩
    · rintro ⟨rest, rfl, related⟩
      exact List.mem_map.mpr ⟨(rest, c), (lists.exact rest c).mpr related, rfl⟩

/-- There is one list at most. -/
theorem unique (first : Lists R placed) (second : Lists R others) : placed = others := by
  have distinct {l : List (List Nat × Command)} (ordered : l.Pairwise fun x y => x.1 < y.1) :
      l.Nodup := by
    refine ordered.imp ?_
    rintro x y less rfl
    exact List.lt_irrefl _ less
  have same : placed.Perm others := by
    refine (List.perm_ext_iff_of_nodup (distinct first.ordered) (distinct second.ordered)).mpr ?_
    rintro ⟨path, c⟩
    rw [first.exact, second.exact]
  refine same.eq_of_pairwise ?_ first.ordered second.ordered
  intro x y _ _ less less'
  exact absurd (List.lt_trans less less') (List.lt_irrefl _)

end Lists

/-- A leaf of one of several values, the first of which has the index `first`. -/
def LeafAmong (t : Int) (first : Nat) (items : List Value) (path : List Nat) (c : Command) : Prop :=
  ∃ i item rest, items[i]? = some item ∧ path = (first + i) :: rest ∧ LeafAt t item rest c

/-- What is at a path in several values is at the rest of the path in the first one or in a later one. -/
theorem exists_among_cons {P : Value → List Nat → Prop} {first : Nat} {item : Value} {items : List Value}
    {path : List Nat} :
    (∃ i w rest, (item :: items)[i]? = some w ∧ path = (first + i) :: rest ∧ P w rest) ↔
      (∃ rest, path = first :: rest ∧ P item rest) ∨
        ∃ i w rest, items[i]? = some w ∧ path = (first + 1 + i) :: rest ∧ P w rest := by
  constructor
  · rintro ⟨i, w, rest, entry, rfl, there⟩
    cases i with
    | zero =>
        cases entry
        exact Or.inl ⟨rest, rfl, there⟩
    | succ i => exact Or.inr ⟨i, w, rest, entry, by rw [Nat.add_right_comm]; rfl, there⟩
  · rintro (⟨rest, rfl, there⟩ | ⟨i, w, rest, entry, rfl, there⟩)
    · exact ⟨0, item, rest, rfl, rfl, there⟩
    · exact ⟨i + 1, w, rest, entry, by rw [Nat.add_right_comm]; rfl, there⟩

theorem leafAmong_cons {t : Int} {first : Nat} {item : Value} {items : List Value} {path : List Nat}
    {c : Command} :
    LeafAmong t first (item :: items) path c ↔
      (∃ rest, path = first :: rest ∧ LeafAt t item rest c) ∨
        LeafAmong t (first + 1) items path c :=
  exists_among_cons

/-- The leaves of a group are those of its entries. -/
theorem leafAt_of_isGroup {around : Int} {v : Value} {items : List Value} (group : v.IsGroup items)
    {path : List Nat} {c : Command} :
    v.LeafAt around path c ↔ LeafAmong (v.timeIn around) 0 items path c := by
  constructor
  · intro leaf
    cases leaf with
    | here simple => exact absurd simple (Command.not_isSimple_of_isGroup group c)
    | inside group' time entry leaf =>
        rename_i items' t i item rest
        rw [group'.eq group] at entry
        rw [isTimed_iff.mp time] at leaf
        exact ⟨i, item, rest, entry, by rw [Nat.zero_add], leaf⟩
  · rintro ⟨i, item, rest, entry, rfl, leaf⟩
    rw [Nat.zero_add]
    exact .inside group (isTimed_iff.mpr rfl) entry leaf

/-- An ungrouped command is its own and only leaf. -/
theorem leafAt_of_isSimple {around : Int} {v : Value} {c : Command} (simple : v.IsSimple around c)
    {path : List Nat} {d : Command} : v.LeafAt around path d ↔ path = [] ∧ d = c := by
  constructor
  · intro leaf
    cases leaf with
    | here simple' =>
        have same := (Command.command_of_isSimple simple').symm.trans (Command.command_of_isSimple simple)
        exact ⟨rfl, Option.some.inj same⟩
    | inside group time entry leaf => exact absurd simple (Command.not_isSimple_of_isGroup group c)
  · rintro ⟨rfl, rfl⟩
    exact .here simple

/-- A rejected record has no leaves. -/
theorem not_leafAt_of_rejected {around : Int} {v : Value} (rejected : (Command.read around v).command = none)
    (path : List Nat) (c : Command) : ¬ v.LeafAt around path c := by
  have none (d : Command) : (Command.read around v).command ≠ some d := by
    rw [rejected]
    nofun
  intro leaf
  cases leaf with
  | here simple => exact none c (Command.command_of_isSimple simple)
  | inside group time entry leaf => exact none _ (Command.command_of_isGroup group)

end Value

namespace Command

open Value

theorem parts_of_isSimple {around : Int} {v : Value} {c : Command} (simple : v.IsSimple around c) :
    (read around v).parts = [c] := by
  unfold Reading.parts
  rw [command_of_isSimple simple]
  cases simple <;> rfl

/-- The leaves of several values, if those of each are known. -/
theorem lists_leafAmong {t : Int} {items : List Value}
    (each : ∀ item ∈ items, ∃ placed, Lists (item.LeafAt t) placed ∧
      placed.map Prod.snd = (read t item).parts) (first : Nat) :
    ∃ placed, Lists (LeafAmong t first items) placed ∧
      placed.map Prod.snd = items.flatMap fun item => (read t item).parts := by
  induction items generalizing first with
  | nil =>
      refine ⟨[], .nil ?_, rfl⟩
      rintro path c ⟨i, item, rest, entry, -⟩
      cases entry
  | cons item items ih =>
      obtain ⟨here, listsHere, partsHere⟩ := each item List.mem_cons_self
      obtain ⟨later, listsLater, partsLater⟩ :=
        ih (fun w mem => each w (List.mem_cons_of_mem item mem)) (first + 1)
      refine ⟨_, ((listsHere.below first).append listsLater ?_).of_iff fun path c => ?_, ?_⟩
      · -- Paths through this entry come before those through later ones by their first index.
        rintro path c path' c' ⟨rest, rfl, -⟩ ⟨i, w, rest', -, rfl, -⟩
        exact List.cons_lt_cons_iff.mpr (Or.inl (by omega))
      · exact leafAmong_cons.symm
      · rw [List.map_append, List.map_map, partsLater, List.flatMap_cons, ← partsHere]
        rfl

/-- **The parts of a reading** are the leaves of the record, each once, from left to right. -/
theorem lists_leaves (around : Int) (v : Value) :
    ∃ placed, Lists (v.LeafAt around) placed ∧ placed.map Prod.snd = (read around v).parts := by
  cases command : (read around v).command with
  | none =>
      refine ⟨[], .nil (not_leafAt_of_rejected command), ?_⟩
      unfold Reading.parts
      rw [command]
      rfl
  | some c =>
      rcases isSimple_or_isGroup_of_read command with simple | ⟨items, group, rfl⟩
      · rw [parts_of_isSimple simple]
        exact ⟨[([], c)], (Lists.singleton [] c).of_iff fun _ _ => (leafAt_of_isSimple simple).symm, rfl⟩
      · -- The entries are reached through a field of the record, so the recursion is on its size.
        have each (item : Value) (mem : item ∈ items) :=
          have : sizeOf item < sizeOf v := group.sizeOf_lt mem
          lists_leaves (v.timeIn around) item
        obtain ⟨placed, lists, parts⟩ := lists_leafAmong each 0
        refine ⟨placed, lists.of_iff fun _ _ => (leafAt_of_isGroup group).symm, ?_⟩
        rw [Reading.parts_of_group command]
        exact parts
termination_by sizeOf v

/-- Every leaf stands for an ungrouped command. -/
theorem exists_isSimple_of_leafAt {around : Int} {v : Value} {path : List Nat} {c : Command}
    (leaf : v.LeafAt around path c) : ∃ t w, IsSimple t w c := by
  induction leaf with
  | here simple => exact ⟨_, _, simple⟩
  | inside group time entry leaf ih => exact ih

/-- The parts of a group that is read are leaves of the record. -/
theorem exists_isSimple_of_mem_parts {around : Int} {v : Value} {parts : List Command} {t : Int}
    (command : (read around v).command = some (.group parts t)) {c : Command} (mem : c ∈ parts) :
    ∃ t w, IsSimple t w c := by
  obtain ⟨placed, lists, whole⟩ := lists_leaves around v
  rw [Reading.parts_of_group command] at whole
  rw [← whole] at mem
  obtain ⟨⟨path, d⟩, here, rfl⟩ := List.mem_map.mp mem
  exact exists_isSimple_of_leafAt ((lists.exact path d).mp here)

/-- The positions of an ungrouped command. -/
def positions : Command → List Int
  | .insert position _ _ => [position]
  | .delete start stop _ => [start, stop]
  | .style start stop _ _ => [start, stop]
  | _ => []

theorem nonneg_of_range {v : Value} {start stop : Int} (range : v.HasRange start stop) :
    ∀ n ∈ [start, stop], 0 ≤ n := by
  intro n mem
  rcases List.mem_pair.mp mem with rfl | rfl
  · exact range.start.2
  · exact range.stop.2

theorem positions_nonneg_of_isSimple {t : Int} {w : Value} {c : Command} (simple : IsSimple t w c) :
    ∀ n ∈ c.positions, 0 ≤ n := by
  cases simple with
  | insert shape time =>
      intro n mem
      rw [List.mem_singleton.mp mem]
      exact shape.position.2
  | delete shape time => exact nonneg_of_range shape.range
  | style shape time => exact nonneg_of_range shape.range

/-- What the kinds of records ask for is all that reading asks for. -/
theorem command_read_eq_none_iff {around : Int} {v : Value} :
    (read around v).command = none ↔ ¬ v.IsAccepted := by
  rw [Option.eq_none_iff_forall_ne_some]
  have timed : v.IsTimed around (v.timeIn around) := isTimed_iff.mpr rfl
  constructor
  · rintro none (⟨position, text, shape⟩ | ⟨start, stop, shape⟩ | ⟨start, stop, properties, shape⟩ |
      ⟨items, shape⟩)
    · exact none _ (command_of_isSimple (.insert shape timed))
    · exact none _ (command_of_isSimple (.delete shape timed))
    · exact none _ (command_of_isSimple (.style shape timed))
    · exact none _ (command_of_isGroup shape)
  · intro rejected c command
    refine rejected ?_
    rcases isSimple_or_isGroup_of_read command with simple | ⟨items, group, -⟩
    · cases simple with
      | insert shape time => exact Or.inl ⟨_, _, shape⟩
      | delete shape time => exact Or.inr (Or.inl ⟨_, _, shape⟩)
      | style shape time => exact Or.inr (Or.inr (Or.inl ⟨_, _, _, shape⟩))
    · exact Or.inr (Or.inr (Or.inr ⟨items, group⟩))

/-- What is read is exactly what the record stands for: there is one list of leaves only. -/
theorem command_read_iff_denotes {around : Int} {v : Value} {c : Command} :
    (read around v).command = some c ↔ v.Denotes around c := by
  obtain ⟨placed, lists, whole⟩ := lists_leaves around v
  constructor
  · intro command
    rcases isSimple_or_isGroup_of_read command with simple | ⟨items, group, rfl⟩
    · exact .simple simple
    · rw [Reading.parts_of_group command] at whole
      have denotes := Denotes.group group (isTimed_iff.mpr rfl) lists
      rw [whole] at denotes
      exact denotes
  · intro denotes
    cases denotes with
    | simple simple => exact command_of_isSimple simple
    | group group time leaves =>
        have command : (read around v).command = some _ := command_of_isGroup group
        rw [Reading.parts_of_group command] at whole
        -- The leaves listed here and those that were read are lists of the same paths, in the same order.
        rw [command, leaves.unique lists, whole, isTimed_iff.mp time]

/-- **What is read from any value.**  The command that it stands for, if it stands for one; a group has for its parts
all leaves below it, each with the time around it, once and from left to right.  Nothing is read just from what is
none of the four kinds of records.  No group has a group for a part, and no position is negative. -/
theorem read_denotes (around : Int) (v : Value) :
    (∀ c, (read around v).command = some c ↔ v.Denotes around c) ∧
      ((read around v).command = none ↔ ¬ v.IsAccepted) ∧
      (∀ parts t, (read around v).command = some (.group parts t) →
        ∀ inner t', Command.group inner t' ∉ parts) ∧
      ∀ c, (read around v).command = some c → ∀ l ∈ c.leaves, ∀ n ∈ l.positions, 0 ≤ n := by
  refine ⟨fun c => command_read_iff_denotes, command_read_eq_none_iff, ?_, ?_⟩
  · intro parts t command inner t' mem
    obtain ⟨_, _, simple⟩ := exists_isSimple_of_mem_parts command mem
    cases simple
  · intro c command l leaf
    rcases command_read_iff.mp command with simple | ⟨items, group, rfl⟩
    · rw [leaves_of_isSimple simple] at leaf
      rw [List.mem_singleton.mp leaf]
      exact positions_nonneg_of_isSimple simple
    · rw [leaves] at leaf
      obtain ⟨part, mem, inner⟩ := mem_leavesOfAll.mp leaf
      obtain ⟨_, _, simple⟩ := exists_isSimple_of_mem_parts command mem
      rw [leaves_of_isSimple simple] at inner
      rw [List.mem_singleton.mp inner]
      exact positions_nonneg_of_isSimple simple

/-- The inner group has the time of the outer one, and what is no record at all is passed over. -/
example :
    (read 9 (.object [("ty", .str "mlti"), ("ts", .int 4), ("cmds", .list
      [.object [("ty", .str "ds"), ("si", .int 0), ("ei", .int 2)], .null,
        .object [("ty", .str "mlti"), ("cmds", .list
          [.object [("ty", .str "is"), ("ibi", .int 1), ("s", .str "a"), ("ts", .int 7)],
            .object [("ty", .str "ds"), ("si", .int (-1)), ("ei", .int 2)]])]])])).command =
      some (.group [.delete 0 2 4, .insert 1 ['a'] 7] 4) := by
  rfl

end Command

end EditHistory
