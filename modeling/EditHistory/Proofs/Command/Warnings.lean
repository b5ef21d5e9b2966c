import EditHistory.Proofs.Command.Reading
import Mathlib.Data.Set.Card

/-!
# Warnings of a reading

Reading a change record visits the record and, through groups, the entries of groups.  Nothing is lost in silence: there
is one warning for each visited record that stands for no command.  Without these the record is read as before, and
nothing is left to warn of.

## Main definitions

* `Value.Visited` — the records visited, with the paths of indices that lead to them
* `Value.rejectedAt` — the places of the visited records that stand for no command
* `Value.prune` — a record without the entries that stand for no command

## Main statements

* `Command.encard_rejectedAt` — one rejection for each rejected place
* `Command.read_prune` — what is read without the rejected entries
* `Command.read_warns` — warnings and rejected places correspond
-/

namespace EditHistory

/-! ### Readings as a whole -/

namespace Command

open Value

/-- A record that is no group gives a command and no rejection, or a rejection and no command. -/
theorem read_of_not_isGroup {v : Value} (single : ∀ items, ¬ v.IsGroup items) (around : Int) :
    (∃ c, read around v = .accept c) ∨ ∃ r, read around v = .reject r := by
  cases v with
  | object fields =>
      rw [read]
      split
      · unfold readInsert
        split
        · exact Or.inl ⟨_, rfl⟩
        · exact Or.inr ⟨_, rfl⟩
      · unfold readDelete
        split
        · exact Or.inl ⟨_, rfl⟩
        · exact Or.inr ⟨_, rfl⟩
      · unfold readStyle
        split
        · exact Or.inr ⟨_, rfl⟩
        · split
          · exact Or.inl ⟨_, rfl⟩
          · exact Or.inl ⟨_, rfl⟩
          · exact Or.inr ⟨_, rfl⟩
      next kind =>
        refine Or.inr ⟨.groupWithoutList, ?_⟩
        rw [readEntries_eq]
        cases found : Value.lookup? fields "cmds" with
        | none => rfl
        | some entries =>
            cases entries with
            | list items => exact absurd ⟨kind, found⟩ (single items)
            | _ => rfl
      · exact Or.inr ⟨_, rfl⟩
  | _ => exact Or.inr ⟨_, rfl⟩

/-- A group is read from what its entries give. -/
theorem read_of_isGroup {v : Value} {items : List Value} (group : v.IsGroup items) (around : Int) :
    read around v = ofReadings (some (items.map (read (v.timeIn around)))) (v.timeIn around) := by
  obtain ⟨fields, rfl, kind⟩ := group.kind.exists_fields
  have found : Value.lookup? fields "cmds" = some (.list items) := group.items
  simp only [read, kind]
  rw [readEntries_eq, found, Option.bind_some, readList, readItems_eq_map]
  rfl

/-- Whether a record is accepted does not depend on the time around it. -/
theorem isSome_command_read (t t' : Int) (v : Value) :
    (read t v).command.isSome = (read t' v).command.isSome := by
  rw [Bool.eq_iff_iff, Option.isSome_iff_ne_none, Option.isSome_iff_ne_none, ne_eq, ne_eq,
    command_read_eq_none_iff, command_read_eq_none_iff]

end Command

/-! ### The records visited -/

namespace Value

/-- The records that are visited, with the paths that lead to them: the record itself and, through groups, every entry
of a group. -/
inductive Visited : Value → List Nat → Value → Prop
  | here {v : Value} : Visited v [] v
  | inside {v : Value} {items : List Value} {i : Nat} {item : Value} {path : List Nat} {w : Value}
      (group : v.IsGroup items) (entry : items[i]? = some item) (visited : Visited item path w) :
      Visited v (i :: path) w

/-- The places of the visited records that stand for no command. -/
def rejectedAt (v : Value) : Set (List Nat) :=
  {path | ∃ w, v.Visited path w ∧ ¬ w.IsAccepted}

/-- The rejected places in several values, the first of which has the index `first`. -/
def rejectedAmong (first : Nat) (items : List Value) : Set (List Nat) :=
  {path | ∃ i item rest, items[i]? = some item ∧ path = (first + i) :: rest ∧ rest ∈ item.rejectedAt}

theorem rejectedAmong_cons (first : Nat) (item : Value) (items : List Value) :
    rejectedAmong first (item :: items) =
      (first :: ·) '' item.rejectedAt ∪ rejectedAmong (first + 1) items := by
  ext path
  refine exists_among_cons.trans (or_congr_left ?_)
  constructor
  · rintro ⟨rest, rfl, mem⟩
    exact ⟨rest, mem, rfl⟩
  · rintro ⟨rest, mem, rfl⟩
    exact ⟨rest, rfl, mem⟩

/-- The rejected places of a group are those of its entries. -/
theorem rejectedAt_of_isGroup {v : Value} {items : List Value} (group : v.IsGroup items) :
    v.rejectedAt = rejectedAmong 0 items := by
  have accepted : v.IsAccepted := Or.inr (Or.inr (Or.inr ⟨items, group⟩))
  ext path
  constructor
  · rintro ⟨w, visited, rejected⟩
    cases visited with
    | here => exact absurd accepted rejected
    | inside group' entry visited =>
        rename_i items' i item rest
        rw [group'.eq group] at entry
        exact ⟨i, item, rest, entry, by rw [Nat.zero_add], w, visited, rejected⟩
  · rintro ⟨i, item, rest, entry, rfl, w, visited, rejected⟩
    rw [Nat.zero_add]
    exact ⟨w, .inside group entry visited, rejected⟩

/-- A record that is no group is the only one visited. -/
theorem mem_rejectedAt_of_not_isGroup {v : Value} (single : ∀ items, ¬ v.IsGroup items) {path : List Nat} :
    path ∈ v.rejectedAt ↔ path = [] ∧ ¬ v.IsAccepted := by
  constructor
  · rintro ⟨w, visited, rejected⟩
    cases visited with
    | here => exact ⟨rfl, rejected⟩
    | inside group => exact absurd group (single _)
  · rintro ⟨rfl, rejected⟩
    exact ⟨v, .here, rejected⟩

end Value

namespace Command

open Value

/-- The rejected places in several values, if those in each are counted. -/
theorem encard_rejectedAmong {t : Int} {items : List Value}
    (each : ∀ item ∈ items, item.rejectedAt.encard = (read t item).rejections.length) (first : Nat) :
    (rejectedAmong first items).encard = (items.flatMap fun item => (read t item).rejections).length := by
  induction items generalizing first with
  | nil =>
      refine Set.encard_eq_zero.mpr (Set.eq_empty_iff_forall_notMem.mpr ?_)
      rintro path ⟨i, item, rest, entry, -⟩
      cases entry
  | cons item items ih =>
      have apart : Disjoint ((first :: ·) '' item.rejectedAt) (rejectedAmong (first + 1) items) := by
        refine Set.disjoint_left.mpr ?_
        rintro _ ⟨rest, -, rfl⟩ ⟨i, w, rest', -, same, -⟩
        have same := (List.cons.inj same).1
        omega
      rw [rejectedAmong_cons, Set.encard_union_eq apart, (List.cons_injective).encard_image,
        each item List.mem_cons_self, ih (fun w mem => each w (List.mem_cons_of_mem item mem)),
        List.flatMap_cons, List.length_append, Nat.cast_add]

/-- The one place of a record that is no group is rejected if the record is. -/
theorem encard_rejectedAt_of_not_isGroup (around : Int) {v : Value} (single : ∀ items, ¬ v.IsGroup items) :
    v.rejectedAt.encard = (read around v).rejections.length := by
  rcases read_of_not_isGroup single around with ⟨c, accepted⟩ | ⟨r, rejected⟩
  · have shape : v.IsAccepted := by
      by_contra shape
      have none : (read around v).command = none := command_read_eq_none_iff.mpr shape
      rw [accepted] at none
      cases none
    have empty : v.rejectedAt = ∅ :=
      Set.eq_empty_iff_forall_notMem.mpr fun path mem => ((mem_rejectedAt_of_not_isGroup single).mp mem).2 shape
    rw [empty, Set.encard_empty, accepted]
    rfl
  · have shape : ¬ v.IsAccepted := by
      refine command_read_eq_none_iff.mp (?_ : (read around v).command = none)
      rw [rejected]
      rfl
    have one : v.rejectedAt = {[]} := by
      ext path
      rw [mem_rejectedAt_of_not_isGroup single, Set.mem_singleton_iff, and_iff_left shape]
    rw [one, Set.encard_singleton, rejected]
    rfl

/-- **One rejection for each rejected place.** -/
theorem encard_rejectedAt (around : Int) (v : Value) :
    v.rejectedAt.encard = (read around v).rejections.length := by
  by_cases grouped : ∃ items, v.IsGroup items
  · obtain ⟨items, group⟩ := grouped
    have each (item : Value) (mem : item ∈ items) :=
      have : sizeOf item < sizeOf v := group.sizeOf_lt mem
      encard_rejectedAt (v.timeIn around) item
    rw [rejectedAt_of_isGroup group, encard_rejectedAmong each, read_of_isGroup group]
    simp only [ofReadings, List.flatMap_map]
  · exact encard_rejectedAt_of_not_isGroup around (not_exists.mp grouped)
termination_by sizeOf v

end Command

/-! ### What is left without the rejected entries -/

namespace Value

mutual

/-- A record without the entries that stand for no command, those of inner groups included. -/
def prune : Value → Value
  | .object fields =>
    match lookup? fields "ty" with
    | some (.str "mlti") => .object (pruneEntries fields)
    | _ => .object fields
  | v => v

/-- The fields of a group, its entries pruned. -/
def pruneEntries : List (String × Value) → List (String × Value)
  | [] => []
  | (key, v) :: rest => if key = "cmds" then (key, pruneList v) :: rest else (key, v) :: pruneEntries rest

/-- The field with the entries of a group, pruned. -/
def pruneList : Value → Value
  | .list items => .list (pruneItems items)
  | v => v

/-- The entries of a group that stand for commands, each of them pruned. -/
def pruneItems : List Value → List Value
  | [] => []
  | v :: vs => if (Command.read 0 v).command.isSome then prune v :: pruneItems vs else pruneItems vs

end

theorem lookup?_pruneEntries (fields : List (String × Value)) (key : String) :
    lookup? (pruneEntries fields) key =
      if key = "cmds" then (lookup? fields key).map pruneList else lookup? fields key := by
  induction fields with
  | nil =>
      rw [pruneEntries, lookup?]
      split <;> rfl
  | cons field rest ih =>
      obtain ⟨k, v⟩ := field
      rw [pruneEntries]
      by_cases entries : k = "cmds"
      · rw [if_pos entries, lookup?, lookup?, entries]
        split <;> grind
      · rw [if_neg entries, lookup?, lookup?, ih]
        split <;> grind

/-- What is no group stays as it is. -/
theorem prune_of_hasKind {v : Value} {kind : String} (has : v.HasKind kind) (single : kind ≠ "mlti") :
    v.prune = v := by
  obtain ⟨fields, rfl, found⟩ := has.exists_fields
  rw [prune]
  split
  next group =>
    rw [found] at group
    cases group
    exact absurd rfl single
  next => rfl

theorem prune_of_isSimple {around : Int} {v : Value} {c : Command} (simple : v.IsSimple around c) :
    v.prune = v := by
  cases simple with
  | insert shape time => exact prune_of_hasKind shape.kind (by decide)
  | delete shape time => exact prune_of_hasKind shape.kind (by decide)
  | style shape time => exact prune_of_hasKind shape.kind (by decide)

variable {v : Value} {items : List Value}

/-- A pruned group differs in its entries only. -/
theorem get?_prune_of_isGroup (group : v.IsGroup items) (key : String) :
    v.prune.get? key = if key = "cmds" then some (.list (pruneItems items)) else v.get? key := by
  obtain ⟨fields, rfl, kind⟩ := group.kind.exists_fields
  have found : lookup? fields "cmds" = some (.list items) := group.items
  have pruned : (Value.object fields).prune = .object (pruneEntries fields) := by
    simp only [prune, kind]
  rw [pruned]
  refine (lookup?_pruneEntries fields key).trans ?_
  by_cases entries : key = "cmds"
  · rw [if_pos entries, if_pos entries, entries, found]
    rfl
  · rw [if_neg entries, if_neg entries]
    rfl

theorem isGroup_prune (group : v.IsGroup items) : v.prune.IsGroup (pruneItems items) where
  kind := (get?_prune_of_isGroup group "ty").trans group.kind
  items := get?_prune_of_isGroup group "cmds"

theorem timeIn_prune (group : v.IsGroup items) (around : Int) : v.prune.timeIn around = v.timeIn around := by
  rw [timeIn, timeIn, get?_prune_of_isGroup group, if_neg (by decide)]

end Value

namespace Command

open Value

/-- The entries left in a group give the commands that the entries gave before, and nothing else. -/
theorem map_read_pruneItems {t : Int} {items : List Value}
    (each : ∀ item ∈ items, ∀ c, (read t item).command = some c → read t item.prune = .accept c) :
    (pruneItems items).map (read t) = (items.filterMap fun item => (read t item).command).map .accept := by
  induction items with
  | nil => rfl
  | cons item items ih =>
      have ih := ih fun w mem => each w (List.mem_cons_of_mem item mem)
      rw [pruneItems, isSome_command_read 0 t]
      cases command : (read t item).command with
      | none => simpa [command] using ih
      | some c => simp [command, ih, each item List.mem_cons_self c command]

/-- A group has the parts of the commands that its entries give. -/
theorem flatMap_parts (t : Int) (items : List Value) :
    (items.flatMap fun item => (read t item).parts) =
      ((items.filterMap fun item => (read t item).command).map Reading.accept).flatMap Reading.parts := by
  induction items with
  | nil => rfl
  | cons item items ih =>
      rw [List.flatMap_cons, ih, Reading.parts]
      cases command : (read t item).command with
      | none => simp [command]
      | some c => simp [command, Reading.parts, Reading.accept]

/-- **What is read without the rejected entries.**  The command is the same, and no rejection is left. -/
theorem read_prune {around : Int} {v : Value} {c : Command} (command : (read around v).command = some c) :
    read around v.prune = .accept c := by
  rcases command_read_iff.mp command with simple | ⟨items, group, rfl⟩
  · rw [prune_of_isSimple simple]
    rcases read_of_not_isGroup (fun items group => not_isSimple_of_isGroup group c simple) around with
      ⟨d, accepted⟩ | ⟨r, rejected⟩
    · rw [accepted] at command ⊢
      exact congrArg Reading.accept (Option.some.inj command)
    · rw [rejected] at command
      cases command
  · have each (item : Value) (mem : item ∈ items) (d : Command)
        (inner : (read (v.timeIn around) item).command = some d) :=
      have : sizeOf item < sizeOf v := group.sizeOf_lt mem
      read_prune inner
    rw [read_of_isGroup (isGroup_prune group), timeIn_prune group, map_read_pruneItems each, flatMap_parts]
    have none : ((items.filterMap fun item => (read (v.timeIn around) item).command).map
        Reading.accept).flatMap Reading.rejections = [] := by
      rw [List.flatMap_map]
      exact List.flatMap_eq_nil_iff.mpr fun _ _ => rfl
    rw [ofReadings, none]
    rfl
termination_by sizeOf v

/-- **Nothing is lost in silence.**  Reading any value writes one warning for each visited record that stands for no
command, and nothing else.  If the value itself stands for a command, the same command is read when all entries that
stand for none are taken out, and then without a warning. -/
theorem read_warns (around : Int) (v : Value) :
    v.rejectedAt.encard = (read around v).log.length ∧
      (∀ r ∈ (read around v).log, r.level = .warning) ∧
      ∀ c, (read around v).command = some c →
        (read around v.prune).command = some c ∧ (read around v.prune).log = [] := by
  refine ⟨?_, ?_, fun c command => ?_⟩
  · rw [encard_rejectedAt around, Reading.log, List.length_map]
  · intro r mem
    obtain ⟨rejection, -, rfl⟩ := List.mem_map.mp mem
    rfl
  · rw [read_prune command]
    exact ⟨rfl, rfl⟩

end Command

end EditHistory
