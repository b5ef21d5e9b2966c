import EditHistory.Document.Styled
import Mathlib.Data.List.Induction

/-!
# Properties written over each other

The properties of a character come from the style commands that cover its place.  A command writes its properties in
order, the commands write one after the other, and what a character has in the end is the record of all these writings:
each name once, where it was first written, with the value that was written last.

## Main definitions

* `Command.writesAt`, `writesAt` — what commands write at a place
* `IsMerged` — the record of properties written one after the other

## Main statements

* `isMerged_iff` — the record is the only one, and merging yields it
* `styled_eq_mapIdx` — a styled text character by character
* `styled_isMerged` — each character has the record of what the style commands write at its place
-/

namespace EditHistory

namespace Value

variable {fields : List (String × Value)}

/-- Setting a field adds its name at the end unless it is there. -/
theorem names_put (fields : List (String × Value)) (key : String) (v : Value) :
    (put fields key v).map Prod.fst =
      if key ∈ fields.map Prod.fst then fields.map Prod.fst else fields.map Prod.fst ++ [key] := by
  induction fields with
  | nil => rfl
  | cons p rest ih =>
      obtain ⟨k, w⟩ := p
      by_cases same : k = key
      · simp [put, same]
      · rw [put, if_neg same, List.map_cons, ih]
        simp only [List.map_cons, List.mem_cons, Ne.symm same, false_or]
        split <;> rfl

/-- A field that was set has the value it was set to, every other the one it had. -/
theorem lookup?_put (fields : List (String × Value)) (key : String) (v : Value) (name : String) :
    lookup? (put fields key v) name = if key = name then some v else lookup? fields name := by
  induction fields with
  | nil => rfl
  | cons p rest ih =>
      obtain ⟨k, w⟩ := p
      by_cases same : k = key
      · subst same
        rw [put, if_pos rfl, lookup?, lookup?]
        by_cases here : k = name <;> simp only [here, if_true, if_false]
      · rw [put, if_neg same, lookup?, lookup?, ih]
        by_cases here : k = name
        · rw [if_pos here, if_pos here, if_neg fun that => same (here.trans that.symm)]
        · rw [if_neg here, if_neg here]

theorem lookup?_eq_none {name : String} (new : name ∉ fields.map Prod.fst) : lookup? fields name = none := by
  induction fields with
  | nil => rfl
  | cons p rest ih =>
      obtain ⟨k, v⟩ := p
      simp only [List.map_cons, List.mem_cons, not_or] at new
      rw [lookup?, if_neg (Ne.symm new.1), ih new.2]

/-- Records with the same names in the same order, none twice, are equal if all their values are. -/
theorem fields_ext {first second : List (String × Value)}
    (names : first.map Prod.fst = second.map Prod.fst) (once : (first.map Prod.fst).Nodup)
    (values : ∀ name, lookup? first name = lookup? second name) : first = second := by
  induction first generalizing second with
  | nil => exact (List.map_eq_nil_iff.mp names.symm).symm
  | cons p rest ih =>
      obtain ⟨k, v⟩ := p
      obtain _ | ⟨⟨k', v'⟩, rest'⟩ := second
      · cases names
      · simp only [List.map_cons, List.cons.injEq, List.nodup_cons] at names once
        obtain ⟨rfl, names⟩ := names
        have same := values k
        simp only [lookup?, if_true, Option.some.injEq] at same
        subst same
        refine congrArg _ (ih names once.2 fun name => ?_)
        by_cases here : k = name
        · rw [← here, lookup?_eq_none once.1, lookup?_eq_none (names ▸ once.1)]
        · simpa only [lookup?, if_neg here] using values name

end Value

/-! ### The record of writings -/

/-- The record of properties written one after the other: each name stands once, in the order in which the names were
first written, and has the value that was written last. -/
structure IsMerged (writes fields : List (String × Value)) : Prop where
  names : fields.map Prod.fst = (writes.map Prod.fst).eraseDups
  value : ∀ name, Value.lookup? fields name = Value.lookup? writes.reverse name

theorem mergeStyles_append (styles first second : List (String × Value)) :
    mergeStyles styles (first ++ second) = mergeStyles (mergeStyles styles first) second :=
  List.foldl_append

theorem isMerged_mergeStyles (writes : List (String × Value)) : IsMerged writes (mergeStyles [] writes) := by
  -- from the end, since the last writing is the one that shows
  induction writes using List.reverseRecOn with
  | nil => exact ⟨rfl, fun _ => rfl⟩
  | append_singleton writes p ih =>
      obtain ⟨key, v⟩ := p
      rw [mergeStyles_append]
      constructor
      · rw [List.map_append, List.eraseDups_append, ← ih.names]
        refine (Value.names_put _ key v).trans ?_
        by_cases old : key ∈ writes.map Prod.fst <;>
          simp [ih.names, List.removeAll, List.eraseDups_cons, old]
      · intro name
        rw [List.reverse_append]
        refine (Value.lookup?_put _ key v name).trans ?_
        rw [ih.value name]
        rfl

theorem nodup_mergeStyles (writes : List (String × Value)) : ((mergeStyles [] writes).map Prod.fst).Nodup := by
  induction writes using List.reverseRecOn with
  | nil => exact List.nodup_nil
  | append_singleton writes p ih =>
      rw [mergeStyles_append]
      refine Eq.subst (Value.names_put (mergeStyles [] writes) p.1 p.2).symm ?_
      split
      next => exact ih
      next new => exact List.nodup_append.mpr ⟨ih, by simp, by grind⟩

/-- There is one record of given writings, and merging them yields it. -/
theorem isMerged_iff {writes fields : List (String × Value)} :
    IsMerged writes fields ↔ fields = mergeStyles [] writes := by
  have merged := isMerged_mergeStyles writes
  constructor
  · intro other
    exact (Value.fields_ext (merged.names.trans other.names.symm) (nodup_mergeStyles writes) fun name =>
      (merged.value name).trans (other.value name).symm).symm
  · rintro rfl
    exact merged

/-! ### What commands write at a place -/

/-- What a command by itself, apart from any parts, writes at a place: a style its properties at the places of its
range, everything else nothing. -/
def Command.writesAt (place : Nat) : Command → List (String × Value)
  | .style start stop properties _ => if start ≤ place ∧ place < stop then properties else []
  | _ => []

/-- What commands and all their parts write at a place, in order. -/
def writesAt (place : Nat) (commands : List Command) : List (String × Value) :=
  (Command.leavesOfAll commands).flatMap (Command.writesAt place)

theorem writesAt_cons (place : Nat) (c : Command) (cs : List Command) :
    writesAt place (c :: cs) = c.leaves.flatMap (Command.writesAt place) ++ writesAt place cs :=
  List.flatMap_append

/-- A character with further properties written. -/
def StyledChar.write (c : StyledChar) (properties : List (String × Value)) : StyledChar :=
  { c with styles := mergeStyles c.styles properties }

@[simp] theorem StyledChar.write_nil (c : StyledChar) : c.write [] = c := rfl

theorem StyledChar.write_append (c : StyledChar) (first second : List (String × Value)) :
    c.write (first ++ second) = (c.write first).write second := by
  rw [write, mergeStyles_append]
  rfl

/-- Styles are ungrouped. -/
theorem Command.leavesOfAll_filter_isStyle (commands : List Command) :
    leavesOfAll (commands.filter isStyle) = commands.filter isStyle := by
  induction commands with
  | nil => rfl
  | cons c cs ih => cases c <;> simp [List.filter_cons, isStyle, leavesOfAll, leaves, ih]

/-- Only styles write. -/
theorem flatMap_writesAt_filter (place : Nat) (commands : List Command) :
    (commands.filter Command.isStyle).flatMap (Command.writesAt place) =
      commands.flatMap (Command.writesAt place) := by
  induction commands with
  | nil => rfl
  | cons c cs ih => cases c <;> simp [List.filter_cons, Command.isStyle, Command.writesAt, ih]

/-! ### Characters in place -/

theorem restyle_eq_mapIdx (start stop : Int) (properties : List (String × Value)) (timestamp : Int) (place : Nat)
    (chars : List StyledChar) :
    restyle start stop properties place chars =
      chars.mapIdx fun i c => c.write ((Command.style start stop properties timestamp).writesAt (place + i)) := by
  induction chars generalizing place with
  | nil => rfl
  | cons c cs ih =>
      rw [restyle, ih, List.mapIdx_cons]
      congr 1
      · rw [Nat.add_zero, Command.writesAt]
        split <;> rfl
      · simp only [Nat.add_right_comm place 1, Nat.add_assoc]

/-- Where nothing is written, everything stays. -/
theorem mapIdx_write_nil (chars : List StyledChar) : (chars.mapIdx fun _ ch => ch.write []) = chars :=
  List.ext_getElem? fun i => by simp

mutual

/-- A command writes at each place what its ungrouped commands write there. -/
theorem applyStyles_eq_mapIdx (chars : List StyledChar) : (c : Command) →
    applyStyles chars c = chars.mapIdx fun i ch => ch.write (c.leaves.flatMap (Command.writesAt i))
  | .insert .. => (mapIdx_write_nil chars).symm
  | .delete .. => (mapIdx_write_nil chars).symm
  | .foreign _ => (mapIdx_write_nil chars).symm
  | .style start stop properties timestamp => by
      rw [applyStyles, restyle_eq_mapIdx start stop properties timestamp]
      simp only [Command.leaves, List.flatMap_singleton, Nat.zero_add]
  | .group parts _ => applyAllStyles_eq_mapIdx chars parts

/-- Commands write one after the other. -/
theorem applyAllStyles_eq_mapIdx (chars : List StyledChar) : (commands : List Command) →
    applyAllStyles chars commands = chars.mapIdx fun i ch => ch.write (writesAt i commands)
  | [] => (mapIdx_write_nil chars).symm
  | c :: cs => by
      rw [applyAllStyles, applyAllStyles_eq_mapIdx, applyStyles_eq_mapIdx, List.mapIdx_mapIdx]
      simp only [writesAt_cons, StyledChar.write_append]
      rfl

end

/-- A styled text, character by character. -/
theorem styled_eq_mapIdx (text : Document) (commands : List Command) :
    styled text commands = text.mapIdx fun i c => ⟨c, 0, mergeStyles [] (writesAt i commands)⟩ := by
  rw [styled, applyAllStyles_eq_mapIdx]
  refine List.ext_getElem? fun i => ?_
  rw [List.getElem?_mapIdx, List.getElem?_mapIdx, List.getElem?_map, Option.map_map]
  rfl

/-- **Styles merge place by place.**  A styled text has one record for each character of the text, in order, with
timestamp 0.  The properties at a place are the one record of what the styles that cover the place write, group by
group and in order: each name where it was first written, with the value that was written last.  Only the ungrouped
styles matter. -/
theorem styled_isMerged (text : Document) (commands : List Command) :
    ∃ properties : Nat → List (String × Value),
      (∀ place fields, IsMerged (writesAt place commands) fields ↔ fields = properties place) ∧
        styled text commands = (text.mapIdx fun place c => ⟨c, 0, properties place⟩) ∧
          styled text commands = styled text ((Command.leavesOfAll commands).filter Command.isStyle) := by
  refine ⟨fun place => mergeStyles [] (writesAt place commands), fun _ _ => isMerged_iff,
    styled_eq_mapIdx text commands, ?_⟩
  rw [styled_eq_mapIdx, styled_eq_mapIdx]
  simp only [writesAt, Command.leavesOfAll_filter_isStyle, flatMap_writesAt_filter]

end EditHistory
