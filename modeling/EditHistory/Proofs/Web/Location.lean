import EditHistory.Web.Location

/-!
# Addresses that stand for themselves

An address whose path has no dots and only characters that a path may hold is sent as it was given, and form encoding
leaves plain texts alone.

## Main statements

* `resolvePath_of_no_dot` — a path without dots is resolved already
* `AddressPart.write_of_keeps`, `Form.encode_of_plain` — characters with a place of their own are written as they are
-/

namespace EditHistory

namespace Text

theorem cutAt_of_not_mem {sep : Char} {cs : List Char} (absent : sep ∉ cs) : cutAt sep cs = (cs, none) := by
  induction cs with
  | nil => rfl
  | cons c cs ih =>
      obtain ⟨differs, later⟩ := List.ne_and_not_mem_of_not_mem_cons absent
      rw [cutAt, if_neg differs.symm, ih later]

/-- There is always a first piece. -/
theorem exists_splitOn (sep : Char) (cs : List Char) : ∃ first others, splitOn sep cs = first :: others := by
  cases cs with
  | nil => exact ⟨[], [], rfl⟩
  | cons c cs =>
      unfold splitOn
      split
      · exact ⟨[], _, rfl⟩
      · split
        · exact ⟨[c], [], rfl⟩
        · exact ⟨_, _, rfl⟩

/-- The pieces of a text have no characters but its own. -/
theorem mem_of_mem_splitOn {sep c : Char} {cs piece : List Char} (mem : piece ∈ splitOn sep cs) (inside : c ∈ piece) :
    c ∈ cs := by
  induction cs generalizing piece with
  | nil =>
      obtain rfl := List.mem_singleton.mp mem
      cases inside
  | cons d cs ih =>
      unfold splitOn at mem
      split at mem
      · rcases List.mem_cons.mp mem with rfl | later
        · cases inside
        · exact List.mem_cons_of_mem d (ih later inside)
      · split at mem
        · obtain rfl := List.mem_singleton.mp mem
          exact List.mem_cons.mpr (Or.inl (List.mem_singleton.mp inside))
        · rename_i first others split
          rcases List.mem_cons.mp mem with rfl | later
          · rcases List.mem_cons.mp inside with rfl | inside
            · exact List.mem_cons_self
            · exact List.mem_cons_of_mem d (ih (split ▸ List.mem_cons_self) inside)
          · exact List.mem_cons_of_mem d (ih (split ▸ List.mem_cons_of_mem first later) inside)

end Text

namespace Web

open EditHistory.Text

/-- Taking a text apart at its slashes and putting them back. -/
theorem joinSegments_splitOn (cs : List Char) : joinSegments (splitOn '/' cs) = cs := by
  induction cs with
  | nil => rfl
  | cons c cs ih =>
      obtain ⟨first, others, pieces⟩ := exists_splitOn '/' cs
      rw [pieces] at ih
      unfold splitOn
      rw [pieces]
      split
      · rename_i slash
        rw [joinSegments, ih, slash, List.nil_append]
      · cases others with
        | nil =>
            rw [joinSegments] at ih
            rw [joinSegments, ih]
        | cons second others =>
            rw [joinSegments] at ih
            rw [joinSegments, List.cons_append, ih]

theorem resolveSegments_of_plain {done segments : List (List Char)}
    (plain : ∀ segment ∈ segments, segment ≠ ['.'] ∧ segment ≠ ['.', '.']) :
    resolveSegments done segments = done.reverse ++ segments := by
  induction segments generalizing done with
  | nil => rw [resolveSegments, List.append_nil]
  | cons segment rest ih =>
      obtain ⟨single, double⟩ := plain segment List.mem_cons_self
      rw [resolveSegments, if_neg single, if_neg double, ih fun s mem => plain s (List.mem_cons_of_mem segment mem),
        List.reverse_cons, List.append_assoc, List.singleton_append]

/-- **A path without dots is resolved already.** -/
theorem resolvePath_of_no_dot {cs : List Char} (absent : '.' ∉ cs) : resolvePath cs = cs := by
  have plain : ∀ segment ∈ splitOn '/' cs, segment ≠ ['.'] ∧ segment ≠ ['.', '.'] := by
    intro segment mem
    constructor
    · rintro rfl
      exact absent (mem_of_mem_splitOn mem List.mem_cons_self)
    · rintro rfl
      exact absent (mem_of_mem_splitOn mem List.mem_cons_self)
  rw [resolvePath, resolveSegments_of_plain plain]
  exact joinSegments_splitOn cs

theorem AddressPart.write_of_keeps {part : AddressPart} {cs : List Char} (keeps : ∀ c ∈ cs, part.keeps c = true) :
    part.write cs = cs := by
  induction cs with
  | nil => rfl
  | cons c cs ih =>
      have rest := ih fun d mem => keeps d (List.mem_cons_of_mem c mem)
      unfold AddressPart.write at rest ⊢
      rw [List.flatMap_cons, rest, if_pos (keeps c List.mem_cons_self)]
      rfl

theorem Form.encode_of_plain {cs : List Char} (plain : ∀ c ∈ cs, Form.isPlain c = true) : Form.encode cs = cs := by
  induction cs with
  | nil => rfl
  | cons c cs ih =>
      have rest := ih fun d mem => plain d (List.mem_cons_of_mem c mem)
      unfold Form.encode at rest ⊢
      rw [List.flatMap_cons, rest, Form.encodeChar, if_pos (plain c List.mem_cons_self)]
      rfl

end Web

end EditHistory
