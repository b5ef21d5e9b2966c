import EditHistory.Proofs.Preferences.SpeedLine

/-!
# The place of a speed in any text

Whatever the text of a file is, a value that is stored as its speed goes to one place, and that place is found again
when another value is stored: the key before it is the first one of the new text.  This holds because a key ends with
the only colon in it, so whether there is a key in a text up to a colon does not depend on what follows the colon.

## Main definitions

* `IsFirst` — the first start of a line at which something is found
* `IsKey`, `IsFirstKey` — the key of a speed, and a text that ends with the first key in it
* `IsSlot` — a place for a value

## Main statements

* `findAtLineStart_keyAt?_iff` — the key that is found is the first one, whatever follows it
* `exists_slot` — storing a value puts it into a place, or changes nothing whatever the value is
* `replaceValue_replaceValue` — a value that is stored after another one takes its place
-/

namespace EditHistory.Preferences.SpeedLine

open EditHistory.Text

/-! ### Starts of lines -/

/-- A text behind which a line starts; `fresh` says whether the text itself starts with a line. -/
def EndsLine (fresh : Bool) (pre : List Char) : Prop := pre.getLast?.elim fresh (· == '\n') = true

theorem endsLine_cons {fresh : Bool} {c : Char} {pre : List Char} :
    EndsLine fresh (c :: pre) ↔ EndsLine (c == '\n') pre := by
  rw [EndsLine, EndsLine]
  cases pre with
  | nil => rfl
  | cons d pre => rw [List.getLast?_cons_cons, List.getLast?_eq_some_getLast (List.cons_ne_nil d pre)]; rfl

section Search

variable {at? : List Char → Option (List Char × List Char)} {fresh : Bool} {cs rest pre b : List Char}

/-- The first start of a line at which something is found stands behind `pre`; what is found is `b`, and `rest` is the
text after it. -/
structure IsFirst (at? : List Char → Option (List Char × List Char)) (fresh : Bool) (cs pre b rest : List Char) :
    Prop where
  lineStart : EndsLine fresh pre
  here : ∃ s, cs = pre ++ s ∧ at? s = some (b, rest)
  earlier : ∀ pre' s, cs = pre' ++ s → EndsLine fresh pre' → pre'.length < pre.length → at? s = none

theorem findAtLineStart_eq_none_iff (nothing : at? [] = none) :
    findAtLineStart at? fresh cs = none ↔ ∀ pre s, cs = pre ++ s → EndsLine fresh pre → at? s = none := by
  induction cs generalizing fresh with
  | nil =>
      refine iff_of_true rfl fun pre s split _ => ?_
      rw [(List.append_eq_nil_iff.mp split.symm).2, nothing]
  | cons c cs ih =>
      rw [findAtLineStart]
      cases here : if fresh then at? (c :: cs) else none with
      | some found =>
          refine iff_of_false (by simp) fun none => ?_
          cases fresh with
          | false => cases here
          | true => cases here.symm.trans (none [] (c :: cs) rfl rfl)
      | none =>
          simp only [Option.map_eq_none_iff, ih]
          constructor
          · intro later pre s split lineStart
            cases pre with
            | nil =>
                rw [show fresh = true from lineStart] at here
                exact (show c :: cs = s from split) ▸ here
            | cons d pre =>
                obtain ⟨rfl, tails⟩ := List.cons.inj split
                exact later pre s tails (endsLine_cons.mp lineStart)
          · exact fun all pre s split lineStart =>
              all (c :: pre) s (congrArg (c :: ·) split) (endsLine_cons.mpr lineStart)

theorem findAtLineStart_of_isFirst (first : IsFirst at? fresh cs pre b rest) (nothing : at? [] = none) :
    findAtLineStart at? fresh cs = some (pre ++ b, rest) := by
  obtain ⟨lineStart, ⟨s, rfl, found⟩, earlier⟩ := first
  induction pre generalizing fresh with
  | nil =>
      have start : fresh = true := lineStart
      have solid : s ≠ [] := by
        rintro rfl
        cases nothing.symm.trans found
      rw [start, List.nil_append, findAtLineStart_of_some found solid, List.nil_append]
  | cons c pre ih =>
      have here : (if fresh then at? (c :: pre ++ s) else none) = none := by
        cases fresh with
        | false => rfl
        | true => exact earlier [] _ rfl rfl (Nat.succ_pos _)
      have later := ih (endsLine_cons.mp lineStart) fun pre' s' split lineStart' shorter =>
        earlier (c :: pre') s' (congrArg (c :: ·) split) (endsLine_cons.mpr lineStart') (Nat.succ_lt_succ shorter)
      rw [List.cons_append] at here ⊢
      rw [findAtLineStart, here]
      simp only [later, Option.map_some, List.cons_append]

theorem exists_isFirst {before : List Char} (found : findAtLineStart at? fresh cs = some (before, rest)) :
    ∃ pre b, before = pre ++ b ∧ IsFirst at? fresh cs pre b rest := by
  induction cs generalizing fresh before with
  | nil => cases found
  | cons c cs ih =>
      rw [findAtLineStart] at found
      cases here : if fresh then at? (c :: cs) else none with
      | some p =>
          rw [here] at found
          obtain rfl := Option.some.inj found
          cases fresh with
          | false => cases here
          | true => exact ⟨[], before, rfl, rfl, ⟨c :: cs, rfl, here⟩, fun _ _ _ _ => (absurd · (Nat.not_lt_zero _))⟩
      | none =>
          rw [here] at found
          obtain ⟨⟨before, rest⟩, later, same⟩ := Option.map_eq_some_iff.mp found
          obtain ⟨rfl, rfl⟩ := Prod.mk.inj same
          obtain ⟨pre, b, rfl, lineStart, ⟨s, rfl, found'⟩, earlier⟩ := ih later
          refine ⟨c :: pre, b, rfl, endsLine_cons.mpr lineStart, ⟨s, rfl, found'⟩, ?_⟩
          intro pre' s' split lineStart' shorter
          cases pre' with
          | nil =>
              rw [show fresh = true from lineStart'] at here
              exact (show c :: (pre ++ s) = s' from split) ▸ here
          | cons d pre' =>
              obtain ⟨rfl, tails⟩ := List.cons.inj split
              exact earlier pre' s' tails (endsLine_cons.mp lineStart') (Nat.lt_of_succ_lt_succ shorter)

end Search

variable {cs before behind rest pre b front line value : List Char}

/-! ### Keys -/

/-- The key of a speed with white space before it. -/
def IsKey (b : List Char) : Prop := ∃ blanks, blanks ≠ [] ∧ (∀ c ∈ blanks, isBlank c = true) ∧ b = blanks ++ key

theorem keyAt?_eq_some_iff : keyAt? cs = some (b, rest) ↔ IsKey b ∧ cs = b ++ rest := by
  constructor
  · intro found
    refine ⟨?_, (splits_keyAt? cs _ found).symm⟩
    unfold keyAt? at found
    split at found
    · cases found
    · rename_i blanks some
      obtain ⟨r, -, same⟩ := Option.map_eq_some_iff.mp found
      obtain ⟨rfl, -⟩ := Prod.mk.inj same
      exact ⟨_, some, List.all_eq_true.mp List.all_takeWhile, rfl⟩
  · rintro ⟨⟨blanks, some, blank, rfl⟩, rfl⟩
    have stops : (key ++ rest).takeWhile isBlank = [] ∧ (key ++ rest).dropWhile isBlank = key ++ rest := ⟨rfl, rfl⟩
    rw [List.append_assoc, keyAt?_blanks _ blank some, stops.1, stops.2, dropMark?_eq_some_iff.mpr rfl]
    rfl

theorem findAtLineStart_keyAt?_eq_none_iff : findAtLineStart keyAt? true cs = none ↔
    ∀ pre b, EndsLine true pre → IsKey b → ¬pre ++ b <+: cs := by
  rw [findAtLineStart_eq_none_iff rfl]
  constructor
  · rintro none pre b lineStart isKey ⟨rest, rfl⟩
    have found := none pre (b ++ rest) (List.append_assoc _ _ _) lineStart
    rw [keyAt?_eq_some_iff.mpr ⟨isKey, rfl⟩] at found
    cases found
  · rintro none pre s rfl lineStart
    cases found : keyAt? s with
    | none => rfl
    | some p =>
        obtain ⟨isKey, split⟩ := keyAt?_eq_some_iff.mp found
        exact absurd ⟨p.2, by rw [split, List.append_assoc]⟩ (none pre p.1 lineStart isKey)

/-- The only colon of a key ends it. -/
theorem IsKey.exists_stem (isKey : IsKey b) : ∃ stem, b = stem ++ [':'] ∧ ':' ∉ stem := by
  obtain ⟨blanks, -, blank, rfl⟩ := isKey
  refine ⟨blanks ++ speedName, by rw [key_eq, List.append_assoc], fun mem => ?_⟩
  obtain mem | mem := List.mem_append.mp mem
  · cases blank ':' mem
  · exact absurd mem (by decide)

theorem prefix_append_cases {text part : List Char} (within : part <+: text ++ rest) :
    part <+: text ∨ ∃ more, part = text ++ more ∧ more <+: rest := by
  obtain inside | ⟨more, rfl⟩ := List.prefix_or_prefix_of_prefix within (List.prefix_append text rest)
  · exact .inl inside
  · exact .inr ⟨more, rfl, (List.prefix_append_right_inj text).mp within⟩

/-- A key that starts before the end of a text that ends with a colon is a part of that text, whatever follows. -/
theorem IsKey.prefix_of_colon (isKey : IsKey b) (colon : front.getLast? = some ':') (starts : pre.length < front.length)
    (within : pre ++ b <+: front ++ rest) : pre ++ b <+: front := by
  obtain ⟨stem, rfl, noColon⟩ := isKey.exists_stem
  obtain ⟨text, rfl⟩ := List.getLast?_eq_some_iff.mp colon
  obtain inside | ⟨more, outside, -⟩ := prefix_append_cases within
  · exact inside
  -- the colon that ends the text would be another colon of the key, so nothing of the key is behind it
  obtain rfl | ⟨more, last, rfl⟩ := List.eq_nil_or_concat more
  · exact ⟨[], by rw [List.append_nil, outside, List.append_nil]⟩
  · rw [List.concat_eq_append, ← List.append_assoc, ← List.append_assoc] at outside
    have stems := List.append_inj_left' outside rfl
    have inside : text <+: pre ++ stem := ⟨':' :: more, by rw [stems, List.append_assoc, List.singleton_append]⟩
    have short : pre <+: text := by
      refine List.prefix_of_prefix_length_le (List.prefix_append pre stem) inside ?_
      rw [List.length_append, List.length_singleton] at starts
      omega
    obtain ⟨gap, rfl⟩ := short
    rw [List.append_assoc, List.append_assoc, List.append_cancel_left_eq] at stems
    exact absurd (stems ▸ by simp) noColon

/-- A text ends with a key, and has no other one that starts before it. -/
def IsFirstKey (before : List Char) : Prop :=
  ∃ pre b, before = pre ++ b ∧ EndsLine true pre ∧ IsKey b ∧
    ∀ pre' b', EndsLine true pre' → IsKey b' → pre' ++ b' <+: before → pre.length ≤ pre'.length

/-- **The key that is found is the first one, whatever follows it.** -/
theorem findAtLineStart_keyAt?_iff : findAtLineStart keyAt? true cs = some (before, rest) ↔
    cs = before ++ rest ∧ IsFirstKey before := by
  constructor
  · intro found
    obtain ⟨pre, b, rfl, lineStart, ⟨s, rfl, here⟩, earlier⟩ := exists_isFirst found
    obtain ⟨isKey, rfl⟩ := keyAt?_eq_some_iff.mp here
    refine ⟨(List.append_assoc _ _ _).symm, pre, b, rfl, lineStart, isKey, ?_⟩
    rintro pre' b' lineStart' isKey' ⟨more, split⟩
    refine Nat.le_of_not_lt fun shorter => ?_
    have none := earlier pre' (b' ++ (more ++ rest)) (by rw [← List.append_assoc, ← split]; simp) lineStart' shorter
    rw [keyAt?_eq_some_iff.mpr ⟨isKey', rfl⟩] at none
    cases none
  · rintro ⟨rfl, pre, b, rfl, lineStart, isKey, least⟩
    refine findAtLineStart_of_isFirst ⟨lineStart, ⟨b ++ rest, List.append_assoc _ _ _, ?_⟩, ?_⟩ rfl
    · exact keyAt?_eq_some_iff.mpr ⟨isKey, rfl⟩
    · intro pre' s split lineStart' shorter
      cases found : keyAt? s with
      | none => rfl
      | some p =>
          obtain ⟨isKey', rfl⟩ := keyAt?_eq_some_iff.mp found
          obtain ⟨stem, rfl, -⟩ := isKey.exists_stem
          have inside : pre' ++ p.1 <+: pre ++ (stem ++ [':']) := by
            have within : pre' ++ p.1 <+: pre ++ (stem ++ [':']) ++ rest := ⟨p.2, by rw [split, List.append_assoc]⟩
            refine isKey'.prefix_of_colon ?_ ?_ within
            · rw [← List.append_assoc, List.getLast?_concat]
            · rw [List.length_append]
              omega
          exact absurd (least pre' p.1 lineStart' isKey' inside) (Nat.not_le_of_lt shorter)

/-- A key on a line of its own is the first one if there is none up to a colon on the line before it. -/
theorem isFirstKey_added (colon : front.getLast? = some ':')
    (none : ∀ pre b, EndsLine true pre → IsKey b → ¬pre ++ b <+: front) (oneLine : '\n' ∉ line) (isKey : IsKey b) :
    IsFirstKey (front ++ (line ++ ['\n']) ++ b) := by
  refine ⟨front ++ (line ++ ['\n']), b, rfl, by simp [EndsLine, List.getLast?_append], isKey, ?_⟩
  intro pre' b' lineStart isKey' inside
  refine Nat.le_of_not_lt fun shorter => ?_
  rw [List.length_append, List.length_append, List.length_singleton] at shorter
  by_cases starts : pre'.length < front.length
  · rw [List.append_assoc] at inside
    exact none pre' b' lineStart isKey' (isKey'.prefix_of_colon colon starts inside)
  · -- no line starts between the colon and the end of its line
    have whole : pre' <+: front ++ (line ++ '\n' :: b) := by
      simpa using (List.prefix_append pre' b').trans inside
    obtain ⟨part, rfl⟩ := List.prefix_of_prefix_length_le (List.prefix_append _ _) whole (Nat.le_of_not_lt starts)
    rw [List.length_append] at shorter
    have part' : part <+: line := by
      refine List.prefix_of_prefix_length_le ((List.prefix_append_right_inj front).mp whole) (List.prefix_append _ _) ?_
      omega
    rw [EndsLine, List.getLast?_append, colon] at lineStart
    cases last : part.getLast? with
    | none => rw [last] at lineStart; cases lineStart
    | some c =>
        rw [last] at lineStart
        exact oneLine (part'.subset (beq_iff_eq.mp lineStart ▸ List.mem_of_getLast? last))

/-! ### Places for a value -/

/-- A value that is one word. -/
def IsSolid (value : List Char) : Prop := value ≠ [] ∧ ∀ c ∈ value, isBlank c = false

/-- A place for a value: the first key of a text is before it, and no more of a word behind it. -/
structure IsSlot (before behind : List Char) : Prop where
  first : IsFirstKey before
  stops : behind.dropWhile (fun c => !isBlank c) = behind

theorem dropWhile_dropWhile (p : Char → Bool) (cs : List Char) : (cs.dropWhile p).dropWhile p = cs.dropWhile p := by
  induction cs with
  | nil => rfl
  | cons c cs ih =>
      cases here : p c with
      | true => rw [List.dropWhile_cons_of_pos here, ih]
      | false => rw [List.dropWhile_cons_of_neg (by simp [here]), List.dropWhile_cons_of_neg (by simp [here])]

/-- A value in its place is replaced by another one. -/
theorem IsSlot.replaceValue (slot : IsSlot before behind) (solid : IsSolid value) (value' : List Char) :
    replaceValue value' (before ++ (' ' :: value ++ behind)) = before ++ (' ' :: value' ++ behind) := by
  have found : findAtLineStart keyAt? true (before ++ (' ' :: value ++ behind)) =
      some (before, ' ' :: value ++ behind) := findAtLineStart_keyAt?_iff.mpr ⟨rfl, slot.first⟩
  obtain ⟨c, value, rfl⟩ := List.exists_cons_of_ne_nil solid.1
  have word : (' ' :: (c :: value) ++ behind).dropWhile isBlank = (c :: value) ++ behind := by
    rw [List.cons_append, List.dropWhile_cons_of_pos rfl, List.cons_append,
      List.dropWhile_cons_of_neg (by simp [solid.2 c List.mem_cons_self])]
  rw [SpeedLine.replaceValue, found]
  simp only [replaceWord_of_word value' word (List.cons_ne_nil _ _) solid.2 slot.stops]

/-- Where a key is found, the value is the first word behind it. -/
theorem exists_slot_of_key (found : findAtLineStart keyAt? true cs = some (before, rest)) :
    (∀ value, replaceValue value cs = cs) ∨
      ∃ behind, IsSlot before behind ∧ ∀ value, replaceValue value cs = before ++ (' ' :: value ++ behind) := by
  obtain ⟨rfl, first⟩ := findAtLineStart_keyAt?_iff.mp found
  cases word : rest.dropWhile isBlank with
  | nil =>
      refine .inl fun value => ?_
      rw [SpeedLine.replaceValue, found]
      simp only [replaceWord, word]
  | cons c word' =>
      refine .inr ⟨(c :: word').dropWhile fun c => !isBlank c, ⟨first, dropWhile_dropWhile _ _⟩, fun value => ?_⟩
      rw [SpeedLine.replaceValue, found]
      simp only [replaceWord, word]

/-- The key of a speed as it is added. -/
def addedKey : List Char := ' ' :: ' ' :: key

theorem isKey_addedKey : IsKey addedKey :=
  ⟨[' ', ' '], List.cons_ne_nil _ _, List.all_eq_true.mp (by decide), rfl⟩

theorem exists_of_sectionAt? {s : List Char} (found : sectionAt? s = some (b, rest)) :
    ∃ line, b = sectionKey ++ line ∧ '\n' ∉ line ∧ s = b ++ rest ∧ rest.dropWhile (fun c => !isBlank c) = rest := by
  have whole := splits_sectionAt? s _ found
  obtain ⟨tail, dropped, same⟩ := Option.map_eq_some_iff.mp found
  obtain ⟨rfl, rfl⟩ := Prod.mk.inj same
  obtain rfl := dropMark?_eq_some_iff.mp dropped
  have onLine : ∀ c ∈ sectionKey, (c != '\n') = true := List.all_eq_true.mp (by decide)
  refine ⟨tail.takeWhile (· != '\n'), List.takeWhile_append_of_pos onLine, fun mem => ?_, whole.symm, ?_⟩
  · simpa using List.all_eq_true.mp List.all_takeWhile _ mem
  · cases more : (sectionKey ++ tail).dropWhile (· != '\n') with
    | nil => rfl
    | cons c more' =>
        have stops := List.head?_dropWhile_not (· != '\n') (sectionKey ++ tail)
        rw [more] at stops
        obtain rfl : c = '\n' := by simpa using stops
        rfl

/-- Without a key the value goes below the line that opens the section of playback. -/
theorem exists_slot_of_section (none : findAtLineStart keyAt? true cs = none)
    (found : findAtLineStart sectionAt? true cs = some (before, rest)) :
    ∃ before behind, IsSlot before behind ∧ ∀ value, replaceValue value cs = before ++ (' ' :: value ++ behind) := by
  have none' := findAtLineStart_keyAt?_eq_none_iff.mp none
  obtain ⟨pre, b, rfl, lineStart, ⟨s, rfl, here⟩, -⟩ := exists_isFirst found
  obtain ⟨line, rfl, oneLine, rfl, stops⟩ := exists_of_sectionAt? here
  have first : IsFirstKey (pre ++ sectionKey ++ (line ++ ['\n']) ++ addedKey) := by
    refine isFirstKey_added ?_ (fun pre' b' lineStart' isKey inside => ?_) oneLine isKey_addedKey
    · rw [List.getLast?_append]
      rfl
    · exact none' pre' b' lineStart' isKey (inside.trans ⟨line ++ rest, by simp⟩)
  refine ⟨_, rest, ⟨first, stops⟩, fun value => ?_⟩
  rw [SpeedLine.replaceValue, none, found]
  simp [addedKey, key]

/-- A key in a text with the opening of a section added is in the text. -/
theorem IsKey.prefix_of_opening {text : List Char} (isKey : IsKey b)
    (within : pre ++ b <+: text ++ "\n\nplayback:".toList) : pre ++ b <+: text := by
  obtain inside | ⟨part, split, within'⟩ := prefix_append_cases within
  · exact inside
  obtain ⟨blanks, -, -, rfl⟩ := isKey
  -- the key ends with a colon, so it ends with the text or with all that is added, which does not end with it
  have ends : ∀ n ≤ 11, "\n\nplayback:".toList.take n = [] ∨ ("\n\nplayback:".toList.take n).getLast?.any (· != ':') ∨
      "\n\nplayback:".toList.take n = "\n\npla".toList ++ "yback:".toList := by decide
  have ends' := ends part.length within'.length_le
  rw [← List.prefix_iff_eq_take.mp within'] at ends'
  obtain rfl | other | rfl := ends'
  · exact ⟨[], by rw [List.append_nil, split, List.append_nil]⟩
  · obtain ⟨c, last, other⟩ := (Option.any_eq_true _ _).mp other
    have last' := congrArg List.getLast? split
    rw [key_eq, ← List.append_assoc, ← List.append_assoc, List.getLast?_concat, List.getLast?_append, last,
      Option.some_or] at last'
    rw [← Option.some.inj last'] at other
    cases other
  · rw [← List.append_assoc, ← List.append_assoc] at split
    exact absurd (List.append_inj_right' split rfl) (by decide)

/-- Without a section of playback the value goes to a section that is added at the end. -/
theorem exists_slot_of_neither (none : findAtLineStart keyAt? true cs = none)
    (none' : findAtLineStart sectionAt? true cs = Option.none) :
    ∃ before behind, IsSlot before behind ∧ ∀ value, replaceValue value cs = before ++ (' ' :: value ++ behind) := by
  have noKey := findAtLineStart_keyAt?_eq_none_iff.mp none
  obtain ⟨blanks, split, -⟩ := exists_trimEnd cs
  have first : IsFirstKey (trimEnd cs ++ "\n\nplayback:".toList ++ ([] ++ ['\n']) ++ addedKey) := by
    refine isFirstKey_added ?_ (fun pre b lineStart isKey inside => ?_) List.not_mem_nil isKey_addedKey
    · rw [List.getLast?_append]
      rfl
    · exact noKey pre b lineStart isKey (isKey.prefix_of_opening inside |>.trans ⟨blanks, split.symm⟩)
  refine ⟨_, ['\n'], ⟨first, rfl⟩, fun value => ?_⟩
  rw [SpeedLine.replaceValue, none, none']
  simp [addedKey, key]

/-- **Storing a value puts it into a place of the text, or changes nothing whatever the value is.** -/
theorem exists_slot (cs : List Char) : (∀ value, replaceValue value cs = cs) ∨
    ∃ before behind, IsSlot before behind ∧ ∀ value, replaceValue value cs = before ++ (' ' :: value ++ behind) := by
  cases found : findAtLineStart keyAt? true cs with
  | some p =>
      obtain same | ⟨behind, slot, stored⟩ := exists_slot_of_key found
      · exact .inl same
      · exact .inr ⟨p.1, behind, slot, stored⟩
  | none =>
      cases found' : findAtLineStart sectionAt? true cs with
      | some p => exact .inr (exists_slot_of_section found found')
      | none => exact .inr (exists_slot_of_neither found found')

/-- **A value that is stored after another one takes its place**: the text is as if the other one had never been
stored. -/
theorem replaceValue_replaceValue (solid : IsSolid value) (value' cs : List Char) :
    replaceValue value' (replaceValue value cs) = replaceValue value' cs := by
  obtain same | ⟨before, behind, slot, stored⟩ := exists_slot cs
  · rw [same value]
  · rw [stored value, slot.replaceValue solid, stored value']

/-- Once a value has been stored, storing another one adds no line and takes none away. -/
theorem count_replaceValue (solid : IsSolid value) {value' : List Char} (solid' : IsSolid value') (cs : List Char) :
    (replaceValue value' (replaceValue value cs)).count '\n' = (replaceValue value cs).count '\n' := by
  have oneLine {value : List Char} (solid : IsSolid value) : value.count '\n' = 0 := by
    refine List.count_eq_zero.mpr fun mem => ?_
    cases solid.2 _ mem
  rw [replaceValue_replaceValue solid]
  obtain same | ⟨before, behind, -, stored⟩ := exists_slot cs
  · rw [same, same]
  · simp [stored, oneLine solid, oneLine solid']

end EditHistory.Preferences.SpeedLine
