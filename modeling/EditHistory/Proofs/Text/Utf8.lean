import EditHistory.Text.Utf8

/-!
# Text as bytes and back

Decoding undoes encoding, and whatever is decoded is the text of the bytes, so that exactly the bytes of texts can be
decoded.

## Main statements

* `decodeStep_utf8Char` — one character
* `decodeUtf8?_utf8`, `decodeUtf8Lossy_utf8` — a text
* `decodeUtf8?_eq_some_iff` — which bytes can be decoded
-/

namespace EditHistory.Text

/-! ### Bytes -/

theorem toNat_byte {n : Nat} (small : n < 0x100) : n.toUInt8.toNat = n := by
  rw [show n.toUInt8 = UInt8.ofNat n from rfl, UInt8.toNat_ofNat']
  exact Nat.mod_eq_of_lt small

/-- The byte that carries six bits of a character. -/
theorem toNat_tail (n : Nat) : (0x80 + n % 0x40).toUInt8.toNat = 0x80 + n % 0x40 := toNat_byte (by omega)

theorem isContinuation_tail (n : Nat) : isContinuation (0x80 + n % 0x40).toUInt8 = true := by
  simp only [isContinuation, UInt8.le_iff_toNat_le, toNat_tail, UInt8.reduceToNat, Bool.and_eq_true,
    decide_eq_true_eq]
  omega

theorem isSecond_tail {lead n : Nat} (isByte : lead < 0x100) (e0 : lead = 0xe0 → 0x20 ≤ n % 0x40)
    (ed : lead = 0xed → n % 0x40 < 0x20) (f0 : lead = 0xf0 → 0x10 ≤ n % 0x40) (f4 : lead = 0xf4 → n % 0x40 < 0x10) :
    isSecond lead.toUInt8 (0x80 + n % 0x40).toUInt8 = true := by
  simp only [isSecond, isContinuation, ← UInt8.toNat_inj, UInt8.le_iff_toNat_le, toNat_tail, toNat_byte isByte,
    UInt8.reduceToNat]
  repeat' split
  all_goals
    simp only [Bool.and_eq_true, decide_eq_true_eq]
    omega

/-! ### One character -/

theorem decodeStep_one {n : Nat} (high : n < 0x80) (rest : List UInt8) :
    decodeStep n.toUInt8 rest = .char (Char.ofNat n) rest := by
  have lead : n.toUInt8.toNat = n := toNat_byte (by omega)
  have ascii : n.toUInt8 < 0x80 := by
    rw [UInt8.lt_iff_toNat_lt, lead]
    exact high
  rw [decodeStep.eq_def, if_pos ascii, lead]

theorem decodeStep_two {n : Nat} (low : 0x80 ≤ n) (high : n < 0x800) (rest : List UInt8) :
    decodeStep (0xc0 + n / 0x40).toUInt8 ((0x80 + n % 0x40).toUInt8 :: rest) = .char (Char.ofNat n) rest := by
  have lead : (0xc0 + n / 0x40).toUInt8.toNat = 0xc0 + n / 0x40 := toNat_byte (by omega)
  have value : assemble (0xc0 + n / 0x40 - 0xc0) [(0x80 + n % 0x40).toUInt8] = Char.ofNat n := by
    rw [assemble]
    simp only [List.foldl_cons, List.foldl_nil, toNat_tail]
    exact congrArg Char.ofNat (by omega)
  rw [decodeStep.eq_def, if_neg, if_pos]
  · simp only [isContinuation_tail, if_true, lead, value]
  · simp only [UInt8.le_iff_toNat_le, lead, UInt8.reduceToNat, Bool.and_eq_true, decide_eq_true_eq]
    omega
  · simp only [UInt8.lt_iff_toNat_lt, lead, UInt8.reduceToNat]
    omega

theorem decodeStep_three {n : Nat} (low : 0x800 ≤ n) (high : n < 0x10000) (scalar : n < 0xd800 ∨ 0xdfff < n)
    (rest : List UInt8) :
    decodeStep (0xe0 + n / 0x1000).toUInt8
      ((0x80 + n / 0x40 % 0x40).toUInt8 :: (0x80 + n % 0x40).toUInt8 :: rest) = .char (Char.ofNat n) rest := by
  have lead : (0xe0 + n / 0x1000).toUInt8.toNat = 0xe0 + n / 0x1000 := toNat_byte (by omega)
  have value : assemble (0xe0 + n / 0x1000 - 0xe0) [(0x80 + n / 0x40 % 0x40).toUInt8, (0x80 + n % 0x40).toUInt8] =
      Char.ofNat n := by
    rw [assemble]
    simp only [List.foldl_cons, List.foldl_nil, toNat_tail]
    exact congrArg Char.ofNat (by omega)
  have second : isSecond (0xe0 + n / 0x1000).toUInt8 (0x80 + n / 0x40 % 0x40).toUInt8 = true :=
    isSecond_tail (by omega) (by omega) (by omega) (by omega) (by omega)
  rw [decodeStep.eq_def, if_neg, if_neg, if_pos]
  · simp only [second, isContinuation_tail, if_true, lead, value]
  · simp only [UInt8.le_iff_toNat_le, lead, UInt8.reduceToNat, Bool.and_eq_true, decide_eq_true_eq]
    omega
  · simp only [UInt8.le_iff_toNat_le, lead, UInt8.reduceToNat, Bool.and_eq_true, decide_eq_true_eq]
    omega
  · simp only [UInt8.lt_iff_toNat_lt, lead, UInt8.reduceToNat]
    omega

theorem decodeStep_four {n : Nat} (low : 0x10000 ≤ n) (high : n < 0x110000) (rest : List UInt8) :
    decodeStep (0xf0 + n / 0x40000).toUInt8
      ((0x80 + n / 0x1000 % 0x40).toUInt8 :: (0x80 + n / 0x40 % 0x40).toUInt8 :: (0x80 + n % 0x40).toUInt8 :: rest) =
        .char (Char.ofNat n) rest := by
  have lead : (0xf0 + n / 0x40000).toUInt8.toNat = 0xf0 + n / 0x40000 := toNat_byte (by omega)
  have value : assemble (0xf0 + n / 0x40000 - 0xf0)
      [(0x80 + n / 0x1000 % 0x40).toUInt8, (0x80 + n / 0x40 % 0x40).toUInt8, (0x80 + n % 0x40).toUInt8] =
        Char.ofNat n := by
    rw [assemble]
    simp only [List.foldl_cons, List.foldl_nil, toNat_tail]
    exact congrArg Char.ofNat (by omega)
  have second : isSecond (0xf0 + n / 0x40000).toUInt8 (0x80 + n / 0x1000 % 0x40).toUInt8 = true :=
    isSecond_tail (by omega) (by omega) (by omega) (by omega) (by omega)
  rw [decodeStep.eq_def, if_neg, if_neg, if_neg, if_pos]
  · simp only [second, isContinuation_tail, if_true, lead, value]
  · simp only [UInt8.le_iff_toNat_le, lead, UInt8.reduceToNat, Bool.and_eq_true, decide_eq_true_eq]
    omega
  · simp only [UInt8.le_iff_toNat_le, lead, UInt8.reduceToNat, Bool.and_eq_true, decide_eq_true_eq]
    omega
  · simp only [UInt8.le_iff_toNat_le, lead, UInt8.reduceToNat, Bool.and_eq_true, decide_eq_true_eq]
    omega
  · simp only [UInt8.lt_iff_toNat_lt, lead, UInt8.reduceToNat]
    omega

/-- The bytes of a character are read as that character, whatever follows. -/
theorem decodeStep_utf8Char (c : Char) :
    ∃ b bs, utf8Char c = b :: bs ∧ ∀ rest, decodeStep b (bs ++ rest) = .char c rest := by
  have scalar : c.toNat < 0xd800 ∨ 0xdfff < c.toNat ∧ c.toNat < 0x110000 := c.valid
  have same : Char.ofNat c.toNat = c := Char.ofNat_toNat c
  generalize number : c.toNat = n at scalar same
  subst same
  unfold utf8Char
  rw [number]
  by_cases one : n < 0x80
  · exact ⟨_, _, if_pos one, decodeStep_one one⟩
  · rw [if_neg one]
    by_cases two : n < 0x800
    · exact ⟨_, _, if_pos two, decodeStep_two (by omega) two⟩
    · rw [if_neg two]
      by_cases three : n < 0x10000
      · exact ⟨_, _, if_pos three, decodeStep_three (by omega) three (by omega)⟩
      · exact ⟨_, _, if_neg three, decodeStep_four (by omega) (by omega)⟩

/-! ### A text -/

theorem utf8_cons (c : Char) (cs : List Char) : utf8 (c :: cs) = utf8Char c ++ utf8 cs :=
  List.flatMap_cons

theorem decodeUtf8Within_utf8 {fuel : Nat} {cs : List Char} (enough : (utf8 cs).length ≤ fuel) :
    decodeUtf8Within fuel (utf8 cs) = some cs := by
  induction cs generalizing fuel with
  | nil => cases fuel <;> rfl
  | cons c cs ih =>
      obtain ⟨b, bs, bytes, read⟩ := decodeStep_utf8Char c
      have whole : utf8 (c :: cs) = b :: (bs ++ utf8 cs) := by rw [utf8_cons, bytes, List.cons_append]
      rw [whole, List.length_cons, List.length_append] at enough
      obtain ⟨fuel, rfl⟩ : ∃ n, fuel = n + 1 := ⟨fuel - 1, by omega⟩
      rw [whole, decodeUtf8Within, read]
      simp only [ih (by omega : (utf8 cs).length ≤ fuel), Option.map_some]

/-- **Decoding the bytes of a text gives the text.** -/
theorem decodeUtf8?_utf8 (cs : List Char) : decodeUtf8? (utf8 cs) = some cs :=
  decodeUtf8Within_utf8 (Nat.le_refl _)

theorem decodeUtf8LossyWithin_utf8 {fuel : Nat} {cs : List Char} (enough : (utf8 cs).length ≤ fuel) :
    decodeUtf8LossyWithin fuel (utf8 cs) = cs := by
  induction cs generalizing fuel with
  | nil => cases fuel <;> rfl
  | cons c cs ih =>
      obtain ⟨b, bs, bytes, read⟩ := decodeStep_utf8Char c
      have whole : utf8 (c :: cs) = b :: (bs ++ utf8 cs) := by rw [utf8_cons, bytes, List.cons_append]
      rw [whole, List.length_cons, List.length_append] at enough
      obtain ⟨fuel, rfl⟩ : ∃ n, fuel = n + 1 := ⟨fuel - 1, by omega⟩
      rw [whole, decodeUtf8LossyWithin, read]
      simp only [ih (by omega : (utf8 cs).length ≤ fuel)]

/-- Nothing is replaced in the bytes of a text. -/
theorem decodeUtf8Lossy_utf8 (cs : List Char) : decodeUtf8Lossy (utf8 cs) = cs :=
  decodeUtf8LossyWithin_utf8 (Nat.le_refl _)

/-! ### Bytes that are a text -/

theorem toNat_ofNat {n : Nat} (scalar : n.isValidChar) : (Char.ofNat n).toNat = n := by
  rw [Char.ofNat, dif_pos scalar]
  rfl

/-- A byte is the one of its number. -/
theorem byte_eq {n : Nat} {b : UInt8} (same : n = b.toNat) : n.toUInt8 = b := by
  rw [same]
  exact UInt8.ofNat_toNat

theorem utf8Char_one {b : UInt8} (ascii : b < 0x80) : utf8Char (Char.ofNat b.toNat) = [b] := by
  simp only [UInt8.lt_iff_toNat_lt, UInt8.reduceToNat] at ascii
  have number : (Char.ofNat b.toNat).toNat = b.toNat := toNat_ofNat (Or.inl (by omega))
  rw [utf8Char, number, if_pos ascii, byte_eq rfl]

theorem utf8Char_two {b b₁ : UInt8} (lead : (0xc2 ≤ b && b ≤ 0xdf) = true) (tail : isContinuation b₁ = true) :
    utf8Char (assemble (b.toNat - 0xc0) [b₁]) = [b, b₁] := by
  simp only [isContinuation, Bool.and_eq_true, decide_eq_true_eq, UInt8.le_iff_toNat_le, UInt8.reduceToNat]
    at lead tail
  have number : (assemble (b.toNat - 0xc0) [b₁]).toNat = (b.toNat - 0xc0) * 0x40 + (b₁.toNat - 0x80) :=
    toNat_ofNat (Or.inl (by simp only [List.foldl_cons, List.foldl_nil]; omega))
  rw [utf8Char, number, if_neg (by omega), if_pos (by omega)]
  simp only [List.cons.injEq, and_true]
  refine ⟨byte_eq ?_, byte_eq ?_⟩ <;> omega

theorem isSecond_iff {b b₁ : UInt8} : isSecond b b₁ = true ↔
    0x80 ≤ b₁.toNat ∧ b₁.toNat ≤ 0xbf ∧ (b.toNat = 0xe0 → 0xa0 ≤ b₁.toNat) ∧ (b.toNat = 0xed → b₁.toNat ≤ 0x9f) ∧
      (b.toNat = 0xf0 → 0x90 ≤ b₁.toNat) ∧ (b.toNat = 0xf4 → b₁.toNat ≤ 0x8f) := by
  simp only [isSecond, isContinuation, ← UInt8.toNat_inj, UInt8.le_iff_toNat_le, UInt8.reduceToNat]
  repeat' split
  all_goals
    simp only [Bool.and_eq_true, decide_eq_true_eq]
    omega

theorem utf8Char_three {b b₁ b₂ : UInt8} (lead : (0xe0 ≤ b && b ≤ 0xef) = true) (second : isSecond b b₁ = true)
    (tail : isContinuation b₂ = true) : utf8Char (assemble (b.toNat - 0xe0) [b₁, b₂]) = [b, b₁, b₂] := by
  rw [isSecond_iff] at second
  simp only [isContinuation, Bool.and_eq_true, decide_eq_true_eq, UInt8.le_iff_toNat_le, UInt8.reduceToNat]
    at lead tail
  have number : (assemble (b.toNat - 0xe0) [b₁, b₂]).toNat =
      ((b.toNat - 0xe0) * 0x40 + (b₁.toNat - 0x80)) * 0x40 + (b₂.toNat - 0x80) :=
    toNat_ofNat (by simp only [Nat.isValidChar, List.foldl_cons, List.foldl_nil]; omega)
  rw [utf8Char, number, if_neg (by omega), if_neg (by omega), if_pos (by omega)]
  simp only [List.cons.injEq, and_true]
  refine ⟨byte_eq ?_, byte_eq ?_, byte_eq ?_⟩ <;> omega

theorem utf8Char_four {b b₁ b₂ b₃ : UInt8} (lead : (0xf0 ≤ b && b ≤ 0xf4) = true) (second : isSecond b b₁ = true)
    (third : isContinuation b₂ = true) (tail : isContinuation b₃ = true) :
    utf8Char (assemble (b.toNat - 0xf0) [b₁, b₂, b₃]) = [b, b₁, b₂, b₃] := by
  rw [isSecond_iff] at second
  simp only [isContinuation, Bool.and_eq_true, decide_eq_true_eq, UInt8.le_iff_toNat_le, UInt8.reduceToNat]
    at lead third tail
  have number : (assemble (b.toNat - 0xf0) [b₁, b₂, b₃]).toNat =
      (((b.toNat - 0xf0) * 0x40 + (b₁.toNat - 0x80)) * 0x40 + (b₂.toNat - 0x80)) * 0x40 + (b₃.toNat - 0x80) :=
    toNat_ofNat (by simp only [Nat.isValidChar, List.foldl_cons, List.foldl_nil]; omega)
  rw [utf8Char, number, if_neg (by omega), if_neg (by omega), if_neg (by omega)]
  simp only [List.cons.injEq, and_true]
  refine ⟨byte_eq ?_, byte_eq ?_, byte_eq ?_, byte_eq ?_⟩ <;> omega

/-- The character that is read at the front of bytes is the one whose bytes stand there. -/
theorem utf8Char_of_decodeStep {b : UInt8} {bs rest : List UInt8} {c : Char}
    (read : decodeStep b bs = .char c rest) : b :: bs = utf8Char c ++ rest := by
  revert read
  fun_cases decodeStep b bs
  case case1 ascii =>
    intro read
    obtain ⟨rfl, rfl⟩ := Utf8Step.char.inj read
    rw [utf8Char_one ascii]
    rfl
  case case2 lead b₁ r₁ tail =>
    intro read
    obtain ⟨rfl, rfl⟩ := Utf8Step.char.inj read
    rw [utf8Char_two lead tail]
    rfl
  case case5 lead b₁ second b₂ r₂ tail =>
    intro read
    obtain ⟨rfl, rfl⟩ := Utf8Step.char.inj read
    rw [utf8Char_three lead second tail]
    rfl
  case case10 lead b₁ second b₂ third b₃ r₃ tail =>
    intro read
    obtain ⟨rfl, rfl⟩ := Utf8Step.char.inj read
    rw [utf8Char_four lead second third tail]
    rfl
  -- Otherwise there is an invalid part.
  all_goals nofun

theorem utf8_of_decodeUtf8Within {fuel : Nat} {bytes : List UInt8} {cs : List Char}
    (read : decodeUtf8Within fuel bytes = some cs) : bytes = utf8 cs := by
  induction fuel generalizing bytes cs with
  | zero =>
      cases bytes with
      | nil =>
          obtain rfl := Option.some.inj read
          rfl
      | cons b bs => cases read
  | succ fuel ih =>
      cases bytes with
      | nil =>
          obtain rfl := Option.some.inj read
          rfl
      | cons b bs =>
          rw [decodeUtf8Within] at read
          cases step : decodeStep b bs with
          | invalid rest =>
              rw [step] at read
              cases read
          | char c rest =>
              rw [step] at read
              obtain ⟨more, later, rfl⟩ := Option.map_eq_some_iff.mp read
              rw [utf8Char_of_decodeStep step, utf8_cons, ih later]

/-- **What is decoded is the text of the bytes.** -/
theorem decodeUtf8?_eq_some_iff {bytes : List UInt8} {cs : List Char} : decodeUtf8? bytes = some cs ↔ bytes = utf8 cs :=
  ⟨utf8_of_decodeUtf8Within, fun same => same ▸ decodeUtf8?_utf8 cs⟩

end EditHistory.Text
