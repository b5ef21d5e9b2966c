import EditHistory.Playback.Speeds
import EditHistory.Proofs.Number.Difference
import EditHistory.Proofs.Playback.Pace

/-!
# A step of speed

A step starts from the speed on the list that is nearest to the present one.  Distances are rounded, so they do not
always tell which of two speeds is nearer; but the speeds on the list are so far apart that no rounding makes one seem
nearest that is not next to the present one.  So a step up does not lead below the present speed, and a step down not
above it, as long as the present speed lies between the ends of the list.  Beyond them every step leads back.

## Main definitions

* `stepValue` — the speeds on the list as numbers

## Main statements

* `nearestIndex_le` — no distance on the list is less than that of the nearest speed
* `nearestIndex_between` — the nearest speed is next to the present one
* `stepSpeed_lt_iff`, `lt_stepSpeed_iff` — when a step up lowers the speed, and a step down raises it
-/

namespace EditHistory.Playback

open Number

/-! ### The speeds on the list -/

/-- The speeds on the list as numbers: the powers of two from a quarter to eight. -/
def stepValue (i : Nat) : ℚ := 2 ^ ((i : Int) - 2)

theorem stepValue_pos (i : Nat) : 0 < stepValue i := zpow_pos two_pos _

theorem stepValue_le_iff {i j : Nat} : stepValue i ≤ stepValue j ↔ i ≤ j := by
  unfold stepValue
  rw [zpow_le_zpow_iff_right₀ one_lt_two]
  omega

/-- The speed `d` places further on. -/
theorem stepValue_add (i d : Nat) : stepValue (i + d) = 2 ^ d * stepValue i := by
  unfold stepValue
  rw [← zpow_natCast, ← zpow_add₀ two_ne_zero]
  congr 1
  push_cast
  ring

theorem isMagnitude_step {i : Nat} (inside : i < speedSteps.length) : IsMagnitude speedSteps[i] (stepValue i) := by
  have known : (speedSteps.map parts)[i]? = some (.finite false (2 ^ 52) ((i : Int) - 54)) := by
    rw [parts_speedSteps]
    have small : i < 6 := inside
    interval_cases i <;> rfl
  rw [List.getElem?_map, List.getElem?_eq_getElem inside, Option.map_some, Option.some.injEq] at known
  refine ⟨2 ^ 52, _, known, ?_⟩
  rw [Nat.cast_pow, Nat.cast_ofNat, ← two_zpow_add, stepValue]
  congr 1
  push_cast
  ring

/-! ### The nearest speed -/

/-- Going through a list finds the least of the distances. -/
theorem nearestFrom_le {speed distance : Float} {best index : Nat} {steps : List Float} {f : Nat → ℚ}
    (measured : ∀ i step, steps[i]? = some step → IsMagnitude (speedDistance step speed) (f (index + i)))
    (here : IsMagnitude distance (f best)) (before : best < index) :
    let n := nearestFrom speed best distance index steps
    f n ≤ f best ∧ (∀ i < steps.length, f n ≤ f (index + i)) ∧ n < index + steps.length := by
  induction steps generalizing best distance index with
  | nil => exact ⟨le_rfl, nofun, before⟩
  | cons step steps ih =>
      have first : IsMagnitude (speedDistance step speed) (f index) := measured 0 step rfl
      have later (i : Nat) (w : Float) (there : steps[i]? = some w) :
          IsMagnitude (speedDistance w speed) (f (index + 1 + i)) := by
        rw [Nat.add_assoc, Nat.add_comm 1 i]
        exact measured (i + 1) w there
      have shift {n : Nat} (atFirst : f n ≤ f index) (rest : ∀ i < steps.length, f n ≤ f (index + 1 + i)) :
          ∀ i < (step :: steps).length, f n ≤ f (index + i) := by
        intro i inside
        cases i with
        | zero => exact atFirst
        | succ i =>
            have next := rest i (Nat.lt_of_succ_lt_succ inside)
            rwa [Nat.add_right_comm] at next
      unfold nearestFrom
      simp only
      split
      · rename_i nearer
        rw [first.lt_iff here] at nearer
        obtain ⟨least, rest, inside⟩ := ih later first (Nat.lt_succ_self index)
        exact ⟨least.trans nearer.le, shift least rest, by rw [List.length_cons]; omega⟩
      · rename_i farther
        rw [first.lt_iff here, not_lt] at farther
        obtain ⟨least, rest, inside⟩ := ih later here (Nat.lt_succ_of_lt before)
        exact ⟨least, shift (least.trans farther) rest, by rw [List.length_cons]; omega⟩

/-- **No distance on the list is less than that of the nearest speed.** -/
theorem nearestIndex_le {speed : Float} {steps : List Float} {f : Nat → ℚ} (nonempty : steps ≠ [])
    (measured : ∀ i step, steps[i]? = some step → IsMagnitude (speedDistance step speed) (f i)) :
    nearestIndex speed steps < steps.length ∧ ∀ i < steps.length, f (nearestIndex speed steps) ≤ f i := by
  cases steps with
  | nil => exact absurd rfl nonempty
  | cons step steps =>
      have later (i : Nat) (w : Float) (there : steps[i]? = some w) :
          IsMagnitude (speedDistance w speed) (f (1 + i)) := by
        rw [Nat.add_comm]
        exact measured (i + 1) w there
      obtain ⟨first, rest, inside⟩ := nearestFrom_le later (measured 0 step rfl) one_pos
      refine ⟨by rw [List.length_cons, Nat.add_comm]; exact inside, fun i within => ?_⟩
      cases i with
      | zero => exact first
      | succ i =>
          rw [Nat.add_comm]
          exact rest i (Nat.lt_of_succ_lt_succ within)

/-- The distances of the speeds on the list, as they are rounded. -/
theorem exists_distances {speed : Float} {x : ℚ} (magnitude : IsMagnitude speed x) (positive : 0 < x) :
    nearestIndex speed speedSteps < speedSteps.length ∧ ∃ f : Nat → ℚ, ∀ i < speedSteps.length,
      RoundsTo |stepValue i - x| (f i) ∧ f (nearestIndex speed speedSteps) ≤ f i := by
  have distance (i : Nat) : ∃ d, ∀ inside : i < speedSteps.length,
      IsMagnitude (speedDistance speedSteps[i] speed) d ∧ RoundsTo |stepValue i - x| d := by
    by_cases inside : i < speedSteps.length
    · obtain ⟨d, known⟩ := exists_distance (isMagnitude_step inside) magnitude (stepValue_pos i) positive
      exact ⟨d, fun _ => known⟩
    · exact ⟨0, fun within => absurd within inside⟩
  choose f known using distance
  have measured (i : Nat) (step : Float) (here : speedSteps[i]? = some step) :
      IsMagnitude (speedDistance step speed) (f i) := by
    obtain ⟨within, rfl⟩ := List.getElem?_eq_some_iff.mp here
    exact (known i within).1
  obtain ⟨inside, least⟩ := nearestIndex_le (List.cons_ne_nil _ _) measured
  exact ⟨inside, f, fun i within => ⟨(known i within).2, least i within⟩⟩

/-- **The nearest speed is next to the present one.** -/
theorem nearestIndex_between {speed : Float} {x : ℚ} {k : Nat} (magnitude : IsMagnitude speed x)
    (inside : k + 1 < speedSteps.length) (low : stepValue k ≤ x) (high : x ≤ stepValue (k + 1)) :
    nearestIndex speed speedSteps = k ∨ nearestIndex speed speedSteps = k + 1 := by
  obtain ⟨within, f, rounds⟩ := exists_distances magnitude (lt_of_lt_of_le (stepValue_pos k) low)
  generalize nearestIndex speed speedSteps = n at within rounds ⊢
  obtain ⟨near, -⟩ := rounds n within
  obtain ⟨nearLow, leastLow⟩ := rounds k (by omega)
  obtain ⟨nearHigh, leastHigh⟩ := rounds (k + 1) inside
  -- Everything is measured in fourths of the lower speed.
  obtain ⟨e, quarter⟩ : ∃ e, (k : Int) - 4 = e := ⟨_, rfl⟩
  have unit : (0 : ℚ) < 2 ^ e := zpow_pos two_pos e
  have least : -1074 ≤ e := by omega
  have four : stepValue k = 4 * 2 ^ e := by
    rw [stepValue, show (k : Int) - 2 = 2 + e by omega, zpow_add₀ two_ne_zero]
    norm_num
  have eight : stepValue (k + 1) = 8 * 2 ^ e := by
    rw [stepValue_add, four]
    ring
  rw [four] at low nearLow
  rw [eight] at high nearHigh
  by_contra apart
  rcases Nat.lt_or_ge n k with below | above
  · have half : stepValue n ≤ 2 * 2 ^ e := by
      have twice : stepValue (n + 1) ≤ stepValue k := stepValue_le_iff.mpr below
      rw [stepValue_add, four] at twice
      linarith
    rw [abs_of_nonpos (by linarith)] at near
    -- The lower speed is nearer up to the middle, and the higher one from there on; no rounding hides this.
    rcases le_or_gt x (5 * 2 ^ e) with first | first
    · refine leastLow.not_gt (nearLow.lt near (e := e) 1 (by norm_num) least ?_ (by push_cast; linarith))
      rw [abs_of_nonpos (by linarith)]
      push_cast
      linarith
    · rcases le_or_gt x (6 * 2 ^ e) with middle | middle
      · refine leastLow.not_gt (nearLow.lt near (e := e) 2 (by norm_num) least ?_ (by push_cast; linarith))
        rw [abs_of_nonpos (by linarith)]
        push_cast
        linarith
      · refine leastHigh.not_gt (nearHigh.lt near (e := e) 2 (by norm_num) least ?_ (by push_cast; linarith))
        rw [abs_of_nonneg (by linarith)]
        push_cast
        linarith
  · have sixteen : 16 * 2 ^ e ≤ stepValue n := by
      have next : stepValue (k + 2) ≤ stepValue n := stepValue_le_iff.mpr (by omega)
      rw [stepValue_add, four] at next
      linarith
    rw [abs_of_nonneg (by linarith)] at near
    refine leastLow.not_gt (nearLow.lt near (e := e) 4 (by norm_num) least ?_ (by push_cast; linarith))
    rw [abs_of_nonpos (by linarith)]
    push_cast
    linarith

/-! ### Steps -/

/-- A step leads to the speed at the index that is moved. -/
theorem isMagnitude_stepSpeed (delta : Int) (speed : Float) : IsMagnitude (stepSpeed delta speed)
    (stepValue (moveIndex speedSteps.length (nearestIndex speed speedSteps) delta)) := by
  have inside := moveIndex_lt (nearestIndex speed speedSteps) delta
  unfold stepSpeed
  rw [List.getD_eq_getElem _ _ inside]
  exact isMagnitude_step inside

theorem exists_between {x : ℚ} (n : Nat) (low : stepValue 0 ≤ x) (high : x ≤ stepValue (n + 1)) :
    ∃ k ≤ n, stepValue k ≤ x ∧ x ≤ stepValue (k + 1) := by
  induction n with
  | zero => exact ⟨0, le_rfl, low, high⟩
  | succ n ih =>
      rcases le_total x (stepValue (n + 1)) with below | above
      · obtain ⟨k, within, here⟩ := ih below
        exact ⟨k, Nat.le_succ_of_le within, here⟩
      · exact ⟨n + 1, le_rfl, above, high⟩

/-- Between the ends of the list, where the steps from a speed lead. -/
theorem exists_beside {speed : Float} {x : ℚ} (magnitude : IsMagnitude speed x) (low : stepValue 0 ≤ x)
    (high : x ≤ stepValue 5) : ∃ k, stepValue k ≤ x ∧ x ≤ stepValue (k + 1) ∧
      (∀ delta, 0 < delta → k + 1 ≤ moveIndex speedSteps.length (nearestIndex speed speedSteps) delta) ∧
      ∀ delta < 0, moveIndex speedSteps.length (nearestIndex speed speedSteps) delta ≤ k := by
  obtain ⟨k, within, below, above⟩ := exists_between 4 low high
  have six : speedSteps.length = 6 := rfl
  have nearest := nearestIndex_between magnitude (by omega) below above
  refine ⟨k, below, above, fun delta up => ?_, fun delta down => ?_⟩ <;>
  · unfold moveIndex
    omega

/-- **When a step up lowers the speed**: just when it is above the list. -/
theorem stepSpeed_lt_iff {speed : Float} (positive : 0.0 < speed) {delta : Int} (up : 0 < delta) :
    stepSpeed delta speed < speed ↔ 8.0 < speed := by
  have step := isMagnitude_stepSpeed delta speed
  have inside := moveIndex_lt (nearestIndex speed speedSteps) delta
  have top : IsMagnitude 8.0 (stepValue 5) := isMagnitude_step (i := 5) (by decide)
  rcases zero_lt_iff.mp positive with ⟨m, q, -, here⟩ | infinite
  · have magnitude : IsMagnitude speed (m * 2 ^ q) := ⟨m, q, here, rfl⟩
    rw [step.lt_iff magnitude, top.lt_iff magnitude]
    generalize (m * 2 ^ q : ℚ) = x at magnitude
    refine ⟨fun lowers => ?_, fun beyond => lt_of_le_of_lt (stepValue_le_iff.mpr (Nat.lt_succ_iff.mp inside)) beyond⟩
    by_contra within
    rw [not_lt] at within
    have low : stepValue 0 ≤ x := (stepValue_le_iff.mpr (Nat.zero_le _)).trans lowers.le
    obtain ⟨k, -, above, leads, -⟩ := exists_beside magnitude low within
    exact absurd lowers (not_lt.mpr (above.trans (stepValue_le_iff.mpr (leads delta up))))
  · exact iff_of_true (step.lt_of_infinite infinite) (top.lt_of_infinite infinite)

/-- **When a step down raises the speed**: just when it is below the list. -/
theorem lt_stepSpeed_iff {speed : Float} (positive : 0.0 < speed) {delta : Int} (down : delta < 0) :
    speed < stepSpeed delta speed ↔ speed < 0.25 := by
  have step := isMagnitude_stepSpeed delta speed
  have inside := moveIndex_lt (nearestIndex speed speedSteps) delta
  have bottom : IsMagnitude 0.25 (stepValue 0) := isMagnitude_step (i := 0) (by decide)
  rcases zero_lt_iff.mp positive with ⟨m, q, -, here⟩ | infinite
  · have magnitude : IsMagnitude speed (m * 2 ^ q) := ⟨m, q, here, rfl⟩
    rw [magnitude.lt_iff step, magnitude.lt_iff bottom]
    generalize (m * 2 ^ q : ℚ) = x at magnitude
    refine ⟨fun raises => ?_, fun beyond => lt_of_lt_of_le beyond (stepValue_le_iff.mpr (Nat.zero_le _))⟩
    by_contra within
    rw [not_lt] at within
    have high : x ≤ stepValue 5 := raises.le.trans (stepValue_le_iff.mpr (Nat.lt_succ_iff.mp inside))
    obtain ⟨k, below, -, -, leads⟩ := exists_beside magnitude within high
    exact absurd raises (not_lt.mpr ((stepValue_le_iff.mpr (leads delta down)).trans below))
  · exact iff_of_false (step.not_infinite_lt infinite) (bottom.not_infinite_lt infinite)

end EditHistory.Playback
