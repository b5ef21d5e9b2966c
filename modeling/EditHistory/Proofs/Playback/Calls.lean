import EditHistory.Playback.Schedule
import Mathlib.Data.List.Nodup
import Mathlib.Data.List.Perm.Basic

/-!
# One call for each timer

A timer that is going has exactly one call waiting, the one whose number it remembers, and every call of a stopped
timer is cancelled.  What makes this hold is that a call is made and the next one put in its place in one go, and that
a timer forgets its call when it stops; that calls are cancelled by their numbers, and not by their timers, makes it
depend on the numbers being distinct.

Between the moment its call is taken off the schedule and the moment the next one is put there, a timer has none.  The
invariant therefore allows for one timer that is `unarmed`.

## Main definitions

* `Schedule.IsOrderly` — the invariant, with at most one timer unarmed

## Main statements

* `Schedule.orderly_start`, `Schedule.orderly_stop`, `Schedule.orderly_make` — what each operation keeps
* `Schedule.live_of_active`, `Schedule.live_of_not_active` — the calls of a timer that are not cancelled
-/

namespace EditHistory.Playback

namespace Schedule

/-- A call of a timer that is going is the one it waits for; a call of any other is cancelled. -/
def Belongs (s : Schedule) (c : Call) : Prop :=
  if s.isActive c.timer then c.cancelled = false ∧ s.awaited? c.timer = some c.number
  else c.cancelled = true

/-- **The invariant of a schedule.**  At most the timer `unarmed` is without the call it should wait for, and then it
has no call at all. -/
structure IsOrderly (s : Schedule) (unarmed : Option Nat) : Prop where
  /-- A number not used before is at hand. -/
  numbered : ∀ c ∈ s.calls, c.number < s.count
  distinct : (s.calls.map Call.number).Nodup
  /-- Every call is of a timer that has been started. -/
  known : ∀ c ∈ s.calls, c.timer < s.timers.length
  belongs : ∀ c ∈ s.calls, s.Belongs c
  armed : ∀ c ∈ s.calls, unarmed ≠ some c.timer
  awaits : ∀ timer, s.isActive timer = true → unarmed ≠ some timer → ∃ c ∈ s.calls, c.timer = timer
  /-- A stopped timer remembers no call. -/
  rests : ∀ timer, s.isActive timer = false → s.awaited? timer = none

/-! ### Timers after each operation -/

theorem lt_of_isActive {s : Schedule} {timer : Nat} (active : s.isActive timer = true) :
    timer < s.timers.length := by
  unfold isActive at active
  by_contra beyond
  rw [List.getElem?_eq_none (Nat.le_of_not_lt beyond)] at active
  cases active

theorem isActive_arm (s : Schedule) (timer : Nat) (period : Float) (other : Nat) :
    (s.arm timer period).isActive other = s.isActive other := by
  unfold arm isActive
  rw [List.getElem?_modify]
  cases s.timers[other]? with
  | none => rfl
  | some t =>
      by_cases same : timer = other <;> simp [same]

theorem awaited?_arm_self {s : Schedule} {timer : Nat} (known : timer < s.timers.length)
    (period : Float) : (s.arm timer period).awaited? timer = some s.count := by
  unfold arm awaited?
  rw [List.getElem?_modify, List.getElem?_eq_getElem known]
  simp

theorem awaited?_arm_of_ne {s : Schedule} {timer other : Nat} (ne : timer ≠ other) (period : Float) :
    (s.arm timer period).awaited? other = s.awaited? other := by
  unfold arm awaited?
  rw [List.getElem?_modify]
  simp [ne]

theorem isActive_stop (s : Schedule) (timer other : Nat) :
    (s.stop timer).isActive other = (s.isActive other && other != timer) := by
  unfold stop isActive
  rw [List.getElem?_modify]
  cases s.timers[other]? with
  | none => rfl
  | some t =>
      by_cases same : timer = other
      · simp [same]
      · simp [same, Ne.symm same]

theorem awaited?_stop_of_ne {s : Schedule} {timer other : Nat} (ne : timer ≠ other) :
    (s.stop timer).awaited? other = s.awaited? other := by
  unfold stop awaited?
  rw [List.getElem?_modify]
  simp [ne]

theorem awaited?_stop_self (s : Schedule) (timer : Nat) : (s.stop timer).awaited? timer = none := by
  unfold stop awaited?
  rw [List.getElem?_modify]
  cases s.timers[timer]? <;> simp

/-! ### What each operation keeps -/

theorem orderly_initial (keepsCancelled : Bool) : (initial keepsCancelled).IsOrderly none := by
  have idle (timer : Nat) : (initial keepsCancelled).isActive timer = false := rfl
  refine ⟨?_, List.nodup_nil, ?_, ?_, ?_, ?_, fun _ _ => rfl⟩
  · intro c mem
    cases mem
  · intro c mem
    cases mem
  · intro c mem
    cases mem
  · intro c mem
    cases mem
  · intro timer active
    rw [idle timer] at active
    cases active

/-- The time shown plays no part in the invariant. -/
theorem IsOrderly.at_time {s : Schedule} {unarmed : Option Nat} (orderly : s.IsOrderly unarmed)
    (now : Float) : IsOrderly { s with now } unarmed :=
  ⟨orderly.numbered, orderly.distinct, orderly.known, orderly.belongs, orderly.armed, orderly.awaits,
    orderly.rests⟩

/-- **Arming** gives the unarmed timer a call under a number of its own. -/
theorem orderly_arm {s : Schedule} {timer : Nat} (orderly : s.IsOrderly (some timer))
    (active : s.isActive timer = true) (period : Float) : (s.arm timer period).IsOrderly none := by
  have known := lt_of_isActive active
  have calls : (s.arm timer period).calls = s.calls ++ [⟨s.count, s.now + period, timer, false⟩] := rfl
  have length : (s.arm timer period).timers.length = s.timers.length := List.length_modify _ _ _
  have other {c : Call} (mem : c ∈ s.calls) : timer ≠ c.timer := by
    intro same
    exact orderly.armed c mem (congrArg some same)
  refine ⟨?_, ?_, ?_, ?_, fun _ _ => nofun, ?_, ?_⟩
  · intro c mem
    have count : (s.arm timer period).count = s.count + 1 := rfl
    rw [count]
    rcases List.mem_append.mp mem with old | new
    · exact Nat.lt_succ_of_lt (orderly.numbered c old)
    · rw [List.mem_singleton.mp new]
      exact Nat.lt_succ_self _
  · rw [calls, List.map_append, List.nodup_append]
    refine ⟨orderly.distinct, List.nodup_singleton _, ?_⟩
    intro n old m new same
    obtain ⟨c, mem, rfl⟩ := List.mem_map.mp old
    have fresh := orderly.numbered c mem
    rw [same, List.mem_singleton.mp new] at fresh
    exact Nat.lt_irrefl _ fresh
  · intro c mem
    rw [length]
    rcases List.mem_append.mp mem with old | new
    · exact orderly.known c old
    · rw [List.mem_singleton.mp new]
      exact known
  · intro c mem
    unfold Belongs
    rw [isActive_arm]
    rcases List.mem_append.mp mem with old | new
    · rw [awaited?_arm_of_ne (other old)]
      exact orderly.belongs c old
    · rw [List.mem_singleton.mp new, if_pos active]
      exact ⟨rfl, awaited?_arm_self known period⟩
  · intro i going _
    rw [isActive_arm] at going
    by_cases same : timer = i
    · exact ⟨_, List.mem_append_right _ List.mem_cons_self, same⟩
    · obtain ⟨c, mem, its⟩ := orderly.awaits i going fun eq => same (Option.some.inj eq)
      exact ⟨c, List.mem_append_left _ mem, its⟩
  · intro i resting
    rw [isActive_arm] at resting
    have ne : timer ≠ i := by
      rintro rfl
      rw [active] at resting
      cases resting
    rw [awaited?_arm_of_ne ne]
    exact orderly.rests i resting

/-- A call taken off the schedule leaves its timer unarmed, if that is going. -/
theorem orderly_take {s : Schedule} (orderly : s.IsOrderly none) {c : Call} {others : List Call}
    (taken : (c :: others).Perm s.calls) :
    IsOrderly { s with calls := others } (if s.isActive c.timer then some c.timer else none) := by
  have mem {d : Call} (other : d ∈ others) : d ∈ s.calls :=
    taken.mem_iff.mp (List.mem_cons_of_mem c other)
  have distinct : ((c :: others).map Call.number).Nodup :=
    (taken.map Call.number).nodup_iff.mpr orderly.distinct
  obtain ⟨apart, distinct⟩ := List.nodup_cons.mp distinct
  have its := orderly.belongs c (taken.mem_iff.mp List.mem_cons_self)
  refine ⟨fun d other => orderly.numbered d (mem other), distinct,
    fun d other => orderly.known d (mem other), fun d other => orderly.belongs d (mem other),
    ?_, ?_, orderly.rests⟩
  · intro d other unarmed
    split at unarmed
    · rename_i active
      -- A second call of the timer would be the one it waits for as well, so the same call.
      have same : c.timer = d.timer := Option.some.inj unarmed
      have belongs := orderly.belongs d (mem other)
      unfold Belongs at its belongs
      rw [if_pos active] at its
      rw [← same, if_pos active] at belongs
      have numbers : c.number = d.number := Option.some.inj (its.2.symm.trans belongs.2)
      exact apart (numbers ▸ List.mem_map_of_mem other)
    · cases unarmed
  · intro timer active armed
    obtain ⟨d, waiting, timers⟩ := orderly.awaits timer active nofun
    rcases List.mem_cons.mp (taken.mem_iff.mpr waiting) with rfl | other
    · have going : s.isActive d.timer = true := timers ▸ active
      rw [if_pos going, timers] at armed
      exact absurd rfl armed
    · exact ⟨d, other, timers⟩

/-! ### Starting a timer -/

theorem isActive_extend (s : Schedule) (t : Timer) (other : Nat) :
    isActive { s with timers := s.timers ++ [t] } other =
      if other = s.timers.length then t.active else s.isActive other := by
  unfold isActive
  simp only [List.getElem?_append]
  by_cases old : other < s.timers.length
  · rw [if_pos old, if_neg (Nat.ne_of_lt old)]
  · rw [if_neg old, List.getElem?_eq_none (Nat.le_of_not_lt old)]
    by_cases last : other = s.timers.length
    · simp [last]
    · have beyond : [t].length ≤ other - s.timers.length := by
        rw [List.length_singleton]
        omega
      rw [List.getElem?_eq_none beyond, if_neg last]

theorem awaited?_extend (s : Schedule) (t : Timer) {other : Nat} (old : other < s.timers.length) :
    awaited? { s with timers := s.timers ++ [t] } other = s.awaited? other := by
  unfold awaited?
  simp only [List.getElem?_append, if_pos old]

/-- A timer that is added to a schedule is unarmed. -/
theorem orderly_extend {s : Schedule} (orderly : s.IsOrderly none) (period : Float) :
    IsOrderly { s with timers := s.timers ++ [⟨period, true, none⟩] } (some s.timers.length) := by
  refine ⟨orderly.numbered, orderly.distinct, ?_, ?_, ?_, ?_, ?_⟩
  · intro c mem
    rw [List.length_append]
    exact Nat.lt_add_right _ (orderly.known c mem)
  · intro c mem
    have known := orderly.known c mem
    unfold Belongs
    rw [isActive_extend, if_neg (Nat.ne_of_lt known), awaited?_extend s _ known]
    exact orderly.belongs c mem
  · intro c mem same
    exact Nat.ne_of_gt (orderly.known c mem) (Option.some.inj same)
  · intro timer active armed
    have old : timer ≠ s.timers.length := fun same => armed (congrArg some same.symm)
    rw [isActive_extend, if_neg old] at active
    exact orderly.awaits timer active nofun
  · intro timer resting
    rw [isActive_extend] at resting
    split at resting
    · cases resting
    · rename_i ne
      by_cases old : timer < s.timers.length
      · rw [awaited?_extend s _ old]
        exact orderly.rests timer resting
      · unfold awaited?
        rw [List.getElem?_eq_none]
        · rfl
        · rw [List.length_append, List.length_singleton]
          omega

/-- **Starting a timer** keeps the invariant; the timer is one that was not there before. -/
theorem orderly_start {s : Schedule} (orderly : s.IsOrderly none) (period : Float) :
    (s.start period).2.IsOrderly none := by
  refine orderly_arm (orderly_extend orderly period) ?_ period
  rw [isActive_extend, if_pos rfl]

theorem isActive_start (s : Schedule) (period : Float) (other : Nat) :
    (s.start period).2.isActive other = (decide (other = (s.start period).1) || s.isActive other) := by
  have timer : (s.start period).1 = s.timers.length := rfl
  unfold start
  simp only
  rw [isActive_arm, isActive_extend]
  split <;> simp [*]

/-! ### Stopping a timer -/

theorem mem_cancelCall {keepsCancelled : Bool} {number : Nat} {calls : List Call} {d : Call}
    (mem : d ∈ cancelCall keepsCancelled number calls) :
    ∃ c ∈ calls, d.number = c.number ∧ d.timer = c.timer ∧
      (c.number = number ∧ d.cancelled = true ∨ c.number ≠ number ∧ d = c) := by
  unfold cancelCall at mem
  split at mem
  · obtain ⟨c, old, rfl⟩ := List.mem_map.mp mem
    refine ⟨c, old, ?_⟩
    by_cases same : c.number = number
    · rw [if_pos same]
      exact ⟨rfl, rfl, Or.inl ⟨same, rfl⟩⟩
    · rw [if_neg same]
      exact ⟨rfl, rfl, Or.inr ⟨same, rfl⟩⟩
  · obtain ⟨old, kept⟩ := List.mem_filter.mp mem
    exact ⟨d, old, rfl, rfl, Or.inr ⟨by simpa using kept, rfl⟩⟩

/-- Calls under other numbers are not touched. -/
theorem mem_cancelCall_of_ne {keepsCancelled : Bool} {number : Nat} {calls : List Call} {c : Call}
    (mem : c ∈ calls) (ne : c.number ≠ number) : c ∈ cancelCall keepsCancelled number calls := by
  unfold cancelCall
  split
  · exact List.mem_map.mpr ⟨c, mem, if_neg ne⟩
  · exact List.mem_filter.mpr ⟨mem, by simpa using ne⟩

theorem distinct_cancelCall {keepsCancelled : Bool} {number : Nat} {calls : List Call}
    (distinct : (calls.map Call.number).Nodup) :
    ((cancelCall keepsCancelled number calls).map Call.number).Nodup := by
  unfold cancelCall
  split
  · have numbers : Call.number ∘ (fun c => if c.number = number then { c with cancelled := true } else c) =
        Call.number := by
      funext c
      simp only [Function.comp_apply]
      split <;> rfl
    rw [List.map_map, numbers]
    exact distinct
  · exact distinct.sublist (List.filter_sublist.map _)

/-- Two calls under one number are the same call. -/
theorem IsOrderly.eq_of_number {s : Schedule} {unarmed : Option Nat} (orderly : s.IsOrderly unarmed)
    {c d : Call} (memC : c ∈ s.calls) (memD : d ∈ s.calls) (same : c.number = d.number) : c = d :=
  List.inj_on_of_nodup_map orderly.distinct memC memD same

theorem calls_stop_of_active {s : Schedule} (orderly : s.IsOrderly none) {timer : Nat}
    (active : s.isActive timer = true) :
    ∃ c ∈ s.calls, c.timer = timer ∧
      (s.stop timer).calls = cancelCall s.keepsCancelled c.number s.calls := by
  obtain ⟨c, mem, rfl⟩ := orderly.awaits timer active nofun
  have belongs := orderly.belongs c mem
  unfold Belongs at belongs
  rw [if_pos active] at belongs
  refine ⟨c, mem, rfl, ?_⟩
  unfold stop
  rw [belongs.2]

theorem calls_stop_of_not_active {s : Schedule} (orderly : s.IsOrderly none) {timer : Nat}
    (resting : s.isActive timer = false) : (s.stop timer).calls = s.calls := by
  unfold stop
  rw [orderly.rests timer resting]

/-- A call of a timer that is not stopped now belongs as it did. -/
theorem belongs_stop_of_ne {s : Schedule} {timer : Nat} {c : Call} (ne : timer ≠ c.timer) :
    (s.stop timer).Belongs c ↔ s.Belongs c := by
  unfold Belongs
  rw [isActive_stop, awaited?_stop_of_ne ne]
  simp [Ne.symm ne]

/-- A timer that is stopped remembers no call, and the others remember what they did. -/
theorem rests_stop {s : Schedule} (orderly : s.IsOrderly none) {timer other : Nat}
    (resting : (s.stop timer).isActive other = false) : (s.stop timer).awaited? other = none := by
  by_cases same : timer = other
  · rw [← same]
    exact awaited?_stop_self s timer
  · rw [isActive_stop] at resting
    rw [awaited?_stop_of_ne same]
    exact orderly.rests other (by simpa [Ne.symm same] using resting)

/-- Calls are cancelled by their number.  For a timer that is going this means by their timer, which is what the
invariant is for. -/
theorem IsOrderly.number_iff_timer {s : Schedule} (orderly : s.IsOrderly none) {c d : Call}
    (active : s.isActive c.timer = true) (memC : c ∈ s.calls) (memD : d ∈ s.calls) :
    d.number = c.number ↔ c.timer = d.timer := by
  constructor
  · intro same
    rw [orderly.eq_of_number memD memC same]
  · intro same
    have belongsC := orderly.belongs c memC
    have belongsD := orderly.belongs d memD
    unfold Belongs at belongsC belongsD
    rw [if_pos active] at belongsC
    rw [← same, if_pos active] at belongsD
    exact Option.some.inj (belongsD.2.symm.trans belongsC.2)

theorem orderly_stop_of_active {s : Schedule} (orderly : s.IsOrderly none) {timer : Nat}
    (active : s.isActive timer = true) : (s.stop timer).IsOrderly none := by
  have length : (s.stop timer).timers.length = s.timers.length := List.length_modify _ _ _
  obtain ⟨c, waiting, rfl, calls⟩ := calls_stop_of_active orderly active
  have number {d : Call} (old : d ∈ s.calls) : d.number = c.number ↔ c.timer = d.timer :=
    orderly.number_iff_timer active waiting old
  refine ⟨?_, ?_, ?_, ?_, fun _ _ => nofun, ?_, fun _ => rests_stop orderly⟩
  · intro d mem
    rw [calls] at mem
    obtain ⟨b, old, same, -⟩ := mem_cancelCall mem
    rw [same]
    exact orderly.numbered b old
  · rw [calls]
    exact distinct_cancelCall orderly.distinct
  · intro d mem
    rw [calls] at mem
    obtain ⟨b, old, -, same, -⟩ := mem_cancelCall mem
    rw [same, length]
    exact orderly.known b old
  · intro d mem
    rw [calls] at mem
    obtain ⟨b, old, -, same, ⟨cancelled, flagged⟩ | ⟨other, rfl⟩⟩ := mem_cancelCall mem
    · have stopped : (s.stop c.timer).isActive d.timer = false := by
        rw [isActive_stop, same, ← (number old).mp cancelled]
        simp
      unfold Belongs
      rw [stopped]
      exact flagged
    · have ne : c.timer ≠ d.timer := fun same => other ((number old).mpr same)
      exact (belongs_stop_of_ne ne).mpr (orderly.belongs d old)
  · intro other going _
    rw [isActive_stop, Bool.and_eq_true] at going
    obtain ⟨d, old, rfl⟩ := orderly.awaits other going.1 nofun
    have ne : d.number ≠ c.number := fun same => by
      simp [(number old).mp same] at going
    exact ⟨d, calls ▸ mem_cancelCall_of_ne old ne, rfl⟩

/-- A timer can be stopped more than once. -/
theorem orderly_stop_of_not_active {s : Schedule} (orderly : s.IsOrderly none) {timer : Nat}
    (resting : s.isActive timer = false) : (s.stop timer).IsOrderly none := by
  have length : (s.stop timer).timers.length = s.timers.length := List.length_modify _ _ _
  have calls := calls_stop_of_not_active orderly resting
  have same (other : Nat) : (s.stop timer).isActive other = s.isActive other := by
    rw [isActive_stop]
    by_cases its : other = timer
    · rw [its, resting]
      rfl
    · simp [its]
  refine ⟨?_, ?_, ?_, ?_, fun _ _ => nofun, ?_, fun _ => rests_stop orderly⟩
  · rw [calls]
    exact orderly.numbered
  · rw [calls]
    exact orderly.distinct
  · rw [calls, length]
    exact orderly.known
  · intro d mem
    rw [calls] at mem
    have belongs := orderly.belongs d mem
    by_cases its : timer = d.timer
    · unfold Belongs at belongs ⊢
      rw [same]
      rw [← its, resting] at belongs ⊢
      exact belongs
    · exact (belongs_stop_of_ne its).mpr belongs
  · intro other going _
    rw [same] at going
    rw [calls]
    exact orderly.awaits other going nofun

/-- **Stopping a timer** cancels its call and no other. -/
theorem orderly_stop {s : Schedule} (orderly : s.IsOrderly none) (timer : Nat) :
    (s.stop timer).IsOrderly none := by
  cases active : s.isActive timer with
  | true => exact orderly_stop_of_active orderly active
  | false => exact orderly_stop_of_not_active orderly active

/-! ### Making a call -/

/-- The search takes the calls apart and forgets none: around the earliest one are all the others, in their order. -/
theorem earliestFrom_split (before : List Call) (best : Call) (after rest : List Call) :
    (earliestFrom before best after rest).1 ++
        (earliestFrom before best after rest).2.1 :: (earliestFrom before best after rest).2.2 =
      before ++ best :: (after ++ rest) := by
  induction rest generalizing before best after with
  | nil => rw [earliestFrom, List.append_nil]
  | cons c rest ih =>
      unfold earliestFrom
      split
      · rw [ih, List.nil_append, List.append_assoc, List.cons_append]
      · rw [ih, List.append_assoc, List.singleton_append]

/-- **The earliest call stands at some place.**  Whatever is true of the calls at all places is true of it. -/
theorem exists_fire?_eq_fireAt? (s : Schedule) : ∃ place, s.fire? = s.fireAt? place := by
  unfold fire? fireAt?
  cases calls : s.calls with
  | nil => exact ⟨0, rfl⟩
  | cons c rest =>
      rcases found : earliestFrom [] c [] rest with ⟨before, best, after⟩
      -- The calls before the earliest one show its place.
      have whole : before ++ best :: after = c :: rest := by
        have split := earliestFrom_split [] c [] rest
        rw [found] at split
        exact split
      have here : (c :: rest)[before.length]? = some best := by
        rw [← whole, List.getElem?_append_right (Nat.le_refl _), Nat.sub_self]
        rfl
      have others : (c :: rest).eraseIdx before.length = before ++ after := by
        rw [← whole, List.eraseIdx_append_of_length_le (Nat.le_refl _), Nat.sub_self]
        rfl
      refine ⟨before.length, ?_⟩
      rw [here, others, takeEarliest?, found]
      rfl

theorem exists_of_fireAt? {s : Schedule} {place : Nat} {made : Option Nat × Schedule}
    (fired : s.fireAt? place = some made) :
    ∃ c others, (c :: others).Perm s.calls ∧ made = s.make c others := by
  obtain ⟨c, found, rfl⟩ := Option.map_eq_some_iff.mp fired
  obtain ⟨within, rfl⟩ := List.getElem?_eq_some_iff.mp found
  exact ⟨_, _, List.getElem_cons_eraseIdx_perm within, rfl⟩

/-- A call of a timer that is going gives it work, and the next call is put on the schedule before that. -/
theorem make_of_active {s : Schedule} {c : Call} (active : s.isActive c.timer = true)
    (others : List Call) :
    ∃ period, s.make c others =
      (some c.timer, arm { s with now := c.time, calls := others } c.timer period) := by
  unfold isActive at active
  unfold make
  cases lookup : s.timers[c.timer]? with
  | none =>
      rw [lookup] at active
      cases active
  | some t =>
      rw [lookup] at active
      exact ⟨t.period, if_pos active⟩

/-- A call of a stopped timer gives no work and has no successor. -/
theorem make_of_not_active {s : Schedule} {c : Call} (resting : s.isActive c.timer = false)
    (others : List Call) : s.make c others = (none, { s with now := c.time, calls := others }) := by
  unfold isActive at resting
  unfold make
  cases lookup : s.timers[c.timer]? with
  | none => rfl
  | some t =>
      rw [lookup] at resting
      exact if_neg (by simpa using resting)

/-- **Making a call** keeps the invariant and neither starts nor stops a timer. -/
theorem orderly_make {s : Schedule} (orderly : s.IsOrderly none) {c : Call} {others : List Call}
    (taken : (c :: others).Perm s.calls) :
    (s.make c others).2.IsOrderly none ∧
      ∀ timer, (s.make c others).2.isActive timer = s.isActive timer := by
  have left := (orderly_take orderly taken).at_time c.time
  cases active : s.isActive c.timer with
  | true =>
      obtain ⟨period, made⟩ := make_of_active active others
      rw [active, if_pos rfl] at left
      rw [made]
      exact ⟨orderly_arm left active period, isActive_arm _ _ _⟩
  | false =>
      rw [active, if_neg Bool.false_ne_true] at left
      rw [make_of_not_active active]
      exact ⟨left, fun _ => rfl⟩

/-! ### The calls of a timer -/

theorem mem_live {s : Schedule} {timer : Nat} {c : Call} :
    c ∈ s.live timer ↔ c ∈ s.calls ∧ c.timer = timer ∧ c.cancelled = false := by
  unfold live
  rw [List.mem_filter, Bool.and_eq_true, beq_iff_eq, Bool.not_eq_true']

/-- A stopped timer has no call that is not cancelled. -/
theorem live_of_not_active {s : Schedule} {unarmed : Option Nat} (orderly : s.IsOrderly unarmed)
    {timer : Nat} (resting : s.isActive timer = false) : s.live timer = [] := by
  refine List.eq_nil_iff_forall_not_mem.mpr fun c mem => ?_
  obtain ⟨waiting, rfl, valid⟩ := mem_live.mp mem
  have belongs := orderly.belongs c waiting
  unfold Belongs at belongs
  rw [resting, if_neg Bool.false_ne_true, valid] at belongs
  cases belongs

/-- **A timer that is going has exactly one call that is not cancelled**: all of them would be the call that the timer
remembers, and calls have numbers of their own. -/
theorem live_of_active {s : Schedule} (orderly : s.IsOrderly none) {timer : Nat}
    (active : s.isActive timer = true) : ∃ c, s.live timer = [c] := by
  obtain ⟨c, mem, rfl⟩ := orderly.awaits timer active nofun
  have own {d : Call} (waiting : d ∈ s.calls) (its : d.timer = c.timer) :
      d.cancelled = false ∧ s.awaited? c.timer = some d.number := by
    have belongs := orderly.belongs d waiting
    unfold Belongs at belongs
    rw [its, if_pos active] at belongs
    exact belongs
  have numbers {d : Call} (live : d ∈ s.live c.timer) : d.number = c.number := by
    obtain ⟨waiting, its, -⟩ := mem_live.mp live
    exact Option.some.inj ((own waiting its).2.symm.trans (own mem rfl).2)
  have here : c ∈ s.live c.timer := mem_live.mpr ⟨mem, rfl, (own mem rfl).1⟩
  have distinct : ((s.live c.timer).map Call.number).Nodup :=
    orderly.distinct.sublist (List.filter_sublist.map _)
  cases all : s.live c.timer with
  | nil =>
      rw [all] at here
      cases here
  | cons d rest =>
      cases rest with
      | nil => exact ⟨d, rfl⟩
      | cons b rest =>
          rw [all] at distinct numbers
          have same : d.number = b.number :=
            (numbers List.mem_cons_self).trans (numbers (List.mem_cons_of_mem d List.mem_cons_self)).symm
          exact absurd (same ▸ List.mem_cons_self) (List.nodup_cons.mp distinct).1

end Schedule

end EditHistory.Playback
