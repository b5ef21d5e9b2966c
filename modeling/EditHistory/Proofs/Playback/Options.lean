import EditHistory.Proofs.Number.Integer
import EditHistory.Proofs.Number.Order
import EditHistory.Proofs.Playback.Pace
import EditHistory.Proofs.Value.Field

/-!
# Which options are accepted

Of the fields of options only the speed can be refused.  It must be a number, and not at most zero: positive integers
and positive doubles are accepted, infinity too, and also what is not a number, for that is not at most zero either.
An integer that is too large for a double fails in another way.  Options that are refused leave the engine as it was,
and other options change nothing but the speed and the switch.

A new engine refuses the same options.  But if it is to play at once, it must have a period, and an infinite speed has
none.

## Main definitions

* `Value.IsPositive`, `Value.IsNan` — the values that are accepted as a speed
* `Options.lastSwitch?` — the switch that counts
* `Options.Refuses` — why fields are refused
* `Engine.make` — an engine made with options that are given as a value

## Main statements

* `Options.readSpeed_of_accepted`, `Options.readSpeed_of_refused` — reading a speed
* `Options.updateFields_eq_error_iff`, `Options.updateFields_eq_ok` — what becomes of options
* `Engine.readPeriod_interval_eq_error_iff` — the speeds that have no period
* `Engine.setOptions_object` — which options an engine accepts, and a new one
-/

namespace EditHistory

open Number Playback

namespace Value

/-- A number greater than zero, be it infinite. -/
def IsPositive : Value → Prop
  | .int n => 0 < n
  | .float x => parts x = .infinite false ∨ Number.IsPositive x
  | _ => False

/-- A double that is not a number. -/
def IsNan : Value → Prop
  | .float x => parts x = .nan
  | _ => False

/-- A field is found among those that are kept, if it is. -/
theorem lookup?_filter {known : String × Value → Bool} {key : String} (kept : ∀ v, known (key, v) = true)
    (fields : List (String × Value)) : lookup? (fields.filter known) key = lookup? fields key := by
  induction fields with
  | nil => rfl
  | cons f rest ih =>
      obtain ⟨name, v⟩ := f
      rw [List.filter_cons]
      by_cases same : name = key
      · subst same
        rw [if_pos (kept v), lookup?, lookup?, if_pos rfl, if_pos rfl]
      · split
        · rw [lookup?, lookup?, if_neg same, if_neg same, ih]
        · rw [ih, lookup?, if_neg same]

end Value

namespace Playback

/-! ### Speeds -/

theorem compareMagnitude_zero_zero (q : Int) : compareMagnitude 0 q 0 = .eq := by
  unfold compareMagnitude
  split <;> simp

/-- A double is not at most zero if it is positive, or not a number. -/
theorem le_zero_eq_false_iff (x : Float) :
    Number.le (.float x) (.int 0) = false ↔ (Value.float x).IsPositive ∨ (Value.float x).IsNan := by
  unfold Number.le compareInt?
  simp only [Value.IsPositive, Value.IsNan, Number.IsPositive]
  cases parts x with
  | nan => simp
  | infinite negative => cases negative <;> simp
  | finite negative m q =>
      rcases Nat.eq_zero_or_pos m with rfl | some
      · simp [compareMagnitude_zero_zero]
      · cases negative <;> simp [compareMagnitude_zero some, some.ne', some]

namespace Options

/-- **A speed that is accepted** is the nearest double, if there is one. -/
theorem readSpeed_of_accepted {v : Value} (accepted : v.IsPositive ∨ v.IsNan) :
    readSpeed v = v.toDouble.mapError fun _ => .speedTooLarge := by
  cases v with
  | int n =>
      have above : Number.le (.int n) (.int 0) = false := decide_eq_false (not_le.mpr (accepted.resolve_right id))
      simp only [readSpeed, readSpeedNumber, above, Value.toDouble, Value.number?]
      cases Number.toFloat? (.int n) <;> rfl
  | float x =>
      simp only [readSpeed, readSpeedNumber, (le_zero_eq_false_iff x).mpr accepted]
      rfl
  | _ => exact accepted.elim False.elim False.elim

/-- **What is refused as a speed**: everything but positive numbers and what is not a number. -/
theorem readSpeed_of_refused {v : Value} (refused : ¬ (v.IsPositive ∨ v.IsNan)) :
    readSpeed v = .error (.badSpeed v) := by
  cases v with
  | int n =>
      have below : Number.le (.int n) (.int 0) = true :=
        decide_eq_true (Int.not_lt.mp fun positive => refused (.inl positive))
      simp only [readSpeed, readSpeedNumber, below]
      rfl
  | float x =>
      have below : Number.le (.float x) (.int 0) = true := by
        rw [← Bool.not_eq_false, le_zero_eq_false_iff]
        exact refused
      simp only [readSpeed, readSpeedNumber, below]
      rfl
  | _ => rfl

/-- **The errors of a speed.** -/
theorem readSpeed_eq_error_iff (v : Value) (error : Error) :
    readSpeed v = .error error ↔
      error = .badSpeed v ∧ ¬ v.IsPositive ∧ ¬ v.IsNan ∨
        error = .speedTooLarge ∧ ∃ n, v = .int n ∧ (overflow : Int) ≤ n := by
  by_cases accepted : v.IsPositive ∨ v.IsNan
  · rw [readSpeed_of_accepted accepted]
    cases read : v.toDouble with
    | ok x =>
        refine iff_of_false nofun ?_
        rintro (⟨-, notPositive, notNan⟩ | ⟨-, n, rfl, large⟩)
        · exact accepted.elim notPositive notNan
        · have tooLarge := (Value.toDouble_int_eq_tooLarge_iff n).mpr (by omega)
          cases read.symm.trans tooLarge
    | error other =>
        obtain ⟨x, number⟩ : ∃ x, v.number? = some x := by
          cases v with
          | int n => exact ⟨_, rfl⟩
          | float x => exact ⟨_, rfl⟩
          | _ => exact accepted.elim False.elim False.elim
        obtain rfl := Value.toDouble_eq_error_of_number number read
        obtain ⟨n, rfl, large⟩ := (Value.toDouble_eq_tooLarge_iff v).mp read
        have positive : 0 < n := accepted.resolve_right id
        constructor
        · rintro ⟨⟩
          exact .inr ⟨rfl, n, rfl, by omega⟩
        · rintro (⟨-, notPositive, -⟩ | ⟨rfl, -⟩)
          · exact absurd positive notPositive
          · rfl
  · rw [readSpeed_of_refused accepted]
    constructor
    · rintro ⟨⟩
      exact .inl ⟨rfl, not_or.mp accepted⟩
    · rintro (⟨rfl, -⟩ | ⟨-, n, rfl, large⟩)
      · rfl
      · have some := one_lt_overflow
        have positive : 0 < n := by omega
        exact absurd (.inl positive) accepted

/-! ### Switches -/

/-- The switch that the last field sets that has one of the two names. -/
def lastSwitch? (fields : List (String × Value)) : Option Bool :=
  (fields.filter fun f => f.1 = "auto_play" ∨ f.1 = "autoPlay").getLast?.map fun f => f.2.truthy

theorem readAutoPlay?_eq_lastSwitch? (fields : List (String × Value)) : readAutoPlay? fields = lastSwitch? fields := by
  induction fields with
  | nil => rfl
  | cons f rest ih =>
      rw [readAutoPlay?, ih, lastSwitch?, lastSwitch?, List.filter_cons]
      by_cases named : f.1 = "auto_play" ∨ f.1 = "autoPlay"
      · simp only [named, if_true, decide_true, List.getLast?_cons]
        cases (rest.filter _).getLast? <;> rfl
      · simp only [named, if_false, decide_false]
        simp

/-- A field that means something. -/
def isKnown (f : String × Value) : Bool :=
  f.1 = "speed" ∨ f.1 = "auto_play" ∨ f.1 = "autoPlay"

/-- Fields with other names have no effect. -/
theorem updateFields_filter (o : Options) (fields : List (String × Value)) :
    o.updateFields (fields.filter isKnown) = o.updateFields fields := by
  have switches : lastSwitch? (fields.filter isKnown) = lastSwitch? fields := by
    rw [lastSwitch?, List.filter_filter, lastSwitch?]
    congr 3
    funext f
    by_cases switch : f.1 = "auto_play" ∨ f.1 = "autoPlay" <;> simp [isKnown, switch]
  rw [updateFields, updateFields, Value.lookup?_filter (fun _ => rfl), readAutoPlay?_eq_lastSwitch?,
    readAutoPlay?_eq_lastSwitch?, switches]

/-- Why fields are refused: the speed that they give is no positive number, or too large. -/
def Refuses (fields : List (String × Value)) (error : Error) : Prop :=
  ∃ v, Value.lookup? fields "speed" = some v ∧
    (error = .badSpeed v ∧ ¬ v.IsPositive ∧ ¬ v.IsNan ∨ error = .speedTooLarge ∧ ∃ n, v = .int n ∧ (overflow : Int) ≤ n)

theorem updateFields_eq_error_iff (o : Options) (fields : List (String × Value)) (error : Error) :
    o.updateFields fields = .error error ↔ Refuses fields error := by
  unfold updateFields Refuses
  cases Value.lookup? fields "speed" with
  | none => exact iff_of_false nofun nofun
  | some v =>
      simp only [Option.some.injEq, exists_eq_left', ← readSpeed_eq_error_iff]
      cases readSpeed v <;> simp [Except.map]

/-- The options that fields give, if they are not refused. -/
theorem updateFields_eq_ok {o o' : Options} {fields : List (String × Value)} (updated : o.updateFields fields = .ok o') :
    o'.autoPlay = (lastSwitch? fields).getD o.autoPlay ∧
      (Value.lookup? fields "speed" = none ∧ o'.speed = o.speed ∨
        ∃ v, Value.lookup? fields "speed" = some v ∧ (v.IsPositive ∨ v.IsNan) ∧ v.toDouble = .ok o'.speed) := by
  unfold updateFields at updated
  rw [readAutoPlay?_eq_lastSwitch?] at updated
  cases given : Value.lookup? fields "speed" with
  | none =>
      rw [given] at updated
      cases updated
      exact ⟨rfl, .inl ⟨rfl, rfl⟩⟩
  | some v =>
      rw [given] at updated
      by_cases accepted : v.IsPositive ∨ v.IsNan
      · simp only [readSpeed_of_accepted accepted] at updated
        cases read : v.toDouble with
        | error e =>
            rw [read] at updated
            cases updated
        | ok speed =>
            rw [read] at updated
            cases updated
            exact ⟨rfl, .inr ⟨v, rfl, accepted, read⟩⟩
      · simp only [readSpeed_of_refused accepted] at updated
        cases updated

/-- A speed that is accepted becomes one that is accepted as a double, and infinite just if it was. -/
theorem speed_of_toDouble {v : Value} {speed : Float} (accepted : v.IsPositive ∨ v.IsNan)
    (read : v.toDouble = .ok speed) :
    ((Value.float speed).IsPositive ∨ (Value.float speed).IsNan) ∧
      (parts speed = .infinite false ↔ ∃ x, v = .float x ∧ parts x = .infinite false) := by
  cases v with
  | int n =>
      have nearest : ofInt? n = some speed := by
        simp only [Value.toDouble, Value.number?, Number.toFloat?] at read
        cases nearest : ofInt? n with
        | none => rw [nearest] at read; cases read
        | some x => rw [nearest] at read; cases read; rfl
      have positive := isPositive_of_ofInt? (accepted.resolve_right id) nearest
      refine ⟨.inl (.inr positive), iff_of_false ?_ ?_⟩
      · obtain ⟨m, q, -, finite⟩ := positive
        rw [finite]
        rintro ⟨⟩
      · rintro ⟨x, ⟨⟩, -⟩
  | float x =>
      cases read
      refine ⟨accepted, fun infinite => ⟨speed, rfl, infinite⟩, ?_⟩
      rintro ⟨y, ⟨⟩, infinite⟩
      exact infinite
  | _ => exact accepted.elim False.elim False.elim

theorem parts_one : parts 1.0 = .finite false (2 ^ 52) (-52) := by decide +kernel

/-- The speed of the standard options, changed by fields that are accepted. -/
theorem speed_of_updateFields {options : Options} {fields : List (String × Value)}
    (updated : standard.updateFields fields = .ok options) :
    ((Value.float options.speed).IsPositive ∨ (Value.float options.speed).IsNan) ∧
      (parts options.speed = .infinite false ↔
        ∃ x, Value.lookup? fields "speed" = some (.float x) ∧ parts x = .infinite false) := by
  obtain ⟨-, ⟨none, same⟩ | ⟨v, given, accepted, read⟩⟩ := updateFields_eq_ok updated
  · rw [none, same]
    refine ⟨.inl (.inr ⟨_, _, Nat.two_pow_pos 52, parts_one⟩), iff_of_false ?_ nofun⟩
    show ¬ parts 1.0 = _
    rw [parts_one]
    nofun
  · rw [given]
    simp only [Option.some.injEq]
    exact speed_of_toDouble accepted read

end Options

namespace Engine

/-! ### Periods -/

/-- A double that is not at most zero is a period. -/
theorem readPeriod_of_accepted {x : Float} (accepted : (Value.float x).IsPositive ∨ (Value.float x).IsNan) :
    readPeriod (.float x) = .ok x := by
  show (if Number.le (.float x) (.int 0) then _ else _) = _
  rw [(le_zero_eq_false_iff x).mpr accepted]
  rfl

theorem readPeriod_zero : readPeriod (.float 0.0) = .error (.notPositive (.float 0.0)) := by
  have zero : Number.le (.float 0.0) (.int 0) = true := by
    rw [← Bool.not_eq_false, le_zero_eq_false_iff]
    simp only [Value.IsPositive, Value.IsNan, Number.IsPositive, parts_zero]
    rintro ((same | ⟨m, q, some, same⟩) | same)
    · cases same
    · cases same
      cases some
    · cases same
  generalize (0.0 : Float) = x at zero
  show (if Number.le (.float x) (.int 0) then _ else _) = _
  rw [zero]
  rfl

/-- **A speed that is accepted has a period** unless it is infinite: then the period would be zero. -/
theorem readPeriod_interval_eq_error_iff {e : Engine} (error : PeriodError)
    (accepted : (Value.float e.options.speed).IsPositive ∨ (Value.float e.options.speed).IsNan) :
    readPeriod (.float e.interval) = .error error ↔
      error = .notPositive (.float 0.0) ∧ parts e.options.speed = .infinite false := by
  obtain (infinite | positive) | nan := accepted
  · have speed : e.options.speed = 1.0 / 0.0 :=
      parts_injective (infinite.trans (by decide +kernel : Parts.infinite false = parts (1.0 / 0.0)))
    have zero : e.interval = 0.0 := by
      rw [interval, speed]
      exact parts_injective (by decide +kernel)
    rw [zero, readPeriod_zero]
    simp [infinite, eq_comm]
  · rw [readPeriod_interval positive]
    obtain ⟨m, q, -, finite⟩ := positive
    rw [finite]
    simp
  · have speed : e.options.speed = 0.0 / 0.0 :=
      parts_injective (nan.trans (by decide +kernel : Parts.nan = parts (0.0 / 0.0)))
    have still : parts e.interval = .nan := by
      rw [interval, speed]
      decide +kernel
    rw [readPeriod_of_accepted (.inr still), show parts e.options.speed = .nan from nan]
    simp

/-! ### Making an engine -/

/-- A new engine with the standard options changed by a value, unless one of the two fails. -/
def make (revisions : List Revision) (given : Value) (keepsSnapshots : Bool) (schedule : Schedule) (timerLog : Log) :
    Except Fault Engine :=
  match Options.standard.update given with
  | .error error => .error (.options error)
  | .ok options =>
    let created := create revisions options keepsSnapshots schedule timerLog
    created.outcome.map fun _ => created.state

section

variable (revisions : List Revision) (options : Options) (keepsSnapshots : Bool) (schedule : Schedule) (timerLog : Log)

theorem outcome_create_of_idle (idle : ¬ (options.autoPlay = true ∧ revisions ≠ [])) :
    (create revisions options keepsSnapshots schedule timerLog).outcome = .ok () := by
  have off : ¬ (options.autoPlay && !revisions.isEmpty) = true := by
    simpa using idle
  unfold create
  rw [if_neg off]
  rfl

/-- An engine that is to play at once must have a period. -/
theorem outcome_create_of_playing (playing : options.autoPlay = true ∧ revisions ≠ []) :
    (create revisions options keepsSnapshots schedule timerLog).outcome =
      ((readPeriod (.float (initial revisions options keepsSnapshots schedule timerLog).interval)).mapError
        Fault.period).map fun _ => () := by
  have on : (options.autoPlay && !revisions.isEmpty) = true := by
    simpa using playing
  unfold create
  simp only [on, if_true]
  rw [Step.outcome_andThen]
  -- Nothing is to be stopped, so the timer is started at once.
  show ((startTimer (initial revisions options keepsSnapshots schedule timerLog)).map fun _ => ()).outcome = _
  unfold startTimer
  cases readPeriod (.float (initial revisions options keepsSnapshots schedule timerLog).interval) <;> rfl

variable {options}

/-- An engine can be created unless it is to play at once at an infinite speed. -/
theorem outcome_create_eq_error_iff
    (accepted : (Value.float options.speed).IsPositive ∨ (Value.float options.speed).IsNan) (fault : Fault) :
    (create revisions options keepsSnapshots schedule timerLog).outcome = .error fault ↔
      fault = .period (.notPositive (.float 0.0)) ∧ revisions ≠ [] ∧ options.autoPlay = true ∧
        parts options.speed = .infinite false := by
  by_cases playing : options.autoPlay = true ∧ revisions ≠ []
  · have period (error : PeriodError) := readPeriod_interval_eq_error_iff
      (e := initial revisions options keepsSnapshots schedule timerLog) error accepted
    rw [outcome_create_of_playing revisions options keepsSnapshots schedule timerLog playing]
    cases read : readPeriod (.float (initial revisions options keepsSnapshots schedule timerLog).interval) with
    | error other =>
        obtain ⟨rfl, infinite⟩ := (period other).mp read
        constructor
        · rintro ⟨⟩
          exact ⟨rfl, playing.2, playing.1, infinite⟩
        · rintro ⟨rfl, -⟩
          rfl
    | ok length =>
        refine iff_of_false nofun ?_
        rintro ⟨-, -, -, infinite⟩
        cases read.symm.trans ((period _).mpr ⟨rfl, infinite⟩)
  · rw [outcome_create_of_idle revisions options keepsSnapshots schedule timerLog playing]
    refine iff_of_false nofun ?_
    rintro ⟨-, some, on, -⟩
    exact playing ⟨on, some⟩

end

/-- An engine is not made if its options are refused, or if it is to play at once at an infinite speed. -/
theorem make_eq_error_iff (revisions : List Revision) (fields : List (String × Value)) (keepsSnapshots : Bool)
    (schedule : Schedule) (timerLog : Log) (fault : Fault) :
    make revisions (.object fields) keepsSnapshots schedule timerLog = .error fault ↔
      (∃ error, fault = .options error ∧ Options.Refuses fields error) ∨
        fault = .period (.notPositive (.float 0.0)) ∧ revisions ≠ [] ∧ Options.lastSwitch? fields = some true ∧
          ∃ x, Value.lookup? fields "speed" = some (.float x) ∧ parts x = .infinite false := by
  unfold make
  simp only [Options.update]
  cases updated : Options.standard.updateFields fields with
  | error error =>
      have refused := (Options.updateFields_eq_error_iff _ fields error).mp updated
      have only (other : Options.Error) : Options.Refuses fields other ↔ other = error := by
        rw [← Options.updateFields_eq_error_iff Options.standard, updated, Except.error.injEq, eq_comm]
      have finite : ¬ ∃ x, Value.lookup? fields "speed" = some (.float x) ∧ parts x = .infinite false := by
        rintro ⟨x, given, infinite⟩
        obtain ⟨v, given', ⟨-, notPositive, -⟩ | ⟨-, n, rfl, -⟩⟩ := refused
        · cases given.symm.trans given'
          exact notPositive (.inl infinite)
        · cases given.symm.trans given'
      simp only [only, exists_eq_right, finite, and_false, or_false, Except.error.injEq]
      exact eq_comm
  | ok options =>
      have accepted (other : Options.Error) : ¬ Options.Refuses fields other := by
        rw [← Options.updateFields_eq_error_iff Options.standard, updated]
        nofun
      obtain ⟨switch, -⟩ := Options.updateFields_eq_ok updated
      obtain ⟨speed, infinite⟩ := Options.speed_of_updateFields updated
      have on : Options.lastSwitch? fields = some true ↔ options.autoPlay = true := by
        rw [switch]
        cases Options.lastSwitch? fields <;> simp [Options.standard]
      simp only [accepted, and_false, exists_false, false_or, ← infinite, on]
      rw [← outcome_create_eq_error_iff revisions keepsSnapshots schedule timerLog speed]
      cases (create revisions options keepsSnapshots schedule timerLog).outcome <;> simp [Except.map]

theorem setOptions_of_accepted {e : Engine} {fields : List (String × Value)} {options : Options}
    (updated : e.options.updateFields fields = .ok options) :
    setOptions (.object fields) e = .done () { e with options } := by
  simp only [setOptions, Options.update, updated]

theorem setOptions_of_refused {e : Engine} {fields : List (String × Value)} {error : Options.Error}
    (updated : e.options.updateFields fields = .error error) :
    setOptions (.object fields) e = .failed (.options error) e := by
  simp only [setOptions, Options.update, updated]

/-- **Which options an engine accepts, and a new one.**  Options are refused just if they give a speed that is no
positive number, except that what is not a number is accepted, or one that is too large for a double; and then the
engine stays as it was.  Otherwise it has the speed that is given, as a double, and the switch that is given last, or
the old ones, and all else stays.  Fields with other names have no effect.  A new engine refuses the same options, and
moreover those with an infinite speed if it is to play at once. -/
theorem setOptions_object (e : Engine) (fields : List (String × Value)) :
    (∀ fault, (setOptions (.object fields) e).outcome = .error fault ↔
      ∃ error, fault = .options error ∧ Options.Refuses fields error) ∧
    (∀ fault, (setOptions (.object fields) e).outcome = .error fault → (setOptions (.object fields) e).state = e) ∧
    ((setOptions (.object fields) e).outcome = .ok () → ∃ speed,
      (Value.lookup? fields "speed" = none ∧ speed = e.options.speed ∨
        ∃ v, Value.lookup? fields "speed" = some v ∧ v.toDouble = .ok speed) ∧
      (setOptions (.object fields) e).state =
        { e with options := ⟨speed, (Options.lastSwitch? fields).getD e.options.autoPlay⟩ }) ∧
    setOptions (.object (fields.filter Options.isKnown)) e = setOptions (.object fields) e ∧
    ∀ revisions keepsSnapshots schedule timerLog fault,
      make revisions (.object fields) keepsSnapshots schedule timerLog = .error fault ↔
        (setOptions (.object fields) e).outcome = .error fault ∨
          fault = .period (.notPositive (.float 0.0)) ∧ revisions ≠ [] ∧ Options.lastSwitch? fields = some true ∧
            ∃ x, Value.lookup? fields "speed" = some (.float x) ∧ parts x = .infinite false := by
  have errors (fault : Fault) : (setOptions (.object fields) e).outcome = .error fault ↔
      ∃ error, fault = .options error ∧ Options.Refuses fields error := by
    simp only [← Options.updateFields_eq_error_iff e.options]
    cases updated : e.options.updateFields fields with
    | error error => simp [setOptions_of_refused updated, eq_comm]
    | ok options => simp [setOptions_of_accepted updated]
  refine ⟨errors, fun fault failed => ?_, fun done => ?_, ?_, ?_⟩
  · cases updated : e.options.updateFields fields with
    | error error => rw [setOptions_of_refused updated, Step.state_failed]
    | ok options =>
        rw [setOptions_of_accepted updated] at failed
        cases failed
  · cases updated : e.options.updateFields fields with
    | error error =>
        rw [setOptions_of_refused updated] at done
        cases done
    | ok options =>
        obtain ⟨switch, speed⟩ := Options.updateFields_eq_ok updated
        refine ⟨options.speed, ?_, ?_⟩
        · refine speed.imp_right ?_
          rintro ⟨v, given, -, read⟩
          exact ⟨v, given, read⟩
        · rw [setOptions_of_accepted updated, ← switch, Step.state_done]
  · simp only [setOptions, Options.update, Options.updateFields_filter]
  · intro revisions keepsSnapshots schedule timerLog fault
    rw [errors]
    exact make_eq_error_iff revisions fields keepsSnapshots schedule timerLog fault

/-- Options whose two switches differ, with a field that means nothing. -/
def mixedFields : List (String × Value) :=
  [("autoPlay", .bool true), ("theme", .str "dark"), ("speed", .int 3), ("auto_play", .list [])]

/-- Options with a switch in the place of the speed. -/
def switchFields : List (String × Value) := [("auto_play", .bool true), ("speed", .bool true)]

theorem setOptions_object_of_mixed :
    let e := initial [default] Options.standard true (Schedule.initial false) []
    (∃ speed, (Value.int 3).toDouble = .ok speed ∧
      (setOptions (.object mixedFields) e).state = { e with options := ⟨speed, false⟩ }) ∧
      (setOptions (.object switchFields) e).state = e ∧
      make [default] (.object [("speed", .float (1.0 / 0.0)), ("auto_play", .int 1)]) true (Schedule.initial false) [] =
        .error (.period (.notPositive (.float 0.0))) := by
  intro e
  obtain ⟨-, -, changed, -⟩ := setOptions_object e mixedFields
  obtain ⟨-, kept, -⟩ := setOptions_object e switchFields
  obtain ⟨-, -, -, -, made⟩ := setOptions_object e [("speed", .float (1.0 / 0.0)), ("auto_play", .int 1)]
  obtain ⟨speed, ⟨none, -⟩ | ⟨v, given, read⟩, state⟩ := changed rfl
  · cases none
  · cases given
    exact ⟨⟨speed, read, state⟩, kept _ rfl,
      (made _ _ _ _ _).mpr (.inr ⟨rfl, nofun, rfl, _, rfl, by decide +kernel⟩)⟩

end Engine

end Playback
end EditHistory
