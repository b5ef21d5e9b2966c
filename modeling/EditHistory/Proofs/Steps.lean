import EditHistory.Action

/-!
# Steps in sequence

A sequence of steps ends with the first failure and keeps the state of that moment.  So a property of the state that
every single step keeps is kept by the sequence, whether it fails or not, and two sequences on related states give the
same outcome if their single steps do.

## Main definitions

* `Step.Agrees` — two steps with one outcome and related states
* `InTurn` — the outcome of several parts

## Main statements

* `Step.andThen_keeps` — what a continued step keeps
* `Step.Agrees.andThen` — agreement is kept by continuing
* `InTurn.iff_mapM` — the parts settle the outcome
-/

namespace EditHistory

namespace Step

variable {σ τ ε α β : Type}

theorem andThen_of_error {x : Step σ ε α} {e : ε} (failed : x.outcome = .error e)
    (f : α → σ → Step σ ε β) : x.andThen f = ⟨⟨x.log, .error e⟩, x.state⟩ := by
  unfold andThen
  rw [failed]

theorem andThen_of_ok {x : Step σ ε α} {a : α} (done : x.outcome = .ok a)
    (f : α → σ → Step σ ε β) :
    x.andThen f =
      ⟨⟨x.log ++ (f a x.state).log, (f a x.state).outcome⟩, (f a x.state).state⟩ := by
  unfold andThen
  rw [done]

/-- A function applied to the result does not make a step fail. -/
theorem failed_of_map {x : Step σ ε α} {f : α → β} {e : ε} (failed : (x.map f).outcome = .error e) :
    x.outcome = .error e := by
  rw [outcome_map] at failed
  cases outcome : x.outcome with
  | error other =>
      rw [outcome] at failed
      cases failed
      rfl
  | ok a =>
      rw [outcome] at failed
      cases failed

/-- The outcome of a sequence. -/
theorem outcome_andThen (x : Step σ ε α) (f : α → σ → Step σ ε β) :
    (x.andThen f).outcome = x.outcome.bind fun a => (f a x.state).outcome := by
  unfold andThen
  cases x.outcome <;> rfl

/-- What holds after a step, and is kept by whatever continues it, holds in the end.  The continuation is asked only
about states that the first step leaves behind. -/
theorem andThen_keeps {P : σ → Prop} {x : Step σ ε α} {f : α → σ → Step σ ε β}
    (first : P x.state) (next : ∀ a, x.outcome = .ok a → P (f a x.state).state) :
    P (x.andThen f).state := by
  cases outcome : x.outcome with
  | error e =>
      rw [andThen_of_error outcome]
      exact first
  | ok a =>
      rw [andThen_of_ok outcome]
      exact next a outcome

/-- Two steps with one outcome, which leave related states behind.  Their records may differ. -/
structure Agrees (R : σ → τ → Prop) (x : Step σ ε α) (y : Step τ ε α) : Prop where
  outcome : x.outcome = y.outcome
  state : R x.state y.state

namespace Agrees

variable {R : σ → τ → Prop} {x : Step σ ε α} {y : Step τ ε α}

theorem map (agree : Agrees R x y) (f : α → β) : Agrees R (x.map f) (y.map f) := by
  refine ⟨?_, agree.state⟩
  rw [outcome_map, outcome_map, agree.outcome]

/-- Steps chosen by one condition agree if they do in either case. -/
theorem ite {x' : Step σ ε α} {y' : Step τ ε α} (condition : Prop) [Decidable condition]
    (agree : Agrees R x y) (agree' : Agrees R x' y') :
    Agrees R (if condition then x else x') (if condition then y else y') := by
  split
  · exact agree
  · exact agree'

/-- Agreeing steps that are continued in an agreeing way agree. -/
theorem andThen {f : α → σ → Step σ ε β} {g : α → τ → Step τ ε β} (agree : Agrees R x y)
    (next : ∀ a s t, R s t → Agrees R (f a s) (g a t)) :
    Agrees R (x.andThen f) (y.andThen g) := by
  cases outcome : x.outcome with
  | error e =>
      have other : y.outcome = .error e := agree.outcome ▸ outcome
      rw [andThen_of_error outcome, andThen_of_error other]
      exact ⟨rfl, agree.state⟩
  | ok a =>
      have other : y.outcome = .ok a := agree.outcome ▸ outcome
      rw [andThen_of_ok outcome, andThen_of_ok other]
      obtain ⟨sameOutcome, related⟩ := next a x.state y.state agree.state
      exact ⟨sameOutcome, related⟩

end Agrees

end Step

/-- **The outcome of several parts**, one after the other: all their results in order, or the error of the first part
that fails. -/
inductive InTurn {ε α : Type} : List (Except ε α) → Except ε (List α) → Prop
  | done (results : List α) : InTurn (results.map .ok) (.ok results)
  | failed (before : List α) (e : ε) (after : List (Except ε α)) :
      InTurn (before.map .ok ++ .error e :: after) (.error e)

namespace InTurn

variable {ε α : Type} {outcomes : List (Except ε α)} {outcome : Except ε (List α)}

/-- A part that succeeds adds its result to those of the others. -/
theorem cons_ok (inTurn : InTurn outcomes outcome) (a : α) : InTurn (.ok a :: outcomes) (outcome.map (a :: ·)) := by
  cases inTurn with
  | done results => exact .done (a :: results)
  | failed before e after => exact .failed (a :: before) e after

/-- After a part that fails the others count for nothing. -/
theorem cons_error (e : ε) (outcomes : List (Except ε α)) : InTurn (.error e :: outcomes) (.error e) :=
  .failed [] e outcomes

/-- The parts settle the outcome, and it is found from the first to the last. -/
theorem iff_mapM : InTurn outcomes outcome ↔ outcomes.mapM id = outcome := by
  constructor
  · intro inTurn
    cases inTurn with
    | done results =>
        induction results with
        | nil => rfl
        | cons a results ih =>
            rw [List.map_cons, List.mapM_cons, ih]
            rfl
    | failed before e after =>
        induction before with
        | nil => rfl
        | cons a before ih =>
            rw [List.map_cons, List.cons_append, List.mapM_cons, ih]
            rfl
  · rintro rfl
    induction outcomes with
    | nil => exact .done []
    | cons first outcomes ih =>
        cases first with
        | error e => exact .cons_error e outcomes
        | ok a =>
            rw [List.mapM_cons]
            exact ih.cons_ok a

theorem unique {outcome' : Except ε (List α)} (inTurn : InTurn outcomes outcome) (inTurn' : InTurn outcomes outcome') :
    outcome = outcome' :=
  (iff_mapM.mp inTurn).symm.trans (iff_mapM.mp inTurn')

end InTurn

end EditHistory
