import EditHistory.Log

/-!
# Computations on a state

An `Action` works on a state, may fail, and writes records.  A failure ends the computation and keeps the state and
the records as they were at that moment, so a half-finished change is seen by whoever looks next.

## Main definitions

* `Step` — an outcome, the records written and the state left behind
* `Action` — a computation on a state
* `Action.attempt` — the outcome of an action as a value, so that a failure can be handled
* `Action.within` — an action on a part of the state
-/

namespace EditHistory

/-- An outcome, the records written on the way, and the state left behind. -/
structure Step (σ ε α : Type) extends Noted ε α where
  state : σ

namespace Step

variable {σ ε δ α β : Type}

/-- A result. -/
def done (a : α) (s : σ) : Step σ ε α := ⟨⟨[], .ok a⟩, s⟩

/-- A failure. -/
def failed (e : ε) (s : σ) : Step σ ε α := ⟨⟨[], .error e⟩, s⟩

/-- The step with a function applied to its result. -/
def map (f : α → β) (x : Step σ ε α) : Step σ ε β := ⟨⟨x.log, x.outcome.map f⟩, x.state⟩

/-- The step with a function applied to its failure. -/
def mapError (f : ε → δ) (x : Step σ ε α) : Step σ δ α := ⟨⟨x.log, x.outcome.mapError f⟩, x.state⟩

/-- The step continued by a computation on the state it left behind, unless it failed. -/
def andThen (x : Step σ ε α) (f : α → σ → Step σ ε β) : Step σ ε β :=
  match x.outcome with
  | .error e => ⟨⟨x.log, .error e⟩, x.state⟩
  | .ok a => ⟨⟨x.log ++ (f a x.state).log, (f a x.state).outcome⟩, (f a x.state).state⟩

/-- The step with a record after those it has. -/
def noting (x : Step σ ε α) (level : Level) (message : String) : Step σ ε α :=
  ⟨⟨x.log ++ [⟨level, message⟩], x.outcome⟩, x.state⟩

@[simp] theorem outcome_done (a : α) (s : σ) : (done a s : Step σ ε α).outcome = .ok a := rfl

@[simp] theorem state_done (a : α) (s : σ) : (done a s : Step σ ε α).state = s := rfl

@[simp] theorem outcome_failed (e : ε) (s : σ) : (failed e s : Step σ ε α).outcome = .error e := rfl

@[simp] theorem state_failed (e : ε) (s : σ) : (failed e s : Step σ ε α).state = s := rfl

@[simp] theorem state_map (f : α → β) (x : Step σ ε α) : (x.map f).state = x.state := rfl

@[simp] theorem outcome_map (f : α → β) (x : Step σ ε α) : (x.map f).outcome = x.outcome.map f := rfl

@[simp] theorem state_noting (x : Step σ ε α) (level : Level) (message : String) :
    (x.noting level message).state = x.state := rfl

@[simp] theorem outcome_noting (x : Step σ ε α) (level : Level) (message : String) :
    (x.noting level message).outcome = x.outcome := rfl

end Step

/-- A computation on a state. -/
abbrev Action (σ ε α : Type) : Type := σ → Step σ ε α

namespace Action

variable {σ τ ε δ α β : Type}

instance : Monad (Action σ ε) where
  pure a := Step.done a
  bind x f := fun s => (x s).andThen f

/-- The state. -/
def get : Action σ ε σ := fun s => .done s s

/-- A change of the state. -/
def modify (f : σ → σ) : Action σ ε Unit := fun s => .done () (f s)

/-- A failure. -/
def fail (e : ε) : Action σ ε α := fun s => .failed e s

/-- A record, and nothing else. -/
def note (level : Level) (message : String) : Action σ ε Unit := fun s => ⟨Noted.note level message, s⟩

/-- An outcome that does not depend on the state. -/
def ofExcept (x : Except ε α) : Action σ ε α := fun s => ⟨Noted.ofExcept x, s⟩

/-- An outcome with its records that does not depend on the state. -/
def ofNoted (x : Noted ε α) : Action σ ε α := fun s => ⟨x, s⟩

/-- The outcome of an action as a value. -/
def attempt (x : Action σ ε α) : Action σ δ (Except ε α) := fun s =>
  ⟨⟨(x s).log, .ok (x s).outcome⟩, (x s).state⟩

/-- The action with a function applied to its failure. -/
def mapError (f : ε → δ) (x : Action σ ε α) : Action σ δ α := fun s => (x s).mapError f

/-- An action on a part of the state. -/
def within (part : σ → τ) (replace : σ → τ → σ) (x : Action τ ε α) : Action σ ε α := fun s =>
  ⟨(x (part s)).toNoted, replace s (x (part s)).state⟩

@[simp] theorem bind_apply (x : Action σ ε α) (f : α → Action σ ε β) (s : σ) :
    (x >>= f) s = (x s).andThen f := rfl

@[simp] theorem pure_apply (a : α) (s : σ) : (pure a : Action σ ε α) s = .done a s := rfl

end Action

end EditHistory
