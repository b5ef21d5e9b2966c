/-!
# Log records and noted computations

A `Noted` computation may fail, and either way leaves the records it wrote on its way.  Projecting the outcome out
of a composed computation gives the composition of the outcomes, so a statement about results never mentions the
log.

## Main definitions

* `Level`, `Record` — what a log consists of
* `Noted` — an outcome together with the records written for it
-/

namespace EditHistory

/-- The severity of a record. -/
inductive Level where
  | debug
  | info
  | warning
  | error
  | critical
  deriving DecidableEq, Repr

/-- The name of a level. -/
def Level.name : Level → String
  | .debug => "DEBUG"
  | .info => "INFO"
  | .warning => "WARNING"
  | .error => "ERROR"
  | .critical => "CRITICAL"

/-- The rank of a level: a threshold lets through the levels that are at least as high. -/
def Level.rank : Level → Int
  | .debug => 10
  | .info => 20
  | .warning => 30
  | .error => 40
  | .critical => 50

/-- One line of the log. -/
structure Record where
  level : Level
  message : String
  deriving DecidableEq, Repr

/-- The log of a computation, oldest record first. -/
abbrev Log := List Record

/-- An outcome, and the records written on the way to it. -/
structure Noted (ε α : Type) where
  log : Log
  outcome : Except ε α

namespace Noted

variable {ε α β : Type}

/-- A failure. -/
def fail (e : ε) : Noted ε α := ⟨[], .error e⟩

/-- A record, and nothing else. -/
def note (level : Level) (message : String) : Noted ε Unit := ⟨[⟨level, message⟩], .ok ()⟩

/-- One computation after another; a failure ends the sequence and keeps the records so far. -/
def bind (x : Noted ε α) (f : α → Noted ε β) : Noted ε β :=
  match x.outcome with
  | .error e => ⟨x.log, .error e⟩
  | .ok a => ⟨x.log ++ (f a).log, (f a).outcome⟩

instance : Monad (Noted ε) where
  pure a := ⟨[], .ok a⟩
  bind := bind

@[simp] theorem outcome_pure (a : α) : (pure a : Noted ε α).outcome = .ok a := rfl

@[simp] theorem outcome_fail (e : ε) : (fail e : Noted ε α).outcome = .error e := rfl

@[simp] theorem outcome_note (level : Level) (message : String) :
    (note level message : Noted ε Unit).outcome = .ok () := rfl

@[simp] theorem outcome_bind (x : Noted ε α) (f : α → Noted ε β) :
    (x >>= f).outcome = x.outcome.bind fun a => (f a).outcome := by
  obtain ⟨log, outcome⟩ := x
  cases outcome <;> rfl

/-- The outcome of another computation, its records kept. -/
def ofExcept (x : Except ε α) : Noted ε α := ⟨[], x⟩

@[simp] theorem outcome_ofExcept (x : Except ε α) : (ofExcept x).outcome = x := rfl

end Noted

end EditHistory
