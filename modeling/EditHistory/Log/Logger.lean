import EditHistory.Log
import EditHistory.Text.Uppercase
import EditHistory.Value

/-!
# Loggers

A logger passes on the records whose level reaches its threshold.  A threshold is given as a number or as the name of
a level; an unknown name counts as `WARNING`.  A threshold of zero is none at all: then that of the whole program
counts, which is `WARNING`.

## Main definitions

* `Logger` — a threshold and whether there is anyone to pass records on to
* `Logger.configure` — a threshold set
* `Logger.passes` — whether a level reaches the threshold
-/

namespace EditHistory

/-- A threshold: a number or a switch, which counts as zero or one. -/
inductive Threshold where
  | number (n : Int)
  | flag (b : Bool)
  deriving DecidableEq, Repr

namespace Threshold

/-- The number that a threshold counts as. -/
def rank : Threshold → Int
  | .number n => n
  | .flag b => b.toNat

/-- The threshold as a value. -/
def value : Threshold → Value
  | .number n => .int n
  | .flag b => .bool b

/-- The threshold that counts where none is set. -/
def usual : Threshold := .number Level.warning.rank

/-- The thresholds by name. -/
def names : List (String × Int) :=
  [("CRITICAL", 50), ("FATAL", 50), ("ERROR", 40), ("WARN", 30), ("WARNING", 30), ("INFO", 20), ("DEBUG", 10),
    ("NOTSET", 0)]

/-- The threshold that a name in letters of any case stands for. -/
def ofName (name : String) : Threshold :=
  match names.lookup (String.ofList (Text.upper name.toList)) with
  | some n => .number n
  | none => usual

/-- The threshold that a value stands for, if it is a number, a switch or a name. -/
def ofValue? : Value → Option Threshold
  | .int n => some (.number n)
  | .bool b => some (.flag b)
  | .str name => some (ofName name)
  | _ => none

end Threshold

/-- A threshold, and whether there is anyone to pass records on to. -/
structure Logger where
  threshold : Threshold
  attached : Bool
  deriving DecidableEq, Repr

/-- A value that is no threshold. -/
structure NotAThreshold where
  deriving DecidableEq, Repr

namespace Logger

/-- A logger that has not been configured. -/
def initial : Logger := ⟨.number 0, false⟩

/-- The logger after a threshold has been set.  Someone is attached to it even if the value is no threshold. -/
def configure (l : Logger) (v : Value) : Except NotAThreshold Unit × Logger :=
  match Threshold.ofValue? v with
  | some threshold => (.ok (), ⟨threshold, true⟩)
  | none => (.error .mk, { l with attached := true })

/-- The logger with the threshold of a name. -/
def named (l : Logger) (name : String) : Logger :=
  (l.configure (.str name)).2

/-- The number that a level must reach. -/
def effective (l : Logger) : Int :=
  if l.threshold.rank = 0 then Threshold.usual.rank else l.threshold.rank

/-- Whether a level reaches the threshold. -/
def passes (l : Logger) (level : Level) : Bool :=
  l.effective ≤ level.rank

/-- The records that are passed on. -/
def filter (l : Logger) (log : Log) : Log :=
  log.filter fun r => l.passes r.level

end Logger

end EditHistory
