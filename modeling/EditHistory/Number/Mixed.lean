import EditHistory.Number.Layout

/-!
# Integers and doubles together

A number in the data is an integer of any size or a double.  Arithmetic stays with integers while both sides are
integers and goes to doubles otherwise; comparison is exact in every case.
-/

namespace EditHistory

/-- An integer of any size, or a double. -/
inductive Number where
  | int (n : Int)
  | float (x : Float)

namespace Number

/-- The number as a double; nothing if it is an integer beyond the largest double. -/
def toFloat? : Number → Option Float
  | .int n => ofInt? n
  | .float x => some x

/-- Whether `a ≤ b`.  Never, if either is not a number. -/
def le : Number → Number → Bool
  | .int a, .int b => a ≤ b
  | .float x, .float y => x ≤ y
  | .float x, .int b => match compareInt? x b with
    | some o => o != .gt
    | none => false
  | .int a, .float y => match compareInt? y a with
    | some o => o != .lt
    | none => false

/-- Whether `a < b`.  Never, if either is not a number. -/
def lt : Number → Number → Bool
  | .int a, .int b => a < b
  | .float x, .float y => x < y
  | .float x, .int b => compareInt? x b == some .lt
  | .int a, .float y => compareInt? y a == some .gt

/-- The difference; nothing if an integer beyond the largest double meets a double. -/
def sub? : Number → Number → Option Number
  | .int a, .int b => some (.int (a - b))
  | a, b => do
    let x ← a.toFloat?
    let y ← b.toFloat?
    return .float (x - y)

/-- The sum; nothing if an integer beyond the largest double meets a double. -/
def add? : Number → Number → Option Number
  | .int a, .int b => some (.int (a + b))
  | a, b => do
    let x ← a.toFloat?
    let y ← b.toFloat?
    return .float (x + y)

/-- Whether the number is zero, of either sign. -/
def isZero : Number → Bool
  | .int n => n == 0
  | .float x => x == 0.0

/-- The number as text. -/
def text : Number → List Char
  | .int n => intText n
  | .float x => display x

end Number

end EditHistory
