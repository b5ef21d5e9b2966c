import EditHistory.Number.Layout

/-!
# The length of integers

An integer of more decimal digits than `digitLimit` is neither read from decimal text nor written as decimal text.
Other bases have no limit.
-/

namespace EditHistory.Number

/-- The greatest number of digits of an integer that is read from decimal text or written as decimal text. -/
def digitLimit : Nat := 4300

/-- The wording of the refusal of a longer integer; the number of its digits is known when it is read. -/
def limitMessage (digits : Option Nat) : String :=
  "Exceeds the limit (" ++ String.ofList (natText digitLimit) ++ " digits) for integer string conversion" ++
    (match digits with
      | some n => ": value has " ++ String.ofList (natText n) ++ " digits"
      | none => "") ++
    "; use sys.set_int_max_str_digits() to increase the limit"

end EditHistory.Number
