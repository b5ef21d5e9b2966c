import EditHistory.Text.Blank

/-!
# Guarded JSON

Some services put the guard `)]}'` before their JSON, so that it cannot be run as a script.
-/

namespace EditHistory.Json

open EditHistory.Text

/-- The guard. -/
def guardMark : List Char := [')', ']', '}', '\'']

/-- The text without its guard and the blanks around the guard; a text without a guard is left as it is. -/
def dropGuard (cs : List Char) : List Char :=
  match dropMark? guardMark (trimStart cs) with
  | some rest => trimStart rest
  | none => cs

end EditHistory.Json
