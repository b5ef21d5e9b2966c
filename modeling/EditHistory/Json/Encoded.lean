import EditHistory.Json.Reader
import EditHistory.Text.Utf8
import EditHistory.Text.Wide

/-!
# JSON as bytes

Since JSON starts with an ASCII character, the zeros among its first bytes tell how wide its units are and in which
order their bytes stand; without zeros it is UTF-8.  Bytes may start with a mark of their order, which is dropped.

Here the bytes come from a text in UTF-8, so in that encoding they can always be read.

## Main definitions

* `wideEncoding?` — the encoding that the first bytes show
* `readEncoded` — the value that a text writes if its bytes are taken as JSON
-/

namespace EditHistory.Json

open EditHistory.Text

/-- Why bytes are not JSON. -/
inductive EncodedError where
  | undecodable (error : Undecodable)
  | malformed (error : Error)
  deriving DecidableEq, Repr

/-- The wording of the error. -/
def EncodedError.message : EncodedError → String
  | .undecodable e => e.message
  | .malformed e => e.message

/-- The encoding in wide units that bytes show; none if it is UTF-8. -/
def wideEncoding? : List UInt8 → Option WideEncoding
  | [a, b] =>
    if a = 0 then some (.utf16 .big) else if b = 0 then some (.utf16 .little) else none
  | a :: b :: c :: d :: _ =>
    if a = 0 then some (if b = 0 then .utf32 .big else .utf16 .big)
    else if b = 0 then some (if c = 0 ∧ d = 0 then .utf32 .little else .utf16 .little)
    else none
  | _ => none

/-- The text without a mark of its byte order. -/
def dropByteOrderMark : List Char → List Char
  | '\uFEFF' :: cs => cs
  | cs => cs

/-- The value that a text writes if its bytes are taken as JSON. -/
def readEncoded (cs : List Char) : Except EncodedError Value :=
  match wideEncoding? (utf8 (cs.take 4)) with
  | none => (parseUnmarked (dropByteOrderMark cs)).mapError .malformed
  | some encoding =>
    match encoding.decode (utf8 cs) with
    | .error e => .error (.undecodable e)
    | .ok cs => (parseUnmarked cs).mapError .malformed

end EditHistory.Json
