import EditHistory.Value.Field

/-!
# Access tokens

A token gives access until it expires and may come with another token by which it is renewed.  What a service sends
in its fields is kept as it came; a token read back from a file has texts in them.

## Main definitions

* `Token` — a token with its fields
* `Token.isExpired` — whether it has to be renewed
* `Token.value`, `Token.read` — the token as data, and back
-/

namespace EditHistory.Auth

/-- A token. -/
structure Token where
  access : Value
  renewal : Value
  /-- The time at which the token expires, in seconds. -/
  expiry : Number
  kind : Value
  identity : Value

/-- An integer beyond the largest double met a double. -/
inductive OutOfRange where
  | mk

/-- How long before its expiry a token counts as expired, in seconds. -/
def leeway : Number := .float 60.0

namespace Token

/-- Whether a token has expired at a time, given a leeway. -/
def isExpired (t : Token) (now leeway : Number) : Except OutOfRange Bool :=
  match t.expiry.sub? leeway with
  | some limit => .ok (limit.le now)
  | none => .error .mk

/-- A number as a value. -/
def numberValue : Number → Value
  | .int n => .int n
  | .float x => .float x

/-- The fields of a token. -/
def value (t : Token) : Value :=
  .object [("access_token", t.access), ("refresh_token", t.renewal), ("expiry_time", numberValue t.expiry),
    ("token_type", t.kind), ("id_token", t.identity)]

/-- Why a value is no token. -/
inductive ReadError where
  | field (error : FieldError)
  | expiry (error : DoubleError)
  deriving DecidableEq, Repr

/-- The wording of the error. -/
def ReadError.message : ReadError → String
  | .field e => e.message
  | .expiry e => e.message

/-- A token read from its fields.  Whatever stands for a text is turned into one; an empty renewal token or kind, or
none, is the usual one. -/
def read (v : Value) : Except ReadError Token :=
  match v.require "access_token" with
  | .error e => .error (.field e)
  | .ok access =>
    match (v.getOr "expiry_time" (.float 0.0)).toDouble with
    | .error e => .error (.expiry e)
    | .ok expiry =>
      .ok
        { access := .str access.text
          renewal := .str ((v.getOr "refresh_token" .null).orElse (.str "")).text
          expiry := .float expiry
          kind := .str ((v.getOr "token_type" .null).orElse (.str "Bearer")).text
          identity := v.getOr "id_token" .null }

end Token

end EditHistory.Auth
