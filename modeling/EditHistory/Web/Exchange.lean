import EditHistory.Json.Encoded
import EditHistory.Web.Location
import EditHistory.Web.Status

/-!
# Requests and answers

What is sent to a service and what comes back.  A service is anything that answers a request, given the requests it
has had before.

## Main definitions

* `Request`, `Answer` — what goes back and forth
* `Response.json`, `Response.reason` — reading an answer
* `Server` — a service
* `Server.ofAnswers` — a service that gives prepared answers in turn
-/

namespace EditHistory.Web

/-- What is sent to a service. -/
inductive Request where
  /-- Asks for a resource, in the name of the holder of a token. -/
  | fetch (url : String) (query : List (String × String)) (token : String)
  /-- Hands in a form. -/
  | submit (url : String) (form : List (String × String))
  deriving DecidableEq, Repr

/-- Pairs of strings in form encoding. -/
def formText (pairs : List (String × String)) : String :=
  String.ofList (Form.render (pairs.map fun p => (p.1.toList, p.2.toList)))

/-- Where a resource lies that is asked for with a query; without one the address keeps its own. -/
def located (url : String) (query : List (String × String)) : Location :=
  let location := Location.read url.toList
  if query.isEmpty then location else location.withQuery (formText query).toList

/-- The address of a request, with its query. -/
def Request.address : Request → String
  | .fetch url query _ => String.ofList (located url query).text
  | .submit url _ => url

/-- What a service sends back: a status and a text. -/
structure Response where
  status : Nat
  body : List Char
  deriving DecidableEq, Repr

/-- The outcome of a request: a response, or the reason why none came. -/
inductive Answer where
  | response (r : Response)
  | failure (reason : String)
  deriving DecidableEq, Repr

namespace Response

/-- The phrase of the status. -/
def reason (r : Response) : String := reasonPhrase r.status

/-- The value that the bytes of the answer write as JSON. -/
def json (r : Response) : Except Json.EncodedError Value :=
  Json.readEncoded r.body

end Response

/-- A service: its answer to a request, given the requests before, the latest first. -/
abbrev Server := List Request → Request → Answer

/-- A service that gives prepared answers in turn, the last one again and again; without any it fails. -/
def Server.ofAnswers (answers : List Answer) : Server := fun earlier _ =>
  (answers[earlier.length]?.or answers.getLast?).getD (.response ⟨500, []⟩)

end EditHistory.Web
