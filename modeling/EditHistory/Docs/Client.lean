import EditHistory.Auth.Authenticator
import EditHistory.Docs.Id
import EditHistory.Docs.Metadata
import EditHistory.Json.Guard

/-!
# The document service

Asking a service for the description of a document, the list of its revisions, its content, and the log of its edits.
Every request takes the token of the moment.

How many revisions there are is not told; it is found by asking for single revisions, first at growing distances and
then by halving.  The whole log is asked for in chunks of consecutive revisions.

## Main definitions

* `Client` — where tokens come from
* `Client.metadata`, `Client.revisionList`, `Client.content`, `Client.revisionData` — single questions
* `Client.findMax` — the index of the last revision
* `Client.allRevisionData` — the whole log in chunks
-/

namespace EditHistory.Docs

open Web

/-- What a request is sent with: a token, or a value that stands for one. -/
inductive Credential where
  | token (t : Auth.Token)
  | value (v : Value)

/-- The text by which a credential gives access, if it does. -/
def Credential.text? : Credential → Option String
  | .token t => some t.access.text
  | .value v => if v.truthy then some v.text else none

/-- Why a question to the service has no result. -/
inductive Error where
  /-- Nobody has signed in. -/
  | signedOut
  | auth (error : Auth.Error)
  /-- The address of the resource cannot be sent. -/
  | unsendableAddress
  /-- The token has characters that cannot be sent. -/
  | unsendableToken
  /-- The connection has been closed. -/
  | closed
  /-- The service did not answer as it should; the status is zero if it did not answer at all. -/
  | failed (status : Nat) (message : String)
  | field (error : FieldError)
  | badChunkSize (size : Int)
  /-- An index has more digits than are written. -/
  | indexTooLong

/-- The wording of an error. -/
def Error.message : Error → String
  | .signedOut => "No authentication token found"
  | .auth e => e.message
  | .unsendableAddress => "the address has characters that cannot be sent, or too many"
  | .unsendableToken => "the token has characters that cannot be sent"
  | .closed => "Cannot send a request, as the client has been closed."
  | .failed status message => showNat status ++ " " ++ message
  | .field e => e.message
  | .badChunkSize size => "chunk_size must be positive, got " ++ showInt size
  | .indexTooLong => Number.limitMessage none

/-- Whether the error is an answer that the service gave, and not a lack of one. -/
def Error.isAnswer : Error → Bool
  | .failed status _ => status != 0
  | _ => false

/-- The addresses of the service. -/
def documentsUrl : String := "https://docs.googleapis.com/v1/documents"

/-- The address of the description of a document. -/
def fileUrl (doc : String) : String := "https://www.googleapis.com/drive/v3/files/" ++ doc

/-- The address of the edit log of a document. -/
def logUrl (doc : String) : String := "https://docs.google.com/document/d/" ++ doc ++ "/revisions/load"

/-- Where tokens come from. -/
structure Client where
  credential : Action Session Error (Option Credential)

/-- A client that takes the token of an authenticator. -/
def Client.ofAuthenticator (a : Auth.Authenticator) : Client :=
  ⟨do
    let token ← a.current.mapError .auth
    return token.map .token⟩

/-- A client that takes prepared credentials in turn, the last one again and again. -/
def Client.ofCredentials (credentials : List (Option Credential)) : Client :=
  ⟨do
    let session ← Action.get
    return (credentials[session.asked]?.or credentials.getLast?).join⟩

/-- The message that an answer gives for its failure. -/
def errorMessage? (r : Response) : Option Value :=
  match r.json with
  | .ok v => (v.get? "error").bind fun e => e.get? "message"
  | .error _ => none

/-- What is said about an answer that reports a failure: its phrase, and its message if it has one. -/
def failureText (r : Response) : String :=
  match errorMessage? r with
  | some message => r.reason ++ ": " ++ message.text
  | none => r.reason

/-- Whether an integer has more digits than are written. -/
def isTooLong (n : Int) : Bool :=
  Nat.pow 10 Number.digitLimit ≤ n.natAbs

namespace Client

/-- The text of the token of the moment. -/
def token (client : Client) : Action Session Error String := do
  let credential ← client.credential
  Action.modify fun s => { s with asked := s.asked + 1 }
  match credential.bind Credential.text? with
  | none => Action.fail .signedOut
  | some text => return text

/-- The answer to a request for which all is ready. -/
def receive (url : String) (query : List (String × String)) (token : String) : Action Session Error Response := do
  match ← Session.send (.fetch url query token) with
  | .failure reason =>
    Action.note .error ("GET " ++ url ++ " failed: " ++ reason)
    Action.fail (.failed 0 ("Request failed: " ++ reason))
  | .response r =>
    if isSuccess r.status then return r
    else
      Action.note .error ("GET " ++ url ++ " failed: " ++ showNat r.status ++ " " ++ failureText r)
      Action.fail (.failed r.status (failureText r))

/-- Asks for a resource; the numbers of the query are checked with the rest of the request, and so is the length of
an address that gets a query. -/
def get (client : Client) (url : String) (query : List (String × String)) (numbers : List Int) :
    Action Session Error Response := do
  let token ← client.token
  let session ← Action.get
  if !isSendable url.toList then Action.fail .unsendableAddress
  else if token.toList.any (fun c => 0x80 ≤ c.toNat) then Action.fail .unsendableToken
  else if numbers.any isTooLong then Action.fail .indexTooLong
  else if !query.isEmpty && !(located url query).fits then Action.fail .unsendableAddress
  else if session.closed then Action.fail .closed
  else receive url query token

/-- Asks for a resource that is JSON. -/
def getJson (client : Client) (url : String) (query : List (String × String)) : Action Session Error Value := do
  let r ← client.get url query []
  match r.json with
  | .ok v => return v
  | .error e =>
    Action.note .error ("GET " ++ url ++ " returned a non-JSON body")
    Action.fail (.failed r.status ("Malformed response: " ++ e.message))

/-- The description of a document. -/
def metadata (client : Client) (doc : String) : Action Session Error Metadata := do
  let v ← client.getJson (fileUrl doc)
    [("fields", "id,name,mimeType,createdTime,modifiedTime,lastModifyingUser")]
  Action.note .info ("Retrieved metadata for document " ++ doc)
  Action.ofExcept ((Metadata.read v).mapError .field)

/-- The list of the revisions of a document. -/
def revisionList (client : Client) (doc : String) : Action Session Error (List RevisionEntry) := do
  let v ← client.getJson (fileUrl doc ++ "/revisions") [("fields", "revisions(id,modifiedTime,modifyingUser)")]
  let entries ← Action.ofExcept ((RevisionEntry.readAll v).mapError .field)
  Action.note .info ("Retrieved " ++ showNat entries.length ++ " revisions for document " ++ doc)
  return entries

/-- The content of a document. -/
def content (client : Client) (doc : String) : Action Session Error Value := do
  let v ← client.getJson (documentsUrl ++ "/" ++ doc) []
  Action.note .info ("Retrieved content for document " ++ doc)
  return v

/-- The data in an answer with a part of the edit log, perhaps behind the guard. -/
def readLog (r : Response) : Except Json.Error Value :=
  Json.parse (Json.dropGuard r.body)

/-- A range of revisions of a document, in messages. -/
def rangeText (doc : String) (start stop : Int) : String :=
  doc ++ " (" ++ showInt start ++ "-" ++ showInt stop ++ ")"

/-- The query for a range of revisions. -/
def rangeQuery (doc : String) (start stop : Int) : List (String × String) :=
  [("id", doc), ("start", showInt start), ("end", showInt stop)]

/-- The edit log of the revisions from `start` to `stop`. -/
def revisionData (client : Client) (doc : String) (start stop : Int) : Action Session Error Value := do
  let r ← client.get (logUrl doc) (rangeQuery doc start stop) [start, stop]
  match readLog r with
  | .ok v =>
    Action.note .debug ("Retrieved revision data for " ++ rangeText doc start stop)
    return v
  | .error e =>
    Action.note .error ("Malformed revision data for " ++ rangeText doc start stop)
    Action.fail (.failed r.status ("Malformed revision data: " ++ e.message))

/-! ### The last revision -/

/-- Whether a revision can be had.  An answer without it means no; no answer at all is a failure. -/
def hasRevision (client : Client) (doc : String) (index : Nat) : Action Session Error Bool := do
  match ← (client.revisionData doc index index).attempt with
  | .ok _ => return true
  | .error e => if e.isAnswer then return false else Action.fail e

/-- Doubles a bound until there is no revision at it; the result is the last two bounds. -/
def findBound (client : Client) (doc : String) : Nat → Nat → Nat → Action Session Error (Nat × Nat)
  | 0, _, _ => Action.fail .indexTooLong
  | fuel + 1, low, high => do
    if ← client.hasRevision doc high then findBound client doc fuel high (high * 2) else return (low, high)

/-- Halves the range from `low` to `high` until it is empty; the result is its upper end. -/
def narrow (client : Client) (doc : String) : Nat → Nat → Nat → Action Session Error Nat
  | 0, _, high => pure high
  | fuel + 1, low, high =>
    if low ≤ high then do
      let middle := (low + high) / 2
      if ← client.hasRevision doc middle then narrow client doc fuel (middle + 1) high
      else narrow client doc fuel low (middle - 1)
    else pure high

/-- The first bound that is tried. -/
def firstBound : Nat := 1000

/-- More doublings than lead from the first bound to an index that is too long. -/
def doublingLimit : Nat := 4 * Number.digitLimit

/-- The index of the last revision that can be had, zero if there is none. -/
def findMax (client : Client) (doc : String) : Action Session Error Nat := do
  let (low, high) ← client.findBound doc doublingLimit 1 firstBound
  let last ← client.narrow doc (high + 1) low high
  Action.note .info ("Max revision index for " ++ doc ++ " is " ++ showNat last)
  return last

/-! ### The whole log -/

/-- The chunks of the log from `start` to `last`, at most `fuel` of them, with a pause after each. -/
def fetchChunks (client : Client) (doc : String) (size : Nat) (delay : Value) (last : Nat) :
    Nat → Nat → Action Session Error (List Value)
  | 0, _ => pure []
  | fuel + 1, start =>
    if start ≤ last then do
      let chunk ← client.revisionData doc start (min (start + size - 1) last : Nat)
      if delay.truthy then Session.pause delay
      let chunks ← fetchChunks client doc size delay last fuel (start + size)
      return chunk :: chunks
    else pure []

/-- The whole log in chunks of a size. -/
def allRevisionData (client : Client) (doc : String) (size : Int) (delay : Value) :
    Action Session Error (List Value) := do
  if size < 1 then Action.fail (.badChunkSize size)
  else
    let last ← client.findMax doc
    let chunks ← client.fetchChunks doc size.toNat delay last last 1
    Action.note .info ("Retrieved " ++ showNat chunks.length ++ " revision chunks for " ++ doc)
    return chunks

end Client

end EditHistory.Docs
