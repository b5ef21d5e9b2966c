import EditHistory.Value
import EditHistory.Web.Address
import EditHistory.Web.Exchange

/-!
# Asking for consent

A user grants access in a browser: the program shows an address to open, and afterwards the user hands back the
address to which the browser was sent, which holds a code.

## Main definitions

* `Config` — who asks, and for what
* `consentUrl` — the address to open
* `readCode` — the code in the address handed back
-/

namespace EditHistory.Auth

open Web

/-- Who asks for access, and for what. -/
structure Config where
  clientId : Value
  scopes : Value
  redirectUrl : Value
  clientSecret : Value

/-- The address at which consent is given. -/
def consentEndpoint : String := "https://accounts.google.com/o/oauth2/auth"

/-- The address at which tokens are handed out. -/
def tokenEndpoint : String := "https://oauth2.googleapis.com/token"

/-- The address at which tokens are given back. -/
def revokeEndpoint : String := "https://oauth2.googleapis.com/revoke"

/-- The access that is asked for unless something else is said. -/
def usualScopes : Value :=
  .list [.str "https://www.googleapis.com/auth/documents.readonly",
    .str "https://www.googleapis.com/auth/drive.metadata.readonly"]

/-- The address to which the browser is sent unless something else is said. -/
def usualRedirect : Value := .str "http://localhost:8085/"

/-- The usual configuration of a client. -/
def Config.usual (clientId : Value) : Config :=
  ⟨clientId, usualScopes, usualRedirect, .null⟩

/-- The scopes are not a list of texts. -/
inductive NotTexts where
  | mk

/-- The texts of a list of texts. -/
def texts? : List Value → Option (List String)
  | [] => some []
  | .str s :: rest => (texts? rest).map (s :: ·)
  | _ :: _ => none

/-- The scopes with spaces between them.  A single text counts as the list of its characters, an object as the list of
its names. -/
def scopeText (scopes : Value) : Except NotTexts String :=
  match scopes with
  | .list items =>
    match texts? items with
    | some names => .ok (String.intercalate " " names)
    | none => .error .mk
  | .str s => .ok (String.intercalate " " (s.toList.map fun c => String.ofList [c]))
  | .object fields => .ok (String.intercalate " " (fields.map Prod.fst))
  | _ => .error .mk

/-- The address to open in a browser. -/
def consentUrl (config : Config) : Except NotTexts String :=
  (scopeText config.scopes).map fun scope =>
    consentEndpoint ++ "?" ++ formText
      [("client_id", config.clientId.text), ("redirect_uri", config.redirectUrl.text), ("response_type", "code"),
        ("scope", scope), ("access_type", "offline"), ("prompt", "consent")]

/-- Why an address holds no code. -/
inductive CodeError where
  | address (fault : Address.Fault)
  | noCode
  deriving DecidableEq, Repr

/-- The wording of the error. -/
def CodeError.message : CodeError → String
  | .address fault => fault.message
  | .noCode => "No auth code found in redirect URL"

/-- The code in an address: the value of the first pair of its query that is named so. -/
def readCode (address : List Char) : Except CodeError (List Char) :=
  match Address.query address with
  | .error fault => .error (.address fault)
  | .ok query =>
    match (Form.read query).lookup "code".toList with
    | some code => .ok code
    | none => .error .noCode

end EditHistory.Auth
