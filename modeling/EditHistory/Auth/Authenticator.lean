import EditHistory.Auth.Config
import EditHistory.Auth.Store
import EditHistory.Session

/-!
# Signing in

An authenticator trades a code for a token, renews a token that has expired, and gives a token back.  Every token it
obtains is kept in the token file.

## Main definitions

* `Authenticator` — the configuration and the token file
* `Authenticator.exchange`, `Authenticator.refresh` — obtaining a token
* `Authenticator.current` — the token in the file, renewed if it has expired
* `Authenticator.signOut` — giving the token back
-/

namespace EditHistory.Auth

open Web

/-- What a token is asked for. -/
inductive Purpose where
  | exchange
  | refresh
  deriving DecidableEq, Repr

/-- The wording of a purpose that failed. -/
def Purpose.failure : Purpose → String
  | .exchange => "Failed to exchange authorization code for tokens"
  | .refresh => "Failed to refresh access token"

/-- Why no token can be had. -/
inductive Error where
  /-- No answer came. -/
  | unreachable (purpose : Purpose) (reason : String)
  /-- The answer says no. -/
  | refused (purpose : Purpose) (status : Nat)
  /-- The token to renew has no renewal token. -/
  | notRenewable
  /-- The answer is not JSON. -/
  | notJson (error : Json.EncodedError)
  | field (error : FieldError)
  | duration (error : DoubleError)
  | outOfRange
  /-- The token file has no name that a file can have. -/
  | store (error : Store.PathError)

/-- The wording of an error. -/
def Error.message : Error → String
  | .unreachable purpose reason => purpose.failure ++ ": " ++ reason
  | .refused purpose status => purpose.failure ++ ": " ++ showNat status ++ " " ++ reasonPhrase status
  | .notRenewable => Purpose.refresh.failure ++ ": no refresh token"
  | .notJson e => e.message
  | .field e => e.message
  | .duration e => e.message
  | .outOfRange => "int too large to convert to float"
  | .store e => e.message

/-- Whether the error is one about signing in, rather than about the shape of an answer. -/
def Error.isExpected : Error → Bool
  | .unreachable .. | .refused .. | .notRenewable => true
  | _ => false

/-- The texts that a value puts into a form: a list puts in one for every item. -/
def fieldTexts : Value → List String
  | .list items => items.map itemText
  | v => [itemText v]
where
  /-- The text of a single value in a form. -/
  itemText : Value → String
    | .null => ""
    | .bool true => "true"
    | .bool false => "false"
    | v => v.text

/-- The pairs that a named value puts into a form. -/
def formField (name : String) (v : Value) : List (String × String) :=
  (fieldTexts v).map fun text => (name, text)

/-- The configuration and the token file. -/
structure Authenticator where
  config : Config
  store : Store

namespace Authenticator

/-- Asks for a token. -/
def request (a : Authenticator) (purpose : Purpose) (form : List (String × String)) : Action Session Error Value := do
  let secret := if a.config.clientSecret.truthy then formField "client_secret" a.config.clientSecret else []
  match ← Session.send (.submit tokenEndpoint (form ++ secret)) with
  | .failure reason =>
    Action.note .error (purpose.failure ++ ": " ++ reason)
    Action.fail (.unreachable purpose reason)
  | .response r =>
    if r.status = 200 then Action.ofExcept (r.json.mapError .notJson)
    else
      Action.note .error (purpose.failure ++ ": HTTP " ++ showNat r.status)
      Action.fail (.refused purpose r.status)

/-- The token in an answer that came at a time; `renewal` is the renewal token of an answer without one. -/
def readToken (answer : Value) (now : Number) (renewal : Value) : Except Error Token :=
  match answer.require "access_token" with
  | .error e => .error (.field e)
  | .ok access =>
    match (answer.getOr "expires_in" (.int 3600)).toDouble with
    | .error e => .error (.duration e)
    | .ok duration =>
      match now.add? (.float duration) with
      | none => .error .outOfRange
      | some expiry =>
        .ok
          { access
            renewal := (answer.getOr "refresh_token" .null).orElse renewal
            expiry
            kind := answer.getOr "token_type" (.str "Bearer")
            identity := answer.getOr "id_token" .null }

/-- Asks for a token and keeps it. -/
def obtain (a : Authenticator) (purpose : Purpose) (form : List (String × String)) (renewal : Value) :
    Action Session Error Token := do
  let answer ← a.request purpose form
  let session ← Action.get
  let token ← Action.ofExcept (readToken answer session.now renewal)
  (Session.onFiles (a.store.save token)).mapError .store
  return token

/-- Trades a code for a token. -/
def exchange (a : Authenticator) (code : Value) : Action Session Error Token := do
  let token ← a.obtain .exchange
    (formField "code" code ++ formField "client_id" a.config.clientId ++
      formField "redirect_uri" a.config.redirectUrl ++ [("grant_type", "authorization_code")]) (.str "")
  Action.note .info "Obtained OAuth tokens"
  return token

/-- Renews a token. -/
def refresh (a : Authenticator) (token : Token) : Action Session Error Token := do
  if token.renewal.truthy then
    let fresh ← a.obtain .refresh
      (formField "refresh_token" token.renewal ++ formField "client_id" a.config.clientId ++
        [("grant_type", "refresh_token")]) token.renewal
    Action.note .debug "Refreshed access token"
    return fresh
  else Action.fail .notRenewable

/-- The token in the file. -/
def stored (a : Authenticator) : Action Session Error (Option Token) :=
  (Session.onFiles a.store.load).mapError fun _ => .outOfRange

/-- The token in the file, renewed if it has expired. -/
def current (a : Authenticator) : Action Session Error (Option Token) := do
  match ← a.stored with
  | none => return none
  | some token =>
    let session ← Action.get
    let expired ← Action.ofExcept ((token.isExpired session.now leeway).mapError fun _ => .outOfRange)
    if expired then return some (← a.refresh token) else return some token

/-- Gives the token back, if the service can be reached, and forgets it. -/
def signOut (a : Authenticator) : Action Session Error Unit := do
  match ← a.stored with
  | none => pure ()
  | some token =>
    match ← Session.send (.submit revokeEndpoint (formField "token" token.access)) with
    | .failure _ => Action.note .debug "Token revocation failed"
    | .response _ => pure ()
  (Session.onFiles a.store.clear).mapError .store

end Authenticator

end EditHistory.Auth
