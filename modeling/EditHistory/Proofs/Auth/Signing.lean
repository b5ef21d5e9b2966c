import EditHistory.Proofs.Auth.Asking
import EditHistory.Proofs.Auth.Store

/-!
# Staying signed in

Whatever the clock shows and the service answers, the token file holds the token that has been obtained last since the
user signed out, and nothing if there is none.  A token that renews another one can itself be renewed.

## Main definitions

* `IsTokenAnswer`, `Grants` — answers of a service that hands out tokens
* `Call` — what can be done with an authenticator, and the passing of time
* `Course` — a session with the token that has been obtained last
* `Course.Holds` — the token file holds that token

## Main statements

* `Turn` and `turn_current` — what a call that may ask for a token comes to
* `Course.Holds.next` — a call keeps what the token file holds in step
* `Course.load_run` — after any calls
-/

namespace EditHistory

open Web EditHistory.Action

namespace Session

/-- The service answers a request with a value. -/
def Tells (s : Session) (request : Request) (v : Value) : Prop :=
  ∃ r, s.server s.requests request = .response r ∧ r.status = 200 ∧ r.json = .ok v

end Session

namespace Auth

/-! ### Answers -/

/-- The texts of an answer about a token: those that it must have, if they are there, and those that it may have. -/
structure IsTokenAnswer (v : Value) : Prop where
  access : ∀ w, v.get? "access_token" = some w → ∃ s, w = .str s
  renewal : ∀ w, v.get? "refresh_token" = some w → w = .null ∨ ∃ s, w = .str s
  kind : ∀ w, v.get? "token_type" = some w → ∃ s, w = .str s ∧ s ≠ ""
  identity : ∀ w, v.get? "id_token" = some w → w = .null ∨ ∃ s, w = .str s

/-- A service all of whose successful answers about tokens are such answers. -/
def Grants (server : Server) : Prop :=
  ∀ earlier form r v, server earlier (.submit tokenEndpoint form) = .response r → r.status = 200 → r.json = .ok v →
    IsTokenAnswer v

/-- The renewal token after an answer: the one in the answer, or the one before if that is missing or empty. -/
def renewalAfter (answer before : Value) : Value :=
  match answer.get? "refresh_token" with
  | some (.str text) => if text = "" then before else .str text
  | _ => before

theorem float_of_add? {x : Number} {y : Float} {z : Number} (sum : x.add? (.float y) = some z) : ∃ w, z = .float w := by
  cases x with
  | int n =>
      rw [Number.add?] at sum
      · obtain ⟨a, -, rest⟩ := Option.bind_eq_some_iff.mp sum
        obtain ⟨b, -, rest⟩ := Option.bind_eq_some_iff.mp rest
        exact ⟨_, (Option.some.inj rest).symm⟩
      · rintro _ _ _ ⟨⟩
  | float x => exact ⟨_, (Option.some.inj sum).symm⟩

/-- What has become of an answer. -/
theorem readToken_eq_ok {answer renewal : Value} {now : Number} {token : Token}
    (read : Authenticator.readToken answer now renewal = .ok token) :
    answer.require "access_token" = .ok token.access ∧
      token.renewal = (answer.getOr "refresh_token" .null).orElse renewal ∧ (∃ x, token.expiry = .float x) ∧
      token.kind = answer.getOr "token_type" (.str "Bearer") ∧ token.identity = answer.getOr "id_token" .null := by
  unfold Authenticator.readToken at read
  split at read
  · cases read
  · rename_i access there
    split at read
    · cases read
    · split at read
      · cases read
      · rename_i sum
        cases read
        exact ⟨there, rfl, float_of_add? sum, rfl, rfl⟩

theorem orElse_eq_renewalAfter {answer : Value} (typed : IsTokenAnswer answer) (before : Value) :
    (answer.getOr "refresh_token" .null).orElse before = renewalAfter answer before := by
  unfold renewalAfter Value.getOr
  cases given : answer.get? "refresh_token" with
  | none => rfl
  | some w =>
      obtain rfl | ⟨s, rfl⟩ := typed.renewal w given
      · rfl
      · by_cases empty : s = "" <;> simp [Value.orElse, Value.truthy, empty]

/-- The token in an answer has texts in its fields. -/
theorem isText_of_readToken {answer : Value} (typed : IsTokenAnswer answer) {before : String} {now : Number}
    {token : Token} (read : Authenticator.readToken answer now (.str before) = .ok token) : token.IsText := by
  obtain ⟨access, renewal, expiry, kind, identity⟩ := readToken_eq_ok read
  refine ⟨typed.access _ (Value.require_eq_ok_iff.mp access), ?_, expiry, ?_, ?_⟩
  · rw [renewal, orElse_eq_renewalAfter typed, renewalAfter]
    split
    · split
      · exact ⟨_, rfl⟩
      · exact ⟨_, rfl⟩
    · exact ⟨_, rfl⟩
  · rw [kind, Value.getOr]
    cases given : answer.get? "token_type" with
    | none => exact ⟨_, rfl, by decide⟩
    | some w => exact typed.kind w given
  · rw [identity, Value.getOr]
    cases given : answer.get? "id_token" with
    | none => exact .inl rfl
    | some w => exact typed.identity w given

/-! ### Asking for a token -/

variable {a : Authenticator} {s t : Session}

/-- An action on the files that succeeds changes nothing else. -/
theorem onFiles_of_done {ε δ α : Type} {x : Action Files ε α} {files : Files} {given : α}
    (done : x s.files = .done given files) (f : ε → δ) :
    ((Session.onFiles x).mapError f) s = .done given { s with files } := by
  rw [mapError, Session.onFiles, within, done]
  rfl

/-- A token has been granted: the service answers a request with it, and it is saved. -/
def Granted (a : Authenticator) (s : Session) (renewal : Value) (token : Token) (t : Session) : Prop :=
  ∃ pairs answer saved, s.Tells (.submit tokenEndpoint pairs) answer ∧
    Authenticator.readToken answer (s.sent (.submit tokenEndpoint pairs)).now renewal = .ok token ∧
    a.store.save token s.files = .done () saved ∧ t = { s.sent (.submit tokenEndpoint pairs) with files := saved }

/-- **Asking for a token** either fails and leaves all but the requests as it was, or a token is granted. -/
theorem comesTo_obtain (writable : a.store.Writable s.files) (purpose : Purpose) (form : List (String × String))
    (renewal : Value) :
    ComesTo (a.obtain purpose form renewal) s fun o t =>
      (∃ e requests, o = .error e ∧ t = { s with requests }) ∨
        ∃ token, o = .ok token ∧ Granted a s renewal token t := by
  refine (comesTo_asked a purpose form renewal s).mono ?_
  rintro o t (_ | ⟨answer, unsaved⟩ | ⟨answer, -⟩)
  · exact .inl ⟨_, _, rfl, rfl⟩
  · rename_i token _
    obtain ⟨_, _, done, -, -⟩ := Store.exists_saved writable token
    rw [done] at unsaved
    cases unsaved
  · rename_i pairs token
    obtain ⟨r, v, response, status, json, read⟩ := given_eq_ok_iff.mp answer
    obtain ⟨saved, _, done, -, -⟩ := Store.exists_saved writable token
    refine .inr ⟨token, rfl, pairs, v, saved, ⟨r, response, status, json⟩, read, done, ?_⟩
    rw [done]
    rfl

/-- The renewal token of a token that is renewed; where none is, an empty one. -/
def renewalOf : Option Token → Value
  | some old => old.renewal
  | none => .str ""

/-- What a call that may ask for a token, perhaps in the place of an old one, comes to.  Either none is granted, and if
it gives one all the same it has not asked for it; or the old one can be renewed, and the call gives what is granted. -/
def Turn (a : Authenticator) (s : Session) (old : Option Token) (o : Except Error (Option Token)) (t : Session) :
    Prop :=
  (∃ requests, t = { s with requests } ∧ ∀ token, o = .ok (some token) → requests = s.requests) ∨
    (∀ token, old = some token → token.renewal.truthy = true) ∧
      ∃ token, o = .ok (some token) ∧ Granted a s (renewalOf old) token t

/-- A token that has been obtained is given, with a note that is of no account. -/
theorem turn_obtain (writable : a.store.Writable s.files) (purpose : Purpose) (form : List (String × String))
    (old : Option Token) (renewable : ∀ token, old = some token → token.renewal.truthy = true) (level : Level)
    (message : String) :
    ComesTo (do
      let token ← a.obtain purpose form (renewalOf old)
      Action.note level message
      return token) s fun o t => Turn a s old (o.map some) t := by
  refine (comesTo_obtain writable purpose form (renewalOf old)).bind ?_ ?_
  · rintro token t (⟨e, requests, failed, -⟩ | ⟨_, ⟨⟩, granted⟩)
    · cases failed
    · refine ComesTo.andThen rfl ?_
      exact .inr ⟨renewable, token, rfl, granted⟩
  · rintro e t (⟨_, requests, -, rfl⟩ | ⟨_, ⟨⟩, -⟩)
    exact .inl ⟨requests, rfl, nofun⟩

theorem turn_exchange (writable : a.store.Writable s.files) (code : Value) :
    ComesTo (a.exchange code) s fun o t => Turn a s none (o.map some) t :=
  turn_obtain writable .exchange _ none nofun _ _

theorem turn_refresh (writable : a.store.Writable s.files) (token : Token) :
    ComesTo (a.refresh token) s fun o t => Turn a s (some token) (o.map some) t := by
  unfold Authenticator.refresh
  split
  · rename_i renewable
    refine turn_obtain writable .refresh _ (some token) ?_ _ _
    rintro _ ⟨⟩
    exact renewable
  · exact .inl ⟨s.requests, rfl, nofun⟩

/-- What gives a token may as well give one or none. -/
theorem turn_some {old : Option Token} {x : Action Session Error Token}
    (turn : ComesTo x s fun o t => Turn a s old (o.map some) t) : ComesTo (do return some (← x)) s (Turn a s old) :=
  turn.bind (fun _ _ turn => turn) fun _ _ turn => turn

theorem stored_of_load {held : Option Token} (loaded : a.store.load s.files = .done held s.files) :
    a.stored s = .done held s :=
  onFiles_of_done loaded _

/-- **The token in the file**, if there is one, is given as it is, or renewed. -/
theorem turn_current (writable : a.store.Writable s.files) {held : Option Token}
    (loaded : a.store.load s.files = .done held s.files) : ComesTo a.current s (Turn a s held) := by
  unfold Authenticator.current
  refine ComesTo.done (stored_of_load loaded) ?_
  cases held with
  | none => exact .inl ⟨s.requests, rfl, nofun⟩
  | some token =>
      refine ComesTo.done (a := s) rfl ?_
      cases token.isExpired s.now leeway with
      | error e => exact .inl ⟨s.requests, rfl, nofun⟩
      | ok expired =>
          refine ComesTo.done (a := expired) rfl ?_
          cases expired with
          | false => exact .inl ⟨s.requests, rfl, fun _ _ => rfl⟩
          | true => exact turn_some (turn_refresh writable token)

/-- **Signing out** clears the file and leaves the rest as it was but for the requests. -/
theorem comesTo_signOut {held : Option Token} (loaded : a.store.load s.files = .done held s.files)
    {cleared : Files} (done : a.store.clear s.files = .done () cleared) :
    ComesTo a.signOut s fun _ t => ∃ requests, t = { s with requests, files := cleared } := by
  have clears (requests : List Request) :
      ComesTo ((Session.onFiles a.store.clear).mapError Error.store) { s with requests } fun _ t =>
        ∃ requests, t = { s with requests, files := cleared } :=
    ComesTo.of_done (onFiles_of_done (s := { s with requests }) done _) ⟨requests, rfl⟩
  unfold Authenticator.signOut
  refine ComesTo.done (stored_of_load loaded) ?_
  cases held with
  | none => exact clears s.requests
  | some token =>
      refine ComesTo.andThen rfl ?_
      -- whether the service is reached or not, the file is cleared
      split
      · exact ComesTo.andThen rfl (clears _)
      · exact clears _

/-! ### Calls in a row -/

/-- What can be done with an authenticator; in between time can pass, after which the clock shows what it will. -/
inductive Call where
  | exchange (code : Value)
  | refresh (token : Token)
  | current
  | signOut
  | wait (clock : Number) (passage : List Request → Number → Number)

namespace Call

/-- What a call does.  It gives a token or none. -/
def perform (a : Authenticator) : Call → Action Session Error (Option Token)
  | .exchange code => do return some (← a.exchange code)
  | .refresh token => do return some (← a.refresh token)
  | .current => a.current
  | .signOut => do
    a.signOut
    return none
  | .wait clock passage => do
    Action.modify fun s => { s with clock, passage }
    return none

/-- A token that is to be renewed has a text as its renewal token. -/
def IsProper : Call → Prop
  | .refresh token => ∃ text, token.renewal = .str text
  | _ => True

end Call

/-- The token that a call has obtained: the one that it gives, if it has sent a request. -/
def obtained? (s : Session) (o : Except Error (Option Token)) (t : Session) : Option Token :=
  match o with
  | .ok (some token) => if t.requests = s.requests then none else some token
  | _ => none

theorem obtained?_of_turn {old : Option Token} {o : Except Error (Option Token)} (turn : Turn a s old o t) :
    ((∃ requests, t = { s with requests }) ∧ obtained? s o t = none) ∨
      (∀ token, old = some token → token.renewal.truthy = true) ∧
        ∃ token, obtained? s o t = some token ∧ Granted a s (renewalOf old) token t := by
  obtain ⟨requests, rfl, unasked⟩ | ⟨renewable, token, rfl, granted⟩ := turn
  · refine .inl ⟨⟨requests, rfl⟩, ?_⟩
    unfold obtained?
    split
    · exact if_pos (unasked _ rfl)
    · rfl
  · refine .inr ⟨renewable, token, ?_, granted⟩
    obtain ⟨pairs, answer, saved, -, -, -, rfl⟩ := granted
    exact if_neg (List.cons_ne_self _ _)

/-- A session, and the token that has been obtained last since the user signed out. -/
structure Course where
  session : Session
  held : Option Token

namespace Course

/-- The token that a call obtains. -/
def obtains? (a : Authenticator) (c : Course) (call : Call) : Option Token :=
  obtained? c.session (call.perform a c.session).outcome (call.perform a c.session).state

/-- The course after a call. -/
def next (a : Authenticator) (c : Course) (call : Call) : Course where
  session := (call.perform a c.session).state
  held := match call with
    | .signOut => none
    | _ => (c.obtains? a call).or c.held

/-- The course after calls in a row. -/
def run (a : Authenticator) (calls : List Call) (c : Course) : Course :=
  calls.foldl (next a) c

/-- The token file holds the token that has been obtained last, a token of texts; it can be written, and the service
hands out tokens. -/
structure Holds (a : Authenticator) (c : Course) : Prop where
  writable : a.store.Writable c.session.files
  loaded : a.store.load c.session.files = .done c.held c.session.files
  isText : ∀ token, c.held = some token → token.IsText
  grants : Grants c.session.server

namespace Holds

variable {c : Course}

/-- A token that has been granted is in the file. -/
theorem granted (holds : c.Holds a) {before : String} {token : Token}
    (granted : Granted a c.session (.str before) token t) : Holds a ⟨t, some token⟩ := by
  obtain ⟨pairs, answer, saved, ⟨r, answered, success, json⟩, read, done, rfl⟩ := granted
  have isText := isText_of_readToken (holds.grants _ _ _ _ answered success json) read
  -- the tree into which the call has saved is the one of which it is known what it holds
  obtain ⟨saved', place, done', there, writable⟩ := Store.exists_saved holds.writable token
  have same : saved = saved' := congrArg (fun x => x.state) (done.symm.trans done')
  subst same
  exact
    { writable
      loaded := Store.load_of_locate there isText
      isText := by rintro _ ⟨⟩; exact isText
      grants := holds.grants }

/-- A call that may ask for a token keeps the file in step. -/
theorem of_turn (holds : c.Holds a) {old : Option Token} {o : Except Error (Option Token)}
    (texts : ∀ token, old = some token → ∃ before, token.renewal = .str before) (turn : Turn a c.session old o t) :
    Holds a ⟨t, (obtained? c.session o t).or c.held⟩ := by
  obtain ⟨⟨requests, rfl⟩, none⟩ | ⟨-, token, some, granted⟩ := obtained?_of_turn turn
  · rw [none]
    exact { holds with }
  · obtain ⟨before, text⟩ : ∃ before, renewalOf old = .str before := by
      cases old with
      | none => exact ⟨"", rfl⟩
      | some token => exact texts token rfl
    rw [text] at granted
    rw [some]
    exact holds.granted granted

/-- **A call keeps what the token file holds in step** with the token that has been obtained last. -/
theorem next (holds : c.Holds a) {call : Call} (proper : call.IsProper) : (c.next a call).Holds a := by
  cases call with
  | exchange code =>
      refine holds.of_turn ?_ (turn_some (turn_exchange holds.writable code))
      nofun
  | refresh token =>
      refine holds.of_turn ?_ (turn_some (turn_refresh holds.writable token))
      rintro _ ⟨⟩
      exact proper
  | current =>
      -- the token that is renewed comes from the file, so it has a text as its renewal token
      exact holds.of_turn (fun token held => (holds.isText token held).renewal)
        (turn_current holds.writable holds.loaded)
  | signOut =>
      obtain ⟨cleared, done, loaded, writable⟩ := Store.load_clear holds.writable
      have signedOut : ComesTo (Call.signOut.perform a) c.session fun _ t =>
          ∃ requests, t = { c.session with requests, files := cleared } :=
        (comesTo_signOut holds.loaded done).bind (fun _ _ left => left) fun _ _ left => left
      obtain ⟨requests, left⟩ := signedOut
      have next : c.next a .signOut = ⟨{ c.session with requests, files := cleared }, none⟩ :=
        congrArg (Course.mk · none) left
      rw [next]
      exact { writable, loaded, isText := nofun, grants := holds.grants }
  | wait clock passage => exact { holds with }

theorem run (holds : c.Holds a) {calls : List Call} (proper : ∀ call ∈ calls, call.IsProper) :
    (c.run a calls).Holds a := by
  induction calls generalizing c with
  | nil => exact holds
  | cons call calls ih =>
      exact ih (holds.next (proper call List.mem_cons_self)) fun later mem => proper later (List.mem_cons_of_mem _ mem)

end Holds

end Course

end Auth

end EditHistory
