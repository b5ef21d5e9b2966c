import EditHistory.Auth.Authenticator
import EditHistory.Proofs.Actions
import EditHistory.Proofs.Files.Names
import EditHistory.Proofs.Value.Field

/-!
# Asking for a token

Whatever the service answers, a call that asks for a token sends one request, and the answer decides how it ends.  If no
answer comes or the answer says no, the error is one about signing in.  An answer that says yes need not give a token,
and the errors that it leads to then are of other kinds.  In none of these cases a file is changed: the token is saved
only after it has been read.

## Main definitions

* `told`, `given` — what an answer says, and the token that it gives
* `NoToken`, `Malformed` — answers that say yes and give no token
* `Denied` — the answers that give no token
* `Asked` — what asking for a token comes to
* `Ends` — how a call that asks for a token ends

## Main statements

* `Store.save_eq_error` — saving fails only where the path names no file
* `readToken_eq_error_iff` — the data that give no token
* `given_eq_error_iff` — the answers that give no token
* `comesTo_asked` — asking for a token
* `ends_exchange_refresh` — how the two calls end, for any answer
-/

namespace EditHistory

open Web EditHistory.Action Number

namespace Session

/-- The session after a request. -/
def sent (s : Session) (request : Request) : Session := { s with requests := request :: s.requests }

end Session

namespace Auth

/-! ### Saving fails -/

namespace Store

variable {store : Store} {files : Files} {token : Token}

theorem write_ne_nul (sound : store.path.hasNul = false) (token : Token) (files : Files) :
    (store.write token files).1 ≠ some .nul := by
  have beside : store.draft.hasNul = false := Path.sound_withSuffix sound (by decide)
  have made : (files.makeDirs store.path.parent).1 ≠ some .nul := Files.makeDirs_ne_nul (Path.sound_parent sound)
  unfold write
  split
  · rename_i fault _ failed
    rintro ⟨⟩
    rw [failed] at made
    exact made rfl
  · rename_i made _
    have drafted : made.writeText store.draft (tokenText token) ≠ .error .nul := Files.writeText_ne_nul beside _
    split
    · rename_i fault failed
      rintro ⟨⟩
      exact drafted failed
    · rename_i written _
      have moved : written.replace store.draft store.path ≠ .error .nul := Files.replace_ne_nul beside sound
      split
      · rename_i fault failed
        rintro ⟨⟩
        exact moved failed
      · nofun

/-- **Saving fails** only where the path names no file; then the file is as it was. -/
theorem save_eq_error {error : PathError} (failed : (store.save token files).outcome = .error error) :
    (store.path.name = "" ∨ store.path.hasNul = true) ∧
      (store.save token files).state.read store.path = files.read store.path ∧
      (store.path.hasNul = false → (store.save token files).state = files) := by
  by_cases nameless : store.path.name = ""
  · have same : (store.save token files).state = files := by rw [save, if_pos nameless]; rfl
    exact ⟨.inl nameless, by rw [same], fun _ => same⟩
  · have nul : store.path.hasNul = true := by
      by_contra sound
      have written := write_ne_nul (Bool.eq_false_iff.mpr sound) token files
      rw [save, if_neg nameless] at failed
      split at failed
      · cases failed
      · rename_i wrote
        rw [wrote] at written
        exact written rfl
      · cases failed
    refine ⟨.inr nul, ?_, fun sound => ?_⟩
    · rw [Files.read_of_hasNul nul, Files.read_of_hasNul nul]
    · rw [nul] at sound
      cases sound

end Store

/-! ### What an answer comes to -/

/-- What an answer to a request for a token comes to, before the token is read. -/
def told (purpose : Purpose) : Answer → Except Error Value
  | .failure reason => .error (.unreachable purpose reason)
  | .response r => if r.status = 200 then r.json.mapError .notJson else .error (.refused purpose r.status)

/-- Data that give no token, and the error that they lead to: there is no access token, or the time for which the token
is to last is no number or too large, or the clock shows a time that is too large. -/
inductive NoToken (v : Value) (now : Number) : Error → Prop
  | noAccess {error : FieldError} (access : v.require "access_token" = .error error) : NoToken v now (.field error)
  | badDuration {w : Value} {error : DoubleError} (access : v.require "access_token" = .ok w)
      (duration : (v.getOr "expires_in" (.int 3600)).toDouble = .error error) : NoToken v now (.duration error)
  | lateClock {w : Value} {x : Float} {n : Int} (access : v.require "access_token" = .ok w)
      (duration : (v.getOr "expires_in" (.int 3600)).toDouble = .ok x) (clock : now = .int n)
      (late : overflow ≤ n.natAbs) : NoToken v now .outOfRange

/-- An answer that says yes and gives no token, and the error that it leads to. -/
inductive Malformed (r : Response) (now : Number) : Error → Prop
  | notJson {error : Json.EncodedError} (json : r.json = .error error) : Malformed r now (.notJson error)
  | noToken {v : Value} {e : Error} (json : r.json = .ok v) (none : NoToken v now e) : Malformed r now e

/-- An answer that gives no token, and the error that it leads to: none comes, it says no, or it is malformed. -/
inductive Denied (purpose : Purpose) (now : Number) : Answer → Error → Prop
  | unreachable {reason : String} : Denied purpose now (.failure reason) (.unreachable purpose reason)
  | refused {r : Response} (status : r.status ≠ 200) :
      Denied purpose now (.response r) (.refused purpose r.status)
  | malformed {r : Response} {e : Error} (status : r.status = 200) (malformed : Malformed r now e) :
      Denied purpose now (.response r) e

theorem add?_float_eq_none_iff (now : Number) (x : Float) :
    now.add? (.float x) = none ↔ ∃ n, now = .int n ∧ overflow ≤ n.natAbs := by
  cases now with
  | int n =>
      simp only [Number.int.injEq, exists_eq_left', ← ofInt?_eq_none_iff]
      rw [Number.add?]
      · show ((ofInt? n).bind fun y => some (Number.float (y + x))) = none ↔ _
        cases ofInt? n <;> simp
      · rintro _ _ _ ⟨⟩
  | float y => exact iff_of_false nofun nofun

/-- **The data that give no token.** -/
theorem readToken_eq_error_iff {v : Value} {now : Number} {renewal : Value} {e : Error} :
    Authenticator.readToken v now renewal = .error e ↔ NoToken v now e := by
  constructor
  · intro failed
    unfold Authenticator.readToken at failed
    split at failed
    · rename_i access
      cases failed
      exact .noAccess access
    · rename_i access
      split at failed
      · rename_i duration
        cases failed
        exact .badDuration access duration
      · rename_i duration
        split at failed
        · rename_i sum
          cases failed
          obtain ⟨n, clock, late⟩ := (add?_float_eq_none_iff _ _).mp sum
          exact .lateClock access duration clock late
        · cases failed
  · rintro (access | ⟨access, duration⟩ | ⟨access, duration, clock, late⟩)
    · simp only [Authenticator.readToken, access]
    · simp only [Authenticator.readToken, access, duration]
    · have sum (x : Float) := (add?_float_eq_none_iff now x).mpr ⟨_, clock, late⟩
      simp only [Authenticator.readToken, access, duration, sum]

/-- The token that an answer gives, or the error that it leads to. -/
def given (purpose : Purpose) (renewal : Value) (answer : Answer) (now : Number) : Except Error Token :=
  (told purpose answer).bind fun v => Authenticator.readToken v now renewal

variable {purpose : Purpose} {renewal : Value} {answer : Answer} {r : Response} {now : Number} {e : Error}

theorem told_of_success (status : r.status = 200) : told purpose (.response r) = r.json.mapError .notJson :=
  if_pos status

theorem told_of_failure (status : r.status ≠ 200) :
    told purpose (.response r) = .error (.refused purpose r.status) :=
  if_neg status

theorem told_eq_ok_iff {v : Value} :
    told purpose answer = .ok v ↔ ∃ r, answer = .response r ∧ r.status = 200 ∧ r.json = .ok v := by
  constructor
  · intro yes
    cases answer with
    | failure reason => cases yes
    | response r =>
        by_cases status : r.status = 200
        · rw [told_of_success status] at yes
          cases json : r.json with
          | error error =>
              rw [json] at yes
              cases yes
          | ok w =>
              rw [json] at yes
              cases yes
              exact ⟨r, rfl, status, json⟩
        · rw [told_of_failure status] at yes
          cases yes
  · rintro ⟨r, rfl, status, json⟩
    rw [told_of_success status, json]
    rfl

theorem given_eq_ok_iff {token : Token} : given purpose renewal answer now = .ok token ↔
    ∃ r v, answer = .response r ∧ r.status = 200 ∧ r.json = .ok v ∧
      Authenticator.readToken v now renewal = .ok token := by
  constructor
  · intro got
    cases yes : told purpose answer with
    | error e =>
        rw [given, yes] at got
        cases got
    | ok v =>
        rw [given, yes] at got
        obtain ⟨r, response, status, json⟩ := told_eq_ok_iff.mp yes
        exact ⟨r, v, response, status, json, got⟩
  · rintro ⟨r, v, rfl, status, json, read⟩
    rw [given, told_of_success status, json]
    exact read

/-- **An answer that says yes** gives no token if and only if it is malformed. -/
theorem given_eq_error_iff_malformed (status : r.status = 200) :
    given purpose renewal (.response r) now = .error e ↔ Malformed r now e := by
  rw [given, told_of_success status]
  cases json : r.json with
  | error error =>
      refine ⟨?_, ?_⟩
      · rintro ⟨⟩
        exact .notJson json
      · rintro (same | ⟨same, -⟩)
        · rw [json] at same
          cases same
          rfl
        · rw [json] at same
          cases same
  | ok v =>
      refine ⟨fun failed => .noToken json (readToken_eq_error_iff.mp failed), ?_⟩
      rintro (same | ⟨same, none⟩)
      · rw [json] at same
        cases same
      · rw [json] at same
        cases same
        exact readToken_eq_error_iff.mpr none

/-- **The answers that give no token.** -/
theorem given_eq_error_iff : given purpose renewal answer now = .error e ↔ Denied purpose now answer e := by
  constructor
  · intro failed
    cases answer with
    | failure reason =>
        cases failed
        exact .unreachable
    | response r =>
        by_cases status : r.status = 200
        · exact .malformed status ((given_eq_error_iff_malformed status).mp failed)
        · rw [given, told_of_failure status] at failed
          cases failed
          exact .refused status
  · rintro (_ | status | ⟨status, malformed⟩)
    · rfl
    · rw [given, told_of_failure status]
      rfl
    · exact (given_eq_error_iff_malformed status).mpr malformed

/-- The error that a malformed answer leads to is none about signing in. -/
theorem Malformed.not_isExpected (malformed : Malformed r now e) : e.isExpected = false := by
  obtain _ | ⟨-, none⟩ := malformed
  · rfl
  · cases none <;> rfl

/-- The error is one about signing in unless the answer says yes. -/
theorem Denied.isExpected_iff (denied : Denied purpose now answer e) :
    e.isExpected = true ↔ ∀ r, answer = .response r → r.status ≠ 200 := by
  cases denied with
  | unreachable => exact iff_of_true rfl nofun
  | refused status => exact iff_of_true rfl (by rintro _ ⟨⟩; exact status)
  | malformed status malformed =>
      refine iff_of_false ?_ fun no => no _ rfl status
      rw [malformed.not_isExpected]
      decide

/-! ### What is asked, and what comes of it -/

variable {a : Authenticator} {s t : Session} {o : Except Error Token}

/-- **A request for a token** sends one form, and comes to what the answer says. -/
theorem comesTo_told (a : Authenticator) (purpose : Purpose) (form : List (String × String)) (s : Session) :
    ComesTo (a.request purpose form) s fun o t => ∃ pairs, t = s.sent (.submit tokenEndpoint pairs) ∧
      o = told purpose (s.server s.requests (.submit tokenEndpoint pairs)) := by
  unfold Authenticator.request
  refine ComesTo.andThen rfl ?_
  generalize form ++ _ = pairs
  split
  · rename_i answered
    exact ⟨pairs, rfl, by rw [answered]; rfl⟩
  · rename_i r answered
    split
    · rename_i success
      exact ⟨pairs, rfl, by rw [answered, told_of_success success]; rfl⟩
    · rename_i failure
      exact ⟨pairs, rfl, by rw [answered, told_of_failure failure]; rfl⟩

/-- What asking for a token comes to: an error before anything is saved, a token that cannot be saved, or a token that
is saved. -/
inductive Asked (a : Authenticator) (purpose : Purpose) (renewal : Value) (s : Session) :
    Except Error Token → Session → Prop
  | failed {pairs : List (String × String)} {e : Error}
      (answer : given purpose renewal (s.server s.requests (.submit tokenEndpoint pairs))
        (s.sent (.submit tokenEndpoint pairs)).now = .error e) :
      Asked a purpose renewal s (.error e) (s.sent (.submit tokenEndpoint pairs))
  | unsaved {pairs : List (String × String)} {token : Token} {error : Store.PathError}
      (answer : given purpose renewal (s.server s.requests (.submit tokenEndpoint pairs))
        (s.sent (.submit tokenEndpoint pairs)).now = .ok token)
      (saved : (a.store.save token s.files).outcome = .error error) :
      Asked a purpose renewal s (.error (.store error))
        { s.sent (.submit tokenEndpoint pairs) with files := (a.store.save token s.files).state }
  | saved {pairs : List (String × String)} {token : Token}
      (answer : given purpose renewal (s.server s.requests (.submit tokenEndpoint pairs))
        (s.sent (.submit tokenEndpoint pairs)).now = .ok token)
      (saved : (a.store.save token s.files).outcome = .ok ()) :
      Asked a purpose renewal s (.ok token)
        { s.sent (.submit tokenEndpoint pairs) with files := (a.store.save token s.files).state }

/-- **Asking for a token.** -/
theorem comesTo_asked (a : Authenticator) (purpose : Purpose) (form : List (String × String)) (renewal : Value)
    (s : Session) : ComesTo (a.obtain purpose form renewal) s (Asked a purpose renewal s) := by
  unfold Authenticator.obtain
  refine (comesTo_told a purpose form s).bind ?_ ?_
  · rintro v _ ⟨pairs, rfl, answered⟩
    have answer : given purpose renewal (s.server s.requests (.submit tokenEndpoint pairs))
        (s.sent (.submit tokenEndpoint pairs)).now =
          Authenticator.readToken v (s.sent (.submit tokenEndpoint pairs)).now renewal := by
      rw [given, ← answered]
      rfl
    refine ComesTo.andThen rfl ?_
    cases read : Authenticator.readToken v (s.sent (.submit tokenEndpoint pairs)).now renewal with
    | error e => exact .failed (answer.trans read)
    | ok token =>
        refine ComesTo.andThen rfl ?_
        cases saved : (a.store.save token s.files).outcome with
        | error error =>
            refine ComesTo.ended (congrArg (Except.mapError Error.store) saved) ?_
            exact .unsaved (answer.trans read) saved
        | ok done =>
            refine ComesTo.andThen (congrArg (Except.mapError Error.store) saved) ?_
            exact .saved (answer.trans read) saved
  · rintro e _ ⟨pairs, rfl, answered⟩
    refine .failed ?_
    rw [given, ← answered]
    rfl

/-- How a call that asks for a token ends, given the answer: what it gives, and what it leaves behind. -/
structure Ends (a : Authenticator) (purpose : Purpose) (renewal : Value) (s : Session) (answer : Answer)
    (o : Except Error Token) (t : Session) : Prop where
  /-- One form is sent to the service, which answers it. -/
  asked : ∃ pairs, t.requests = .submit tokenEndpoint pairs :: s.requests ∧
    s.server s.requests (.submit tokenEndpoint pairs) = answer
  /-- An answer that gives no token leads to its error. -/
  denied : ∀ e, Denied purpose t.now answer e → o = .error e
  /-- Any other answer gives a token, which can be kept unless the token file has no name that a file can have. -/
  granted : (∀ e, ¬ Denied purpose t.now answer e) → ∃ token, given purpose renewal answer t.now = .ok token ∧
    (o = .ok token ∨
      (∃ error, o = .error (.store error)) ∧ (a.store.path.name = "" ∨ a.store.path.hasNul = true))
  /-- An error is one about signing in unless the answer says yes. -/
  expected : ∀ e, o = .error e → (e.isExpected = true ↔ ∀ r, answer = .response r → r.status ≠ 200)
  /-- With an error the token file is as it was. -/
  kept : ∀ e, o = .error e → t.files.read a.store.path = s.files.read a.store.path
  /-- With an error all files are as they were, unless the token file has no name that a file can have. -/
  unchanged : ∀ e, o = .error e → a.store.path.hasNul = false → t.files = s.files

/-- **Asking for a token ends** in one of the three ways. -/
theorem Asked.ends (asked : Asked a purpose renewal s o t) : ∃ answer, Ends a purpose renewal s answer o t := by
  cases asked with
  | failed answer =>
      have known := given_eq_error_iff.mp answer
      refine ⟨_,
        { asked := ⟨_, rfl, rfl⟩
          denied := fun e denied => ?_
          granted := fun granted => absurd known (granted _)
          expected := ?_
          kept := fun _ _ => rfl
          unchanged := fun _ _ _ => rfl }⟩
      · exact answer.symm.trans (given_eq_error_iff.mpr denied) ▸ rfl
      · rintro _ ⟨⟩
        exact known.isExpected_iff
  | unsaved answer saved =>
      obtain ⟨unnamed, kept, unchanged⟩ := Store.save_eq_error saved
      refine ⟨_,
        { asked := ⟨_, rfl, rfl⟩
          denied := fun e denied => ?_
          granted := fun _ => ⟨_, answer, .inr ⟨⟨_, rfl⟩, unnamed⟩⟩
          expected := ?_
          kept := fun _ _ => kept
          unchanged := fun _ _ => unchanged }⟩
      · cases answer.symm.trans (given_eq_error_iff.mpr denied)
      · rintro _ ⟨⟩
        -- The token has been read, so the answer says yes; but the error is one about the path.
        obtain ⟨r, v, response, status, -⟩ := given_eq_ok_iff.mp answer
        exact iff_of_false Bool.false_ne_true fun no => no r response status
  | saved answer saved =>
      refine ⟨_,
        { asked := ⟨_, rfl, rfl⟩
          denied := fun e denied => ?_
          granted := fun _ => ⟨_, answer, .inl rfl⟩
          expected := nofun
          kept := nofun
          unchanged := nofun }⟩
      cases answer.symm.trans (given_eq_error_iff.mpr denied)

end Auth

end EditHistory
