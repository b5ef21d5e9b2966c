import EditHistory.Proofs.Docs.Requests

/-!
# Requests with tokens from a script

A client that takes its tokens in turn from a script asks for parts of the log of a document.  What comes of each
request is told by the token of the moment, by the range that is asked for and by the answer of the service, which may
depend on the requests before.  Nothing else happens between the first request and the last one, and nothing is sent
without a token or to an address that cannot be sent.

## Main definitions

* `Client.Follows` — a client that takes its tokens from a script
* `refusal?` — why a part of the log is not asked for, if it is not
* `Reply`, `Reply.Gives` — what comes back, and what it means
* `Reply.IsFatal` — the service has not answered
* `Turn`, `Course` — one request, and requests in turn

## Main statements

* `refusal?_cases`, `refusal?_eq_some`, `refusal?_of_long` — which parts of the log are not asked for
* `Client.follows_ofCredentials` — the script of prepared credentials
* `comesTo_revisionData_of_follows` — a request for a part of the log is a turn
-/

namespace EditHistory.Docs

open Web Client

/-- A client that takes its tokens in turn from a script, which has none where nobody is signed in. -/
structure Client.Follows (client : Client) (script : Nat → Option String) : Prop where
  none : ∀ s, script s.asked = none → client.token s = .failed .signedOut { s with asked := s.asked + 1 }
  some : ∀ s token, script s.asked = some token → client.token s = .done token { s with asked := s.asked + 1 }

/-- The script of prepared credentials, the last of which is used again and again. -/
def scriptOf (credentials : List (Option Credential)) (n : Nat) : Option String :=
  (credentials[n]?.or credentials.getLast?).join.bind Credential.text?

theorem Client.follows_ofCredentials (credentials : List (Option Credential)) :
    (Client.ofCredentials credentials).Follows (scriptOf credentials) := by
  constructor
  · intro s none
    unfold scriptOf at none
    simp only [Client.token, Client.ofCredentials, Action.bind_apply, Step.andThen, Action.get, Step.done,
      Action.pure_apply, Action.modify, none, Action.fail, Step.failed, List.append_nil]
  · intro s token some
    unfold scriptOf at some
    simp only [Client.token, Client.ofCredentials, Action.bind_apply, Step.andThen, Action.get, Step.done,
      Action.pure_apply, Action.modify, some, List.append_nil]

/-- What holds of the texts of all credentials holds of the whole script. -/
theorem scriptOf_forall {credentials : List (Option Credential)} {p : String → Prop}
    (texts : ∀ c ∈ credentials, ∀ text, c.bind Credential.text? = some text → p text) (n : Nat) (token : String)
    (given : scriptOf credentials n = some token) : p token := by
  unfold scriptOf at given
  cases chosen : credentials[n]?.or credentials.getLast? with
  | none =>
      rw [chosen] at given
      cases given
  | some c =>
      rw [chosen] at given
      refine texts c ?_ token given
      rcases Option.or_eq_some_iff.mp chosen with here | ⟨-, final⟩
      · exact List.mem_of_getElem? here
      · exact List.mem_of_getLast? final

/-! ### What is not asked for -/

/-- Why a range of the log is not asked for, if it is not: the address cannot be sent, or a number is too long. -/
def refusal? (doc : String) (start stop : Int) : Option Error :=
  if isSendable (logUrl doc).toList = false then some .unsendableAddress
  else if isTooLong start = true ∨ isTooLong stop = true then some .indexTooLong
  else if (located (logUrl doc) (rangeQuery doc start stop)).fits = false then some .unsendableAddress
  else none

variable {doc : String}

/-- What is not asked for has a number that is too long, or the document is none that can be asked for. -/
theorem refusal?_cases {start stop : Int} {e : Error} (refused : refusal? doc start stop = some e) :
    e = .unsendableAddress ∧ ¬ IsAddressable doc ∨
      e = .indexTooLong ∧ (isTooLong start = true ∨ isTooLong stop = true) := by
  unfold refusal? at refused
  split at refused
  next unsendable =>
    refine Or.inl ⟨(Option.some.inj refused).symm, fun addressable => ?_⟩
    rw [addressable.sendable] at unsendable
    cases unsendable
  next =>
    split at refused
    next numbers => exact Or.inr ⟨(Option.some.inj refused).symm, numbers⟩
    next numbers =>
      simp only [not_or, Bool.not_eq_true] at numbers
      split at refused
      next unfit =>
        refine Or.inl ⟨(Option.some.inj refused).symm, fun addressable => ?_⟩
        rw [addressable.fits start stop numbers.1 numbers.2] at unfit
        cases unfit
      next => cases refused

/-- Of a document with an id made of id characters a range is asked for, unless the id or one of the numbers is too
long. -/
theorem refusal?_eq_some (chars : ∀ c ∈ doc.toList, isIdChar c = true) {start stop : Nat} {e : Error}
    (refused : refusal? doc start stop = some e) :
    e = .unsendableAddress ∧ idLimit < doc.toList.length ∨
      e = .indexTooLong ∧ (indexLimit ≤ start ∨ indexLimit ≤ stop) := by
  have long {n : Nat} (tooLong : isTooLong n = true) : indexLimit ≤ n := by
    refine Nat.le_of_not_lt fun written => ?_
    rw [isTooLong_natCast written] at tooLong
    cases tooLong
  rcases refusal?_cases refused with ⟨kind, unaddressable⟩ | ⟨kind, numbers⟩
  · exact Or.inl ⟨kind, Nat.lt_of_not_le fun short => unaddressable (IsPlainId.isAddressable ⟨chars, short⟩)⟩
  · exact Or.inr ⟨kind, numbers.imp long long⟩

/-- Of a document with an id that is longer than an address may be nothing is asked for. -/
theorem refusal?_of_long (long : addressLimit < doc.toList.length) (start stop : Int) :
    refusal? doc start stop = some .unsendableAddress := by
  have unsendable : isSendable (logUrl doc).toList = false := by
    have longer : ¬ (logUrl doc).toList.length ≤ addressLimit := by
      rw [toList_logUrl, List.length_append, length_logPath]
      omega
    rw [isSendable, decide_eq_false longer, Bool.false_and]
  rw [refusal?, if_pos unsendable]

/-! ### What comes back -/

/-- What comes of asking for a part of the log. -/
inductive Reply where
  /-- There is no token. -/
  | noToken
  /-- The request cannot be sent. -/
  | refused (e : Error)
  /-- The request is sent, and this is the answer. -/
  | answered (answer : Answer)

/-- **What a reply means**: a part of the log or an error. -/
inductive Reply.Gives : Reply → Except Error Value → Prop
  | noToken : Gives .noToken (.error .signedOut)
  | refused (e : Error) : Gives (.refused e) (.error e)
  | offline (reason : String) :
      Gives (.answered (.failure reason)) (.error (.failed 0 ("Request failed: " ++ reason)))
  | unsuccessful (r : Response) (status : isSuccess r.status = false) :
      Gives (.answered (.response r)) (.error (.failed r.status (failureText r)))
  | malformed (r : Response) (e : Json.Error) (status : isSuccess r.status = true) (body : readLog r = .error e) :
      Gives (.answered (.response r)) (.error (.failed r.status ("Malformed revision data: " ++ e.message)))
  | part (r : Response) (v : Value) (status : isSuccess r.status = true) (body : readLog r = .ok v) :
      Gives (.answered (.response r)) (.ok v)

/-- There is no answer of the service: no request was sent, or nothing came back.  An answer with the status zero, which
no service gives, counts as none. -/
def Reply.IsFatal : Reply → Prop
  | .noToken => True
  | .refused _ => True
  | .answered (.failure _) => True
  | .answered (.response r) => r.status = 0

theorem Reply.gives_logOutcome (answer : Answer) : (Reply.answered answer).Gives (logOutcome answer) := by
  cases answer with
  | failure reason => exact .offline reason
  | response r =>
      cases status : isSuccess r.status with
      | false =>
          have got : received (.response r) = .error (.failed r.status (failureText r)) := by
            rw [received, status, if_neg Bool.false_ne_true]
          rw [logOutcome, got]
          exact .unsuccessful r status
      | true =>
          have got : received (.response r) = .ok r := by rw [received, status, if_pos rfl]
          rw [logOutcome, got, Except.bind]
          cases body : readLog r with
          | error e => exact .malformed r e status body
          | ok v => exact .part r v status body

/-- The error of a reply counts as an answer just if there is one. -/
theorem Reply.Gives.isAnswer_iff {reply : Reply} {e : Error} (gives : reply.Gives (.error e))
    (refusal : ∀ e, reply = .refused e → e.isAnswer = false) : e.isAnswer = true ↔ ¬ reply.IsFatal := by
  cases gives with
  | noToken => simp [Error.isAnswer, IsFatal]
  | refused e => simp [refusal e rfl, IsFatal]
  | offline reason => simp [Error.isAnswer, IsFatal]
  | unsuccessful r status => simp [Error.isAnswer, IsFatal]
  | malformed r e status body => simp [Error.isAnswer, IsFatal]

/-- What has a part of the log is an answer. -/
theorem Reply.Gives.not_isFatal {reply : Reply} {v : Value} (gives : reply.Gives (.ok v)) : ¬ reply.IsFatal := by
  cases gives with
  | part r v status body =>
      intro zero
      rw [show r.status = 0 from zero] at status
      exact absurd status (by decide)

/-! ### One request -/

variable {script : Nat → Option String}

/-- **Asking for a range of the log.**  A token is taken from the script.  Without one nothing is sent, nor is anything
sent that is refused. -/
inductive Turn (script : Nat → Option String) (doc : String) (s : Session) (range : Nat × Nat) :
    Reply → Session → Prop
  | noToken (none : script s.asked = none) : Turn script doc s range .noToken { s with asked := s.asked + 1 }
  | refused {token : String} {e : Error} (given : script s.asked = some token)
      (refusal : refusal? doc range.1 range.2 = some e) :
      Turn script doc s range (.refused e) { s with asked := s.asked + 1 }
  | answered {token : String} (given : script s.asked = some token) (sent : refusal? doc range.1 range.2 = none) :
      Turn script doc s range
        (.answered (s.server s.requests (.fetch (logUrl doc) (rangeQuery doc range.1 range.2) token)))
        { s with
          asked := s.asked + 1
          requests := .fetch (logUrl doc) (rangeQuery doc range.1 range.2) token :: s.requests }

theorem Turn.closed {s t : Session} {range : Nat × Nat} {reply : Reply} (turn : Turn script doc s range reply t) :
    t.closed = s.closed := by
  cases turn <;> rfl

theorem Turn.isAnswer_refusal {s t : Session} {range : Nat × Nat} {reply : Reply}
    (turn : Turn script doc s range reply t) (e : Error) (same : reply = .refused e) : e.isAnswer = false := by
  cases turn with
  | noToken => cases same
  | answered => cases same
  | refused given refusal =>
      cases same
      rcases refusal?_cases refusal with ⟨rfl, -⟩ | ⟨rfl, -⟩ <;> rfl

theorem comesTo_sending (token : String) {start stop : Int} {s : Session} {Q : Except Error Response → Session → Prop}
    (refused : ∀ e, refusal? doc start stop = some e → Q (.error e) s)
    (sent : refusal? doc start stop = none →
      Action.ComesTo (receive (logUrl doc) (rangeQuery doc start stop) token) s Q) :
    Action.ComesTo (if !isSendable (logUrl doc).toList then Action.fail .unsendableAddress
      else if [start, stop].any isTooLong then Action.fail .indexTooLong
      else if !(rangeQuery doc start stop).isEmpty && !(located (logUrl doc) (rangeQuery doc start stop)).fits then
        Action.fail .unsendableAddress
      else receive (logUrl doc) (rangeQuery doc start stop) token) s Q := by
  have asked : (rangeQuery doc start stop).isEmpty = false := rfl
  unfold refusal? at refused sent
  simp only [asked, List.any_cons, List.any_nil, Bool.or_false, Bool.not_false, Bool.true_and, Bool.not_eq_true',
    Bool.or_eq_true]
  split
  next unsendable => exact refused _ (if_pos unsendable)
  next sendable =>
    simp only [sendable] at refused sent
    split
    next long => exact refused _ (by simp [long])
    next short =>
      split
      next unfit => exact refused _ (by simp [short, unfit])
      next fit => exact sent (by simp [short, fit])

section

variable {client : Client} (follows : client.Follows script)
  (ascii : ∀ n token, script n = some token → ∀ c ∈ token.toList, c.toNat < 0x80)

include follows ascii

/-- **A request for a part of the log** on an open connection is a turn, and its outcome is what the reply means. -/
theorem comesTo_revisionData_of_follows {s : Session} (connected : s.closed = false) (start stop : Nat) :
    Action.ComesTo (client.revisionData doc start stop) s fun o t =>
      ∃ reply, Turn script doc s (start, stop) reply t ∧ reply.Gives o := by
  refine comesTo_revisionData_of_get ?_
  cases given : script s.asked with
  | none =>
      have taken := follows.none s given
      refine Action.ComesTo.ended (e := .signedOut) (by rw [taken]; rfl) ⟨.noToken, ?_, .noToken⟩
      rw [taken]
      exact .noToken given
  | some token =>
      have taken := follows.some s token given
      have got : (client.token s).outcome = .ok token := by rw [taken]; rfl
      refine comesTo_get_of_token got (ascii _ _ given) (by rw [taken]; exact connected) ?_
      rw [taken]
      refine comesTo_sending token (fun e refusal => ⟨.refused e, .refused given refusal, .refused e⟩) fun sent => ?_
      refine (comesTo_receive _ _ token _).mono ?_
      rintro _ _ ⟨rfl, rfl⟩
      exact ⟨_, .answered given sent, Reply.gives_logOutcome _⟩

end

/-! ### Requests in turn -/

/-- A range that was asked for, with what came of it. -/
structure Event where
  range : Nat × Nat
  reply : Reply

/-- **All that happens between two states**: ranges are asked for in turn, perhaps with pauses in between. -/
inductive Course (script : Nat → Option String) (doc : String) : Session → List Event → Session → Prop
  | done (s : Session) : Course script doc s [] s
  | asked {s t u : Session} {event : Event} {events : List Event} (turn : Turn script doc s event.range event.reply t)
      (rest : Course script doc t events u) : Course script doc s (event :: events) u
  | paused {s u : Session} {events : List Event} (delay : Value)
      (rest : Course script doc { s with pauses := delay :: s.pauses } events u) : Course script doc s events u

variable {s t u : Session} {events later : List Event}

theorem Course.single {event : Event} (turn : Turn script doc s event.range event.reply t) :
    Course script doc s [event] t :=
  .asked turn (.done t)

theorem Course.append (first : Course script doc s events t) (second : Course script doc t later u) :
    Course script doc s (events ++ later) u := by
  induction first with
  | done => exact second
  | asked turn rest ih => exact .asked turn (ih second)
  | paused delay rest ih => exact .paused delay (ih second)

theorem Course.closed (course : Course script doc s events t) : t.closed = s.closed := by
  induction course with
  | done => rfl
  | asked turn rest ih => exact ih.trans turn.closed
  | paused delay rest ih => exact ih

end EditHistory.Docs
