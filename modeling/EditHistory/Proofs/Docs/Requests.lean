import EditHistory.Docs.Client
import EditHistory.Proofs.Actions
import EditHistory.Proofs.Docs.Id
import EditHistory.Proofs.Number.Text
import EditHistory.Proofs.Web.Location

/-!
# Requests for the edit log

A client with a token that can be sent asks for a part of the log of a document, and what comes of it is decided by the
service alone: the address can be sent as long as the id of the document is not out of all proportion and the numbers
are not too long to be written.

## Main definitions

* `IsPlainId` — an id that has a place in an address
* `IsAddressable` — a document of which every part of the log can be asked for
* `Client.Ready` — a client that always has a token, on an open connection to a service
* `indexLimit` — the least index that is too long to be asked for
* `logOutcome` — what the answer to a request for a part of the log means
* `Client.Asks` — a question to the service

## Main statements

* `fits_located` — the address of every part of the log can be sent
* `Client.ready_ofCredentials` — a client with prepared tokens is ready
* `comesTo_revisionData`, `ensures_revisionData` — what a request for a part of the log gives
-/

namespace EditHistory.Docs

open Web Text Client

/-! ### The address -/

/-- The most characters of an id that is sure to leave room for the rest of an address. -/
def idLimit : Nat := 50000

/-- An id made of id characters, and not too many of them. -/
structure IsPlainId (doc : String) : Prop where
  chars : ∀ c ∈ doc.toList, isIdChar c = true
  short : doc.toList.length ≤ idLimit

/-- An id character stands for itself everywhere in an address and separates nothing there. -/
theorem isIdChar_spec {c : Char} (id : isIdChar c = true) :
    Form.isPlain c = true ∧ AddressPart.path.keeps c = true ∧ c ∉ ['.', '/', '?', '#'] := by
  have all : ∀ n < 0x80, isIdChar (Char.ofNat n) = true →
      Form.isPlain (Char.ofNat n) = true ∧ AddressPart.path.keeps (Char.ofNat n) = true ∧
        Char.ofNat n ∉ ['.', '/', '?', '#'] := by decide
  have here := all c.toNat (toNat_lt_of_isIdChar id)
  rw [Char.ofNat_toNat] at here
  exact here id

/-- The path of the edit log of a document. -/
def logPath (doc : String) : List Char :=
  "/document/d/".toList ++ (doc.toList ++ "/revisions/load".toList)

theorem toList_logUrl (doc : String) : (logUrl doc).toList = "https://docs.google.com".toList ++ logPath doc := by
  have parts (a b c : String) : (a ++ b ++ c).toList = a.toList ++ (b.toList ++ c.toList) := by
    rw [String.toList_append, String.toList_append, List.append_assoc]
  have front : "https://docs.google.com/document/d/".toList =
      "https://docs.google.com".toList ++ "/document/d/".toList := by decide
  exact (parts _ _ _).trans ((congrArg (· ++ _) front).trans (List.append_assoc _ _ _))

/-- A property of the fixed parts of the path and of all id characters is one of the whole path. -/
theorem forall_mem_logPath {doc : String} (plain : IsPlainId doc) {p : Char → Bool}
    (before : "/document/d/".toList.all p = true) (after : "/revisions/load".toList.all p = true)
    (id : ∀ c, isIdChar c = true → p c = true) : ∀ c ∈ logPath doc, p c = true := by
  intro c mem
  rcases List.mem_append.mp mem with mem | mem
  · exact List.all_eq_true.mp before c mem
  · rcases List.mem_append.mp mem with mem | mem
    · exact id c (plain.chars c mem)
    · exact List.all_eq_true.mp after c mem

theorem length_logPath (doc : String) : (logPath doc).length = doc.toList.length + 27 := by
  unfold logPath
  rw [List.length_append, List.length_append]
  have before : "/document/d/".toList.length = 12 := rfl
  have after : "/revisions/load".toList.length = 15 := rfl
  omega

theorem isSendable_logUrl {doc : String} (plain : IsPlainId doc) : isSendable (logUrl doc).toList = true := by
  have keeps : ∀ c ∈ logPath doc, AddressPart.path.keeps c = true :=
    forall_mem_logPath plain (by decide) (by decide) fun c id => (isIdChar_spec id).2.1
  have printable : ∀ c ∈ logPath doc, (0x80 ≤ c.toNat || (0x20 ≤ c.toNat && c.toNat < 0x7f)) = true := by
    intro c mem
    have kept := keeps c mem
    simp only [AddressPart.keeps, Bool.and_eq_true, decide_eq_true_eq] at kept
    simp only [Bool.or_eq_true, Bool.and_eq_true, decide_eq_true_eq]
    omega
  have site : "https://docs.google.com".toList.length = 23 := rfl
  have path := length_logPath doc
  have short : doc.toList.length ≤ 50000 := plain.short
  unfold isSendable addressLimit
  rw [toList_logUrl, Bool.and_eq_true, decide_eq_true_eq, List.length_append, List.all_append, Bool.and_eq_true]
  refine ⟨by omega, by decide, ?_⟩
  exact List.all_eq_true.mpr printable

/-- The address of the log stands for itself: its path is sent as it was given. -/
theorem read_logUrl {doc : String} (plain : IsPlainId doc) :
    Location.read (logUrl doc).toList = ⟨"https://docs.google.com".toList, logPath doc, none, none⟩ := by
  have keeps : ∀ c ∈ logPath doc, AddressPart.path.keeps c = true :=
    forall_mem_logPath plain (by decide) (by decide) fun c id => (isIdChar_spec id).2.1
  have plainChar : ∀ c ∈ logPath doc, decide (c ∉ ['.', '?', '#']) = true :=
    forall_mem_logPath plain (by decide) (by decide) fun c id => by
      have := (isIdChar_spec id).2.2
      simp only [List.mem_cons, List.not_mem_nil, or_false, not_or] at this
      simp [this]
  have whole : ∀ c ∈ logPath doc, c ∉ ['.', '?', '#'] := fun c mem => of_decide_eq_true (plainChar c mem)
  have unmarked (sep : Char) (member : sep ∈ ['.', '?', '#']) : sep ∉ logPath doc :=
    fun mem => whole sep mem member
  have uncut (sep : Char) (site : sep ∉ "https://docs.google.com".toList) (member : sep ∈ ['.', '?', '#']) :
      cutAt sep (logUrl doc).toList = ((logUrl doc).toList, none) := by
    refine cutAt_of_not_mem ?_
    rw [toList_logUrl, List.mem_append]
    exact fun mem => mem.elim site (unmarked sep member)
  have taken : Location.takeSite (logUrl doc).toList = ("https://docs.google.com".toList, logPath doc) := by
    rw [toList_logUrl]
    rfl
  unfold Location.read
  simp only [uncut '#' (by decide) (by decide), uncut '?' (by decide) (by decide), taken, Option.map_none]
  rw [resolvePath_of_no_dot (unmarked '.' (by decide)), AddressPart.write_of_keeps keeps]

/-- The least number with more digits than are written. -/
def indexLimit : Nat := 10 ^ Number.digitLimit

theorem isTooLong_eq_false_iff {n : Int} : isTooLong n = false ↔ n.natAbs < indexLimit := by
  -- The power is far too large to be looked at, so the exponent is forgotten.
  have general (e k : Nat) : decide (Nat.pow 10 e ≤ k) = false ↔ k < 10 ^ e := by
    rw [decide_eq_false_iff_not, Nat.not_le, Nat.pow_eq]
  exact general Number.digitLimit n.natAbs

theorem isTooLong_natCast {n : Nat} (below : n < indexLimit) : isTooLong n = false :=
  isTooLong_eq_false_iff.mpr below

/-- A number of four digits at most is written. -/
theorem lt_indexLimit_of_lt {n : Nat} (small : n < 10 ^ 4) : n < indexLimit :=
  Nat.lt_of_lt_of_le small (Nat.pow_le_pow_right (by decide) (by decide))

/-- A number of a query, in form encoding, has at most a digit for each place and a minus. -/
theorem length_encode_showInt_le {n : Int} (written : isTooLong n = false) :
    (Form.encode (showInt n).toList).length ≤ Number.digitLimit + 1 := by
  have plain : ∀ c ∈ Number.intText n, Form.isPlain c = true := by
    intro c mem
    rcases Number.mem_intText mem with rfl | ⟨low, high⟩
    · rfl
    · have digit : c.isDigit = true := by
        unfold Char.isDigit
        exact (Bool.and_eq_true _ _).mpr ⟨decide_eq_true low, decide_eq_true high⟩
      simp [Form.isPlain, Char.isAlphanum, digit]
  rw [showInt, String.toList_ofList, Form.encode_of_plain plain]
  exact Number.length_intText_le (by decide) (isTooLong_eq_false_iff.mp written)

/-- Different ranges are asked for by different queries. -/
theorem rangeQuery_inj {doc : String} {start stop start' stop' : Int} :
    rangeQuery doc start stop = rangeQuery doc start' stop' ↔ start = start' ∧ stop = stop' := by
  constructor
  · intro same
    simp only [rangeQuery, showInt, List.cons.injEq, Prod.mk.injEq, true_and, and_true] at same
    exact ⟨Number.intText_injective (String.ofList_injective same.1),
      Number.intText_injective (String.ofList_injective same.2)⟩
  · rintro ⟨rfl, rfl⟩
    rfl

/-- **The address of every part of the log can be sent.** -/
theorem fits_located {doc : String} (plain : IsPlainId doc) {start stop : Int} (low : isTooLong start = false)
    (high : isTooLong stop = false) : (located (logUrl doc) (rangeQuery doc start stop)).fits = true := by
  have id : (Form.encode doc.toList).length ≤ 50000 := by
    rw [Form.encode_of_plain fun c mem => (isIdChar_spec (plain.chars c mem)).1]
    exact plain.short
  have first := length_encode_showInt_le low
  have second := length_encode_showInt_le high
  have digits : Number.digitLimit = 4300 := rfl
  have path := length_logPath doc
  have short : doc.toList.length ≤ 50000 := plain.short
  have query : (formText (rangeQuery doc start stop)).toList.length ≤ addressLimit := by
    have names : (Form.encode "id".toList).length = 2 ∧ (Form.encode "start".toList).length = 5 ∧
        (Form.encode "end".toList).length = 3 := by decide
    simp only [formText, rangeQuery, String.toList_ofList, List.map_cons, List.map_nil, Form.render, Form.encodePair,
      List.length_append, List.length_cons, addressLimit]
    omega
  unfold located
  rw [read_logUrl plain]
  simp only [rangeQuery, List.isEmpty_cons, Bool.false_eq_true, if_false]
  unfold Location.withQuery Location.fits
  simp only [Option.getD_some, Option.getD_none, List.length_nil, Bool.and_eq_true, decide_eq_true_eq]
  exact ⟨⟨by unfold addressLimit; omega, query⟩, Nat.zero_le _⟩

/-- A document of which every part of the log can be asked for: the address can be sent, whatever numbers it gets. -/
structure IsAddressable (doc : String) : Prop where
  sendable : isSendable (logUrl doc).toList = true
  fits : ∀ start stop : Int, isTooLong start = false → isTooLong stop = false →
    (located (logUrl doc) (rangeQuery doc start stop)).fits = true

theorem IsPlainId.isAddressable {doc : String} (plain : IsPlainId doc) : IsAddressable doc :=
  ⟨isSendable_logUrl plain, fun _ _ low high => fits_located plain low high⟩

/-! ### The request -/

/-- A client that always has a token that can be sent, on an open connection to a service.  The invariant may say where
the token comes from; requests and pauses have nothing to do with it. -/
structure Client.Ready (client : Client) (server : Server) (I : Session → Prop) : Prop where
  served : ∀ s, I s → s.server = server
  isOpen : ∀ s, I s → s.closed = false
  token : Action.Ensures I client.token fun o => ∃ token, o = .ok token ∧ ∀ c ∈ token.toList, c.toNat < 0x80
  sent : ∀ s requests, I s → I { s with requests }
  paused : ∀ s pauses, I s → I { s with pauses }

/-- A client with prepared credentials, each of which gives access by a text that can be sent, is ready on every open
connection. -/
theorem Client.ready_ofCredentials {credentials : List (Option Credential)} (nonempty : credentials ≠ [])
    (texts : ∀ c ∈ credentials, ∃ text, c.bind Credential.text? = some text ∧ ∀ d ∈ text.toList, d.toNat < 0x80)
    (server : Server) :
    (Client.ofCredentials credentials).Ready server fun s => s.server = server ∧ s.closed = false := by
  refine ⟨fun _ holds => holds.1, fun _ holds => holds.2, ?_, fun _ _ holds => holds, fun _ _ holds => holds⟩
  intro s holds
  have final := List.getLast?_eq_some_getLast nonempty
  obtain ⟨c, chosen, mem⟩ : ∃ c, credentials[s.asked]?.or credentials.getLast? = some c ∧ c ∈ credentials := by
    cases here : credentials[s.asked]? with
    | none => exact ⟨_, final, List.mem_of_getLast? final⟩
    | some c => exact ⟨c, rfl, List.mem_of_getElem? here⟩
  obtain ⟨text, gives, ascii⟩ := texts c mem
  have asked : (Client.ofCredentials credentials).token s = .done text { s with asked := s.asked + 1 } := by
    unfold Client.token Client.ofCredentials
    simp only [Action.bind_apply, Step.andThen, Action.get, Step.done, Action.pure_apply, Action.modify, chosen,
      Option.join_some, gives, List.append_nil]
  rw [asked]
  exact ⟨⟨text, rfl, ascii⟩, holds⟩

/-- A client with a single token. -/
def tokenClient : Client := Client.ofCredentials [some (.value (.str "token"))]

theorem tokenClient_ready (server : Server) :
    tokenClient.Ready server fun s => s.server = server ∧ s.closed = false :=
  Client.ready_ofCredentials (List.cons_ne_nil _ []) (by simp [Credential.text?, Value.truthy, Value.text]) server

/-- What comes of the answer to a request. -/
def received : Answer → Except Error Response
  | .failure reason => .error (.failed 0 ("Request failed: " ++ reason))
  | .response r => if isSuccess r.status then .ok r else .error (.failed r.status (failureText r))

/-- What the answer to a request for a part of the log means. -/
def logOutcome (answer : Answer) : Except Error Value :=
  (received answer).bind fun r =>
    (readLog r).mapError fun e => .failed r.status ("Malformed revision data: " ++ e.message)

section

variable {client : Client} {server : Server} {I : Session → Prop}

/-- Sending a request changes nothing but the list of requests. -/
theorem comesTo_receive (url : String) (query : List (String × String)) (token : String) (s : Session) :
    Action.ComesTo (receive url query token) s fun o t =>
      o = received (s.server s.requests (.fetch url query token)) ∧
        t = { s with requests := .fetch url query token :: s.requests } := by
  refine Action.ComesTo.done (a := s.server s.requests (.fetch url query token)) rfl ?_
  cases s.server s.requests (.fetch url query token) with
  | failure reason => exact ⟨rfl, rfl⟩
  | response r =>
      unfold received
      simp only
      split <;> exact ⟨rfl, rfl⟩

/-- **A question to the service**: a token is got, and a request with it is sent and answered.  Nothing else happens. -/
def Client.Asks (client : Client) (server : Server) (url : String) (query : List (String × String)) (s t : Session)
    (answer : Answer) : Prop :=
  ∃ token, (client.token s).outcome = .ok token ∧
    answer = server (client.token s).state.requests (.fetch url query token) ∧
    t = { (client.token s).state with
      requests := .fetch url query token :: (client.token s).state.requests }

theorem Client.Asks.keeps {url : String} {query : List (String × String)} {s t : Session} {answer : Answer}
    (ready : client.Ready server I) (asks : client.Asks server url query s t answer) (holds : I s) : I t := by
  obtain ⟨token, -, -, rfl⟩ := asks
  exact ready.sent _ _ (ready.token s holds).2

/-- With a token that can be sent and an open connection, only the address and the numbers are left to be checked. -/
theorem comesTo_get_of_token {url : String} {query : List (String × String)} {numbers : List Int} {s : Session}
    {token : String} (given : (client.token s).outcome = .ok token) (ascii : ∀ c ∈ token.toList, c.toNat < 0x80)
    (connected : (client.token s).state.closed = false) {Q : Except Error Response → Session → Prop}
    (next : Action.ComesTo (if !isSendable url.toList then Action.fail .unsendableAddress
      else if numbers.any isTooLong then Action.fail .indexTooLong
      else if !query.isEmpty && !(located url query).fits then Action.fail .unsendableAddress
      else receive url query token) (client.token s).state Q) :
    Action.ComesTo (client.get url query numbers) s Q := by
  have plain : token.toList.any (fun c => 0x80 ≤ c.toNat) = false := by
    rw [List.any_eq_false]
    intro c mem
    rw [decide_eq_true_iff, Nat.not_le]
    exact ascii c mem
  refine Action.ComesTo.andThen given (Action.ComesTo.done (a := (client.token s).state) rfl ?_)
  simp only [plain, connected, Bool.false_eq_true, if_false]
  exact next

/-- What a request for a part of the log comes to, as the answer to it is read. -/
theorem comesTo_revisionData_of_get {doc : String} {start stop : Int} {s : Session}
    {Q : Except Error Value → Session → Prop}
    (comes : Action.ComesTo (client.get (logUrl doc) (rangeQuery doc start stop) [start, stop]) s fun o t =>
      Q (o.bind fun r => (readLog r).mapError fun e => .failed r.status ("Malformed revision data: " ++ e.message)) t) :
    Action.ComesTo (client.revisionData doc start stop) s Q := by
  refine comes.bind ?_ fun e t => id
  intro r t known
  rw [Except.bind] at known
  cases outcome : readLog r with
  | ok v =>
      rw [outcome] at known
      exact known
  | error e =>
      rw [outcome] at known
      exact known

/-- With a token and an open connection, only the numbers and the length of the address are left to be checked. -/
theorem comesTo_get_of_ready (ready : client.Ready server I) {url : String} {query : List (String × String)}
    {numbers : List Int} (sendable : isSendable url.toList = true) {s : Session} (holds : I s)
    {Q : Except Error Response → Session → Prop}
    (next : ∀ token, (client.token s).outcome = .ok token →
      Action.ComesTo (if numbers.any isTooLong then Action.fail .indexTooLong
        else if !query.isEmpty && !(located url query).fits then Action.fail .unsendableAddress
        else receive url query token) (client.token s).state Q) :
    Action.ComesTo (client.get url query numbers) s Q := by
  obtain ⟨⟨token, given, ascii⟩, kept⟩ := ready.token s holds
  refine comesTo_get_of_token given ascii (ready.isOpen _ kept) ?_
  simp only [sendable, Bool.not_true, Bool.false_eq_true, if_false]
  exact next token given

/-- **A request that can be sent** is answered by the service. -/
theorem comesTo_get (ready : client.Ready server I) {url : String} {query : List (String × String)}
    {numbers : List Int} (sendable : isSendable url.toList = true) (written : ∀ n ∈ numbers, isTooLong n = false)
    (fits : (located url query).fits = true) {s : Session} (holds : I s) :
    Action.ComesTo (client.get url query numbers) s fun o t =>
      ∃ answer, client.Asks server url query s t answer ∧ o = received answer := by
  have short : numbers.any isTooLong = false := by
    rw [List.any_eq_false]
    intro n mem
    rw [written n mem]
    exact Bool.false_ne_true
  refine comesTo_get_of_ready ready sendable holds fun token given => ?_
  simp only [short, fits, Bool.not_true, Bool.and_false, Bool.false_eq_true, if_false]
  refine (comesTo_receive url query token _).mono ?_
  rintro _ _ ⟨rfl, rfl⟩
  refine ⟨_, ⟨token, given, rfl, rfl⟩, ?_⟩
  rw [ready.served _ (ready.token s holds).2]

/-- A part of the log that starts at a number with too many digits is not asked for. -/
theorem ensures_revisionData_of_long (ready : client.Ready server I) {doc : String} (addressable : IsAddressable doc)
    {start stop : Int} (long : isTooLong start = true) :
    Action.Ensures I (client.revisionData doc start stop) (· = .error .indexTooLong) := by
  intro s holds
  show Action.ComesTo (client.revisionData doc start stop) s fun o t => o = .error .indexTooLong ∧ I t
  refine comesTo_revisionData_of_get (comesTo_get_of_ready ready addressable.sendable holds fun token given => ?_)
  simp only [List.any_cons, long, Bool.true_or, if_true]
  exact ⟨rfl, (ready.token s holds).2⟩

/-- **A request for a part of the log** gives what the service's answer means. -/
theorem comesTo_revisionData (ready : client.Ready server I) {doc : String} (addressable : IsAddressable doc)
    {start stop : Int} (low : isTooLong start = false) (high : isTooLong stop = false) {s : Session} (holds : I s) :
    Action.ComesTo (client.revisionData doc start stop) s fun o t =>
      ∃ answer, client.Asks server (logUrl doc) (rangeQuery doc start stop) s t answer ∧ o = logOutcome answer := by
  have written : ∀ n ∈ [start, stop], isTooLong n = false := by
    rintro n (_ | ⟨_, _ | ⟨_, ⟨⟩⟩⟩)
    · exact low
    · exact high
  refine comesTo_revisionData_of_get
    ((comesTo_get ready addressable.sendable written (addressable.fits start stop low high) holds).mono ?_)
  rintro _ t ⟨answer, asks, rfl⟩
  exact ⟨answer, asks, rfl⟩

/-- What the service answered is all that is known about the outcome, if any earlier requests may have been sent. -/
theorem ensures_revisionData (ready : client.Ready server I) {doc : String} (addressable : IsAddressable doc)
    {start stop : Int} (low : isTooLong start = false) (high : isTooLong stop = false) :
    Action.Ensures I (client.revisionData doc start stop) fun o => ∃ earlier token,
      o = logOutcome (server earlier (.fetch (logUrl doc) (rangeQuery doc start stop) token)) := by
  intro s holds
  obtain ⟨answer, asks, outcome⟩ := comesTo_revisionData ready addressable low high holds
  refine ⟨?_, asks.keeps ready holds⟩
  obtain ⟨token, -, rfl, -⟩ := asks
  exact ⟨_, token, outcome⟩

end

end EditHistory.Docs
