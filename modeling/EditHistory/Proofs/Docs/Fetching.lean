import EditHistory.Proofs.Docs.Chunks
import Mathlib.Logic.ExistsUnique

/-!
# The requests for the whole log

Once the last revision is found, the whole log is asked for range by range.  The ranges are as many as it takes and
share the revisions among themselves.  One request is sent for each range, with a pause after each answer if pauses are
wanted; the first answer without a part of the log is the last one, and nothing of what was had before is returned.

All this is said about any service.  Its answer to a request may depend on the requests before, so the part that is
returned for a range is the one that was answered after the requests for the ranges before.

## Main definitions

* `chunkAt`, `chunkCount`, `chunks` — the ranges
* `Shares` — ranges that share some indices among themselves
* `asked` — what has been asked about a log
* `LeavesLog` — an action that has nothing to do with the log
* `Client.Quiet` — a client that has nothing to do with the log when it gets a token
* `Fetches` — what comes of asking for some ranges

## Main statements

* `chunkRanges_eq_chunks` — the ranges that are asked for
* `shares_chunks` — they share the revisions
* `quiet_ofCredentials`, `quiet_ofAuthenticator` — clients that have nothing to do with the log when they get a token
* `Client.fetches_fetchChunks` — asking for them on any service
* `Client.allRevisionData_fetches` — the whole log
-/

namespace EditHistory.Docs

open Web Client

/-! ### The ranges -/

/-- The range of a number, counted from zero; the last one may be shorter. -/
def chunkAt (size last i : Nat) : Nat × Nat := (i * size + 1, min ((i + 1) * size) last)

/-- How many ranges of `size` indices it takes. -/
def chunkCount (size last : Nat) : Nat := (last + size - 1) / size

/-- The ranges of `size` indices from the first one to `last`. -/
def chunks (size last : Nat) : List (Nat × Nat) := (List.range (chunkCount size last)).map (chunkAt size last)

theorem lt_chunkCount_iff {size last i : Nat} (positive : 1 ≤ size) : i < chunkCount size last ↔ i * size < last := by
  rw [chunkCount, ← Nat.succ_le_iff, Nat.le_div_iff_mul_le positive, Nat.succ_mul]
  omega

theorem chunkRanges_eq_map {size last : Nat} (positive : 1 ≤ size) {fuel i : Nat}
    (enough : last + 1 ≤ fuel + (i * size + 1)) :
    chunkRanges size last fuel (i * size + 1) =
      (List.range' i (chunkCount size last - i)).map (chunkAt size last) := by
  have inside := @lt_chunkCount_iff size last i positive
  induction fuel generalizing i with
  | zero =>
      have none : chunkCount size last - i = 0 := by omega
      rw [none]
      rfl
  | succ fuel ih =>
      unfold chunkRanges
      split
      · have more : chunkCount size last - i = chunkCount size last - (i + 1) + 1 := by omega
        have next : i * size + 1 + size = (i + 1) * size + 1 := by
          rw [Nat.succ_mul]
          omega
        rw [more, List.range'_succ, List.map_cons, next, ih (by omega) (lt_chunkCount_iff positive)]
        rfl
      · have none : chunkCount size last - i = 0 := by omega
        rw [none]
        rfl

/-- **The ranges that are asked for.** -/
theorem chunkRanges_eq_chunks {size last : Nat} (positive : 1 ≤ size) :
    chunkRanges size last last 1 = chunks size last := by
  have enough : last + 1 ≤ last + (0 * size + 1) := by omega
  have whole := chunkRanges_eq_map positive enough
  rw [Nat.zero_mul, Nat.zero_add] at whole
  rw [whole, chunks, List.range_eq_range']
  rfl

/-- **Ranges that share the indices up to `last` among themselves.** -/
structure Shares (size last : Nat) (ranges : List (Nat × Nat)) : Prop where
  /-- Each range is over before the later ones start. -/
  apart : ranges.Pairwise fun range later => range.2 < later.1
  /-- None is empty or goes too far. -/
  inside : ∀ range ∈ ranges, 1 ≤ range.1 ∧ range.1 ≤ range.2 ∧ range.2 ≤ last
  /-- No index is left out, or in two of them. -/
  once : ∀ index, 1 ≤ index → index ≤ last → ∃! range, range ∈ ranges ∧ range.1 ≤ index ∧ index ≤ range.2
  /-- All but the last one have the same length. -/
  full : ∀ range ∈ ranges.dropLast, range.2 + 1 = range.1 + size

theorem shares_chunks {size last : Nat} (positive : 1 ≤ size) : Shares size last (chunks size last) := by
  have mem {range : Nat × Nat} (listed : range ∈ chunks size last) :
      ∃ i, i * size < last ∧ range = chunkAt size last i := by
    obtain ⟨i, below, rfl⟩ := List.mem_map.mp listed
    exact ⟨i, (lt_chunkCount_iff positive).mp (List.mem_range.mp below), rfl⟩
  have succ (i : Nat) : (i + 1) * size = i * size + size := Nat.succ_mul i size
  constructor
  · refine List.pairwise_map.mpr (List.pairwise_lt_range.imp fun {i j} before => ?_)
    have : (i + 1) * size ≤ j * size := Nat.mul_le_mul_right size before
    show min ((i + 1) * size) last < j * size + 1
    omega
  · intro range listed
    obtain ⟨i, below, rfl⟩ := mem listed
    have := succ i
    show 1 ≤ i * size + 1 ∧ i * size + 1 ≤ min ((i + 1) * size) last ∧ min ((i + 1) * size) last ≤ last
    omega
  · intro index counted within
    have low := Nat.div_mul_le_self (index - 1) size
    have high : index - 1 < ((index - 1) / size + 1) * size :=
      (Nat.div_lt_iff_lt_mul positive).mp (Nat.lt_succ_self _)
    refine ⟨chunkAt size last ((index - 1) / size), ⟨?_, ?_, ?_⟩, ?_⟩
    · exact List.mem_map.mpr ⟨_, List.mem_range.mpr ((lt_chunkCount_iff positive).mpr (by omega)), rfl⟩
    · show (index - 1) / size * size + 1 ≤ index
      omega
    · show index ≤ min (((index - 1) / size + 1) * size) last
      omega
    · rintro other ⟨listed, starts, stops⟩
      obtain ⟨i, below, rfl⟩ := mem listed
      change i * size + 1 ≤ index at starts
      change index ≤ min ((i + 1) * size) last at stops
      rw [Nat.div_eq_of_lt_le (k := i) (by omega) (by omega)]
  · intro range listed
    rw [List.dropLast_eq_take, chunks, ← List.map_take, List.take_range, List.length_map, List.length_range] at listed
    obtain ⟨i, before, rfl⟩ := List.mem_map.mp listed
    have follows := (@lt_chunkCount_iff size last (i + 1) positive).mp (by
      have := List.mem_range.mp before
      omega)
    have := succ i
    show min ((i + 1) * size) last + 1 = i * size + 1 + size
    omega

/-! ### What is asked -/

/-- What a request asks about the log of a document. -/
def logQuery? (doc : String) : Request → Option (List (String × String))
  | .fetch url query _ => if url = logUrl doc then some query else none
  | .submit _ _ => none

/-- What has been asked about the log, the latest first. -/
def asked (doc : String) (requests : List Request) : List (List (String × String)) :=
  requests.filterMap (logQuery? doc)

/-- The queries for some ranges. -/
def queries (doc : String) (ranges : List (Nat × Nat)) : List (List (String × String)) :=
  ranges.map fun range => rangeQuery doc range.1 range.2

/-- The pauses after some parts of the log. -/
def pausesFor (delay : Value) (count : Nat) : List Value :=
  if delay.truthy then List.replicate count delay else []

theorem pausesFor_zero (delay : Value) : pausesFor delay 0 = [] := by
  unfold pausesFor
  split <;> rfl

theorem pausesFor_succ (delay : Value) (count : Nat) :
    pausesFor delay (count + 1) = pausesFor delay count ++ pausesFor delay 1 := by
  unfold pausesFor
  split
  · exact List.replicate_succ'
  · rfl

/-- The first of some ranges is asked for before the others. -/
theorem reverse_queries_cons (doc : String) (range : Nat × Nat) (ranges : List (Nat × Nat))
    (before : List (List (String × String))) :
    (queries doc (range :: ranges)).reverse ++ before =
      (queries doc ranges).reverse ++ rangeQuery doc range.1 range.2 :: before := by
  rw [queries, queries, List.map_cons, List.reverse_cons, List.append_assoc]
  rfl

/-- Nothing has been asked about the log between two states, and no pause has been made. -/
structure SameLog (doc : String) (s t : Session) : Prop where
  asked : asked doc t.requests = asked doc s.requests
  pauses : t.pauses = s.pauses

theorem SameLog.refl (doc : String) (s : Session) : SameLog doc s s := ⟨rfl, rfl⟩

/-- To get a token, the client asks nothing about the log and makes no pause. -/
def Client.Quiet (client : Client) (I : Session → Prop) (doc : String) : Prop :=
  ∀ s, I s → SameLog doc s (client.token s).state

/-- The answer to the request for a range, which is sent when those for the ranges before have been sent. -/
def Replies (server : Server) (doc : String) (ranges : List (Nat × Nat)) (s : Session) (i : Nat)
    (outcome : Except Error Value) : Prop :=
  ∃ range earlier token, ranges[i]? = some range ∧
    asked doc earlier = (queries doc (ranges.take i)).reverse ++ asked doc s.requests ∧
    outcome = logOutcome (server earlier (.fetch (logUrl doc) (rangeQuery doc range.1 range.2) token))

/-- **What comes of asking for some ranges.** -/
inductive Fetches (server : Server) (doc : String) (delay : Value) (ranges : List (Nat × Nat)) (s t : Session) :
    Except Error (List Value) → Prop
  /-- All ranges are asked for, and the result is what was answered. -/
  | all (parts : List Value) (complete : parts.length = ranges.length)
      (replied : ∀ i part, parts[i]? = some part → Replies server doc ranges s i (.ok part))
      (asks : asked doc t.requests = (queries doc ranges).reverse ++ asked doc s.requests)
      (pauses : t.pauses = pausesFor delay ranges.length ++ s.pauses) : Fetches server doc delay ranges s t (.ok parts)
  /-- After some parts an answer comes without one, and then no more is asked for. -/
  | failed (parts : List Value) (e : Error)
      (replied : ∀ i part, parts[i]? = some part → Replies server doc ranges s i (.ok part))
      (refused : Replies server doc ranges s parts.length (.error e))
      (asks : asked doc t.requests =
        (queries doc (ranges.take (parts.length + 1))).reverse ++ asked doc s.requests)
      (pauses : t.pauses = pausesFor delay parts.length ++ s.pauses) : Fetches server doc delay ranges s t (.error e)

variable {client : Client} {server : Server} {I : Session → Prop} {doc : String} {delay : Value}
  {start stop : Nat} {ranges : List (Nat × Nat)} {s t : Session} {answer : Answer}

/-! ### Getting a token -/

/-- An action that asks nothing about the log and makes no pause, on any state. -/
def LeavesLog {ε α : Type} (doc : String) (x : Action Session ε α) : Prop :=
  ∀ s, SameLog doc s (x s).state

namespace LeavesLog

variable {ε δ α β : Type}

theorem bind {x : Action Session ε α} {f : α → Action Session ε β} (first : LeavesLog doc x)
    (next : ∀ a, LeavesLog doc (f a)) : LeavesLog doc (x >>= f) := by
  intro s
  show Action.ComesTo (x >>= f) s fun _ t => SameLog doc s t
  refine Action.ComesTo.bind (Q := fun _ t => SameLog doc s t) (first s) ?_ fun _ _ => id
  intro a t same
  have later := next a t
  exact ⟨later.asked.trans same.asked, later.pauses.trans same.pauses⟩

/-- Handing in a form asks nothing. -/
theorem submit (url : String) (form : List (String × String)) :
    LeavesLog doc (Session.send (.submit url form) : Action Session ε Answer) :=
  fun _ => ⟨List.filterMap_cons_none rfl, rfl⟩

theorem request (a : Auth.Authenticator) (purpose : Auth.Purpose) (form : List (String × String)) :
    LeavesLog doc (a.request purpose form) := by
  refine bind (submit _ _) fun answer => ?_
  cases answer with
  | failure reason => exact fun s => SameLog.refl doc s
  | response r =>
      by_cases success : r.status = 200
      · simp only [success, if_true]
        exact fun s => SameLog.refl doc s
      · simp only [success, if_false]
        exact fun s => SameLog.refl doc s

theorem obtain (a : Auth.Authenticator) (purpose : Auth.Purpose) (form : List (String × String)) (renewal : Value) :
    LeavesLog doc (a.obtain purpose form renewal) := by
  refine (request a purpose form).bind fun answer => bind (fun s => SameLog.refl doc s) fun session => ?_
  refine bind (fun s => SameLog.refl doc s) fun token => bind (fun s => ⟨rfl, rfl⟩) fun _ s => SameLog.refl doc s

theorem refresh (a : Auth.Authenticator) (token : Auth.Token) : LeavesLog doc (a.refresh token) := by
  unfold Auth.Authenticator.refresh
  split
  · exact (obtain a _ _ _).bind fun fresh => bind (fun s => SameLog.refl doc s) fun _ s => SameLog.refl doc s
  · exact fun s => SameLog.refl doc s

theorem current (a : Auth.Authenticator) : LeavesLog doc a.current := by
  refine bind (fun s => ⟨rfl, rfl⟩) fun token => ?_
  cases token with
  | none => exact fun s => SameLog.refl doc s
  | some token =>
      refine bind (fun s => SameLog.refl doc s) fun session => bind (fun s => SameLog.refl doc s) fun expired => ?_
      cases expired with
      | false => exact fun s => SameLog.refl doc s
      | true => exact (refresh a token).bind fun fresh s => SameLog.refl doc s

end LeavesLog

/-- It is enough that the credential is got in this way. -/
theorem quiet_of_credential (credential : LeavesLog doc client.credential) : client.Quiet I doc := by
  have token : LeavesLog doc client.token := by
    refine credential.bind fun c => LeavesLog.bind (fun s => ⟨rfl, rfl⟩) fun _ => ?_
    cases c.bind Credential.text? with
    | none => exact fun s => SameLog.refl doc s
    | some text => exact fun s => SameLog.refl doc s
  exact fun s _ => token s

theorem quiet_ofCredentials (credentials : List (Option Credential)) :
    (Client.ofCredentials credentials).Quiet I doc :=
  quiet_of_credential fun s => SameLog.refl doc s

/-- An authenticator asks another service for tokens. -/
theorem quiet_ofAuthenticator (a : Auth.Authenticator) : (Client.ofAuthenticator a).Quiet I doc := by
  refine quiet_of_credential (LeavesLog.bind (fun s => ?_) fun token s => SameLog.refl doc s)
  exact LeavesLog.current a s

/-! ### One request -/

section

variable (quiet : client.Quiet I doc) (holds : I s)
  (asks : client.Asks server (logUrl doc) (rangeQuery doc start stop) s t answer)

include quiet holds asks

theorem Client.Asks.asked : asked doc t.requests = rangeQuery doc start stop :: asked doc s.requests := by
  obtain ⟨token, -, -, rfl⟩ := asks
  have counts : logQuery? doc (.fetch (logUrl doc) (rangeQuery doc start stop) token) =
      some (rangeQuery doc start stop) := if_pos rfl
  rw [Docs.asked, List.filterMap_cons_some counts]
  exact congrArg _ ((quiet s holds).asked)

theorem Client.Asks.pauses : t.pauses = s.pauses := by
  obtain ⟨token, -, -, rfl⟩ := asks
  exact (quiet s holds).pauses

theorem Client.Asks.replies : Replies server doc ((start, stop) :: ranges) s 0 (logOutcome answer) := by
  obtain ⟨token, -, rfl, -⟩ := asks
  exact ⟨(start, stop), _, token, rfl, (quiet s holds).asked, rfl⟩

/-- An answer without a part ends the asking. -/
theorem Client.Asks.fetches_of_error {e : Error} (refused : logOutcome answer = .error e) :
    Fetches server doc delay ((start, stop) :: ranges) s t (.error e) := by
  refine .failed [] e nofun (refused ▸ asks.replies quiet holds) (asks.asked quiet holds) ?_
  rw [asks.pauses quiet holds, List.length_nil, pausesFor_zero, List.nil_append]

end

/-- A reply among the later ranges is one among all of them. -/
theorem Replies.succ {i : Nat} {outcome : Except Error Value}
    (asks : asked doc t.requests = rangeQuery doc start stop :: asked doc s.requests)
    (replies : Replies server doc ranges t i outcome) :
    Replies server doc ((start, stop) :: ranges) s (i + 1) outcome := by
  obtain ⟨later, earlier, token, listed, before, rfl⟩ := replies
  refine ⟨later, earlier, token, listed, ?_, rfl⟩
  rw [before, asks, List.take_succ_cons, reverse_queries_cons]

/-! ### The requests in turn -/

theorem fetches_nil (server : Server) (doc : String) (delay : Value) (s : Session) :
    Fetches server doc delay [] s s (.ok []) := by
  refine .all [] rfl nofun rfl ?_
  rw [List.length_nil, pausesFor_zero, List.nil_append]

/-- A part comes before those of the later ranges. -/
theorem Fetches.cons {outcome : Except Error (List Value)} {part : Value} {u : Session}
    (first : Replies server doc ((start, stop) :: ranges) s 0 (.ok part))
    (asks : asked doc t.requests = rangeQuery doc start stop :: asked doc s.requests)
    (pauses : t.pauses = pausesFor delay 1 ++ s.pauses) (fetches : Fetches server doc delay ranges t u outcome) :
    Fetches server doc delay ((start, stop) :: ranges) s u (outcome.map (part :: ·)) := by
  have replies {parts : List Value}
      (replied : ∀ i part, parts[i]? = some part → Replies server doc ranges t i (.ok part))
      (i : Nat) (part' : Value) (here : (part :: parts)[i]? = some part') :
      Replies server doc ((start, stop) :: ranges) s i (.ok part') := by
    cases i with
    | zero =>
        obtain rfl := Option.some.inj here
        exact first
    | succ i => exact (replied i part' here).succ asks
  -- Either way the later ranges have one part less than all of them.
  cases fetches with
  | all parts complete replied later paused =>
      refine .all (part :: parts) (congrArg Nat.succ complete) (replies replied) ?_ ?_
      · rw [later, asks, reverse_queries_cons]
      · rw [paused, pauses, List.length_cons, pausesFor_succ delay ranges.length, List.append_assoc]
  | failed parts e replied refused later paused =>
      refine .failed (part :: parts) e (replies replied) (refused.succ asks) ?_ ?_
      · rw [later, asks, List.length_cons, List.take_succ_cons, reverse_queries_cons]
      · rw [paused, pauses, List.length_cons, pausesFor_succ delay parts.length, List.append_assoc]

/-- **Asking for ranges** up to an index that can be written. -/
theorem Client.fetches_fetchChunks (ready : client.Ready server I) (quiet : client.Quiet I doc)
    (addressable : IsAddressable doc) (delay : Value) (size : Nat) {last : Nat} (written : last < indexLimit)
    (fuel start : Nat) {s : Session} (holds : I s) :
    Action.ComesTo (client.fetchChunks doc size delay last fuel start) s
      fun o t => Fetches server doc delay (chunkRanges size last fuel start) s t o := by
  induction fuel generalizing start s with
  | zero => exact fetches_nil server doc delay s
  | succ fuel ih =>
      unfold fetchChunks chunkRanges
      split
      · have low : isTooLong start = false := isTooLong_natCast (by omega)
        have high : isTooLong (min (start + size - 1) last : Nat) = false := isTooLong_natCast (by omega)
        refine (comesTo_revisionData ready addressable low high holds).bind ?_ ?_
        · rintro part t ⟨answer, asks, given⟩
          have kept := asks.keeps ready holds
          have first : Replies server doc
              ((start, min (start + size - 1) last) :: chunkRanges size last fuel (start + size)) s 0 (.ok part) :=
            given ▸ asks.replies quiet holds
          -- Whether a pause follows or not, the later requests are sent from a state with the same history.
          have rest {u : Session} (inv : I u) (same : u.requests = t.requests)
              (paused : u.pauses = pausesFor delay 1 ++ s.pauses) :
              Action.ComesTo (do
                let chunks ← client.fetchChunks doc size delay last fuel (start + size)
                return part :: chunks) u fun o v =>
                  Fetches server doc delay
                    ((start, min (start + size - 1) last) :: chunkRanges size last fuel (start + size)) s v o := by
            have asked : asked doc u.requests = _ := same ▸ asks.asked quiet holds
            refine (ih (start + size) inv).bind ?_ ?_
            · intro parts v fetches
              exact fetches.cons first asked paused
            · intro e v fetches
              exact fetches.cons first asked paused
          split
          · rename_i truthy
            refine Action.ComesTo.done (a := ()) rfl (rest (ready.paused t _ kept) rfl ?_)
            show delay :: t.pauses = pausesFor delay 1 ++ s.pauses
            rw [asks.pauses quiet holds, pausesFor, if_pos truthy]
            rfl
          · rename_i falsy
            refine rest kept rfl ?_
            rw [asks.pauses quiet holds, pausesFor, if_neg falsy]
            rfl
        · rintro e t ⟨answer, asks, refused⟩
          exact asks.fetches_of_error quiet holds refused.symm
      · exact fetches_nil server doc delay s

/-- **Fetching the whole log of a document from any service.**  A size that is not positive is refused before anything
is asked.  Otherwise, once the search has found a last revision, the log is asked for in ranges of that size, which
share the revisions among themselves; the result is what was answered, in order, or the first failure. -/
theorem Client.allRevisionData_fetches (ready : client.Ready server I) (quiet : client.Quiet I doc)
    (addressable : IsAddressable doc) (delay : Value) {s : Session} (holds : I s) :
    (∀ size : Int, size < 1 → client.allRevisionData doc size delay s = .failed (.badChunkSize size) s) ∧
      ∀ size last : Nat, 1 ≤ size → (client.findMax doc s).outcome = .ok last →
        Shares size last (chunks size last) ∧
          Fetches server doc delay (chunks size last) (client.findMax doc s).state
            (client.allRevisionData doc size delay s).state (client.allRevisionData doc size delay s).outcome := by
  constructor
  · intro size small
    unfold allRevisionData
    rw [if_pos small]
    rfl
  · intro size last positive found
    obtain ⟨written, kept⟩ := ensures_findMax_written ready addressable s holds
    refine ⟨shares_chunks positive, ?_⟩
    have fetched := fetches_fetchChunks ready quiet addressable delay size (written last found) last 1 kept
    rw [chunkRanges_eq_chunks positive] at fetched
    show Action.ComesTo (client.allRevisionData doc size delay) s fun o t =>
      Fetches server doc delay (chunks size last) (client.findMax doc s).state t o
    unfold allRevisionData
    rw [if_neg (by omega), Int.toNat_natCast]
    refine Action.ComesTo.andThen found (fetched.bind ?_ fun _ _ => id)
    exact fun _ _ => id

theorem Client.allRevisionData_fetches_of_three :
    tokenClient.Ready threeServer (fun s => s.server = threeServer ∧ s.closed = false) ∧
      tokenClient.Quiet (fun s => s.server = threeServer ∧ s.closed = false) "doc-1" ∧ IsAddressable "doc-1" ∧
      (tokenClient.findMax "doc-1" threeSession).outcome = .ok 3 ∧ Shares 1 3 [(1, 1), (2, 2), (3, 3)] ∧
      Fetches threeServer "doc-1" (.int 1) [(1, 1), (2, 2), (3, 3)] (tokenClient.findMax "doc-1" threeSession).state
        (tokenClient.allRevisionData "doc-1" (1 : Nat) (.int 1) threeSession).state
        (tokenClient.allRevisionData "doc-1" (1 : Nat) (.int 1) threeSession).outcome := by
  have ready := tokenClient_ready threeServer
  have quiet : tokenClient.Quiet (fun s => s.server = threeServer ∧ s.closed = false) "doc-1" :=
    quiet_ofCredentials _
  have addressable : IsAddressable "doc-1" := IsPlainId.isAddressable ⟨List.all_eq_true.mp (by decide), by decide⟩
  have countable : 2 * 3 < indexLimit := lt_indexLimit_of_lt (by decide)
  have connected : threeSession.server = threeServer ∧ threeSession.closed = false := ⟨rfl, rfl⟩
  have found : (tokenClient.findMax "doc-1" threeSession).outcome = .ok 3 :=
    (ensures_findMax_of_count countable
      (probes_of_answersBy ready addressable threeServer_answersBy) threeSession connected).1
  have listed : chunks 1 3 = [(1, 1), (2, 2), (3, 3)] := rfl
  obtain ⟨-, fetched⟩ := allRevisionData_fetches ready quiet addressable (.int 1) connected
  have whole := fetched 1 3 (Nat.le_refl 1) found
  rw [listed] at whole
  exact ⟨ready, quiet, addressable, found, whole⟩

end EditHistory.Docs
