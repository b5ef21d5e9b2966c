import EditHistory.Proofs.Docs.Fetching
import EditHistory.Proofs.Docs.Script
import Mathlib.Data.List.Forall2

/-!
# Failures while fetching a log

The search for the last revision and the fetching of the chunks treat failures differently.  An answer without a part of
the log tells the search that a revision is missing, but it ends the fetching of chunks.  No answer at all, which is to
say that there is no token, that the request cannot be sent or that nothing comes back, ends both of them at once.

All this is said about any service and any script of tokens: the requests that were sent and what came back are listed,
and with the list it is known how the call has ended.

## Main definitions

* `Stage` — how far the search is
* `Search`, `Leads`, `Ends` — the single revisions that the search asks for, and what it comes to
* `Collects` — what comes of asking for the chunks

## Main statements

* `comesTo_hasRevision` — a probe goes on or fails
* `comesTo_findMax`, `comesTo_fetchChunks` — the search and the chunks
* `Client.fetching_ends` — how fetching the log of a document ends
-/

namespace EditHistory.Docs

open Web Client

/-! ### The search -/

/-- How far the search for the last revision is: a bound is doubled, or a range is halved. -/
inductive Stage where
  | doubling (low high : Nat)
  | halving (low high : Nat)

namespace Stage

/-- Where the search starts. -/
def first : Stage := .doubling 1 firstBound

/-- The revision that is asked for next, until the range is empty. -/
def index? : Stage → Option Nat
  | .doubling _ high => some high
  | .halving low high => if low ≤ high then some ((low + high) / 2) else none

/-- The upper end of the range. -/
def high : Stage → Nat
  | .doubling _ high => high
  | .halving _ high => high

/-- The stage after asking for a revision that could be had, or could not. -/
def next : Stage → Bool → Stage
  | .doubling _ high, true => .doubling high (high * 2)
  | .doubling low high, false => .halving low high
  | .halving low high, true => .halving ((low + high) / 2 + 1) high
  | .halving low high, false => .halving low ((low + high) / 2 - 1)

end Stage

/-- **The single revisions that a search asks for.**  Whatever gives no part of the log counts as a missing revision. -/
inductive Search : Stage → List Event → Stage → Prop
  | here (stage : Stage) : Search stage [] stage
  | had {stage last : Stage} {index : Nat} {reply : Reply} {events : List Event} {v : Value}
      (asks : stage.index? = some index) (gives : reply.Gives (.ok v))
      (rest : Search (stage.next true) events last) : Search stage (⟨(index, index), reply⟩ :: events) last
  | missing {stage last : Stage} {index : Nat} {reply : Reply} {events : List Event} {e : Error}
      (asks : stage.index? = some index) (gives : reply.Gives (.error e))
      (rest : Search (stage.next false) events last) : Search stage (⟨(index, index), reply⟩ :: events) last

/-- **What a part of the search comes to.**  As long as the service answers, the search goes on; the first time that it
does not, the search has failed. -/
inductive Leads (stage : Stage) (events : List Event) : Except Error Stage → Prop
  | on {last : Stage} (search : Search stage events last) (answered : ∀ x ∈ events, ¬ x.reply.IsFatal) :
      Leads stage events (.ok last)
  | failed (before : List Event) {x : Event} {last : Stage} {e : Error} (whole : events = before ++ [x])
      (search : Search stage events last) (answered : ∀ y ∈ before, ¬ y.reply.IsFatal) (fatal : x.reply.IsFatal)
      (gives : x.reply.Gives (.error e)) : Leads stage events (.error e)

/-- **What the search comes to**: the upper end of the range when it is empty, or a failure. -/
inductive Ends (stage : Stage) (events : List Event) : Except Error Nat → Prop
  | found {last : Stage} (leads : Leads stage events (.ok last)) (empty : last.index? = none) :
      Ends stage events (.ok last.high)
  | failed {e : Error} (leads : Leads stage events (.error e)) : Ends stage events (.error e)

variable {stage middle last : Stage} {events later : List Event}

theorem Search.append (search : Search stage events middle) (rest : Search middle later last) :
    Search stage (events ++ later) last := by
  induction search with
  | here => exact rest
  | had asks gives _ ih => exact .had asks gives (ih rest)
  | missing asks gives _ ih => exact .missing asks gives (ih rest)

theorem Leads.append {o : Except Error Stage} (leads : Leads stage events (.ok middle)) (rest : Leads middle later o) :
    Leads stage (events ++ later) o := by
  obtain ⟨search, answered⟩ := leads
  cases rest with
  | on search' answered' => exact .on (search.append search') (List.forall_mem_append.mpr ⟨answered, answered'⟩)
  | failed before whole search' answered' fatal gives =>
      have answered := List.forall_mem_append.mpr ⟨answered, answered'⟩
      refine .failed (events ++ before) ?_ (search.append search') answered fatal gives
      rw [whole, List.append_assoc]

theorem Ends.after {o : Except Error Nat} (leads : Leads stage events (.ok middle)) (rest : Ends middle later o) :
    Ends stage (events ++ later) o := by
  cases rest with
  | found leads' empty => exact .found (leads.append leads') empty
  | failed leads' => exact .failed (leads.append leads')

variable {client : Client} {script : Nat → Option String} {doc : String} {s : Session}

/-- Only a number that can be written is asked for. -/
theorem Turn.written {index : Nat} {reply : Reply} {t : Session} (turn : Turn script doc s (index, index) reply t)
    (answered : ¬ reply.IsFatal) : index < indexLimit := by
  cases turn with
  | noToken => exact absurd trivial answered
  | refused => exact absurd trivial answered
  | answered given sent =>
      have short : isTooLong (index : Int) = false := by
        unfold refusal? at sent
        split at sent
        · cases sent
        · split at sent
          · cases sent
          next numbers => exact Bool.not_eq_true _ ▸ (not_or.mp numbers).1
      exact isTooLong_eq_false_iff.mp short

section

variable (follows : client.Follows script)
  (ascii : ∀ n token, script n = some token → ∀ c ∈ token.toList, c.toNat < 0x80)

include follows ascii

/-- **Asking for a single revision.**  An answer leads the search on, whether it has the revision or not. -/
theorem comesTo_hasRevision (stage : Stage) {index : Nat} (asks : stage.index? = some index)
    (connected : s.closed = false) :
    Action.ComesTo (client.hasRevision doc index) s fun o t => ∃ events,
      Course script doc s events t ∧ Leads stage events (o.map stage.next) ∧
        ∀ had, o = .ok had → index < indexLimit := by
  refine (comesTo_revisionData_of_follows follows ascii connected index index).attempt.bind ?_ ?_
  · rintro inner t ⟨_, ⟨⟩, reply, turn, gives⟩
    have course : Course script doc s [⟨(index, index), reply⟩] t := .single turn
    cases inner with
    | ok v =>
        have answered : ¬ reply.IsFatal := gives.not_isFatal
        refine ⟨_, course, .on (.had asks gives (.here _)) ?_, fun _ _ => turn.written answered⟩
        exact List.forall_mem_singleton.mpr answered
    | error e =>
        have kind := gives.isAnswer_iff turn.isAnswer_refusal
        cases answer : e.isAnswer with
        | true =>
            have answered := kind.mp answer
            simp only [answer, if_true]
            refine ⟨_, course, .on (.missing asks gives (.here _)) ?_, fun _ _ => turn.written answered⟩
            exact List.forall_mem_singleton.mpr answered
        | false =>
            have fatal : reply.IsFatal := by
              by_contra answered
              rw [kind.mpr answered] at answer
              cases answer
            simp only [answer, Bool.false_eq_true, if_false]
            exact ⟨_, course, .failed [] rfl (.missing asks gives (.here _)) nofun fatal gives, nofun⟩
  · rintro e t ⟨inner, never, -⟩
    cases never

/-- **Doubling** goes on until a revision is missing.  There is always a doubling left: a number that is too long to be
asked for comes before the last of them. -/
theorem comesTo_findBound {fuel low high : Nat} (positive : 1 ≤ low) (ordered : low ≤ high)
    (below : high < 2 * indexLimit) (enough : 2 * indexLimit ≤ high * 2 ^ fuel) (connected : s.closed = false) :
    Action.ComesTo (client.findBound doc fuel low high) s fun o t => ∃ events,
      Course script doc s events t ∧ Leads (.doubling low high) events (o.map fun p => .halving p.1 p.2) ∧
        ∀ low' high', o = .ok (low', high') → 1 ≤ low' := by
  induction fuel generalizing s low high with
  | zero => omega
  | succ fuel ih =>
      rw [findBound]
      refine (comesTo_hasRevision follows ascii (.doubling low high) rfl connected).bind ?_ ?_
      · rintro had t ⟨events, course, leads, written⟩
        have written := written had rfl
        cases had with
        | false =>
            refine ⟨events, course, leads, ?_⟩
            rintro low' high' ⟨⟩
            exact positive
        | true =>
            have next : high * 2 ^ (fuel + 1) = high * 2 * 2 ^ fuel := by
              rw [Nat.pow_succ, Nat.mul_assoc, Nat.mul_comm (2 ^ fuel) 2]
            have doubled := Nat.le_trans enough (Nat.le_of_eq next)
            refine (ih (by omega) (by omega) (by omega) doubled (course.closed.trans connected)).mono ?_
            rintro o u ⟨later, course', leads', positive'⟩
            exact ⟨events ++ later, course.append course', leads.append leads', positive'⟩
      · rintro e t ⟨events, course, leads, -⟩
        refine ⟨events, course, leads, ?_⟩
        rintro low' high' ⟨⟩

/-- **Halving** goes on until the range is empty. -/
theorem comesTo_narrow {fuel low high : Nat} (positive : 1 ≤ low) (enough : high + 1 ≤ fuel + low)
    (connected : s.closed = false) :
    Action.ComesTo (client.narrow doc fuel low high) s fun o t => ∃ events,
      Course script doc s events t ∧ Ends (.halving low high) events o := by
  have ended {s : Session} {low high : Nat} (empty : ¬ low ≤ high) :
      Action.ComesTo (pure high : Action Session Error Nat) s fun o t => ∃ events,
        Course script doc s events t ∧ Ends (.halving low high) events o :=
    ⟨[], .done s, .found (.on (.here _) nofun) (if_neg empty)⟩
  induction fuel generalizing s low high with
  | zero => exact ended (by omega)
  | succ fuel ih =>
      unfold narrow
      split
      next inside =>
        refine (comesTo_hasRevision follows ascii (.halving low high) (if_pos inside) connected).bind ?_ ?_
        · rintro had t ⟨events, course, leads, -⟩
          have connected := course.closed.trans connected
          cases had with
          | true =>
              refine (ih (by omega) (by omega) connected).mono ?_
              rintro o u ⟨later, course', ends⟩
              exact ⟨events ++ later, course.append course', .after leads ends⟩
          | false =>
              refine (ih positive (by omega) connected).mono ?_
              rintro o u ⟨later, course', ends⟩
              exact ⟨events ++ later, course.append course', .after leads ends⟩
        · rintro e t ⟨events, course, leads, -⟩
          exact ⟨events, course, .failed leads⟩
      next outside => exact ended outside

/-- **The search.** -/
theorem comesTo_findMax (connected : s.closed = false) :
    Action.ComesTo (client.findMax doc) s fun o t => ∃ events,
      Course script doc s events t ∧ Ends .first events o := by
  have far : 2 * indexLimit ≤ firstBound * 2 ^ doublingLimit :=
    Nat.mul_le_mul (show 2 ≤ firstBound by decide) indexLimit_le_two_pow
  have near : firstBound < 2 * indexLimit := by
    have : firstBound < indexLimit := lt_indexLimit_of_lt (by decide)
    omega
  refine (comesTo_findBound follows ascii (Nat.le_refl 1) (by decide) near far connected).bind ?_ ?_
  · rintro ⟨low, high⟩ t ⟨events, course, leads, positive⟩
    refine (comesTo_narrow follows ascii (positive low high rfl) (Nat.le_add_right _ _)
      (course.closed.trans connected)).bind ?_ ?_
    · rintro h u ⟨later, course', ends⟩
      exact ⟨events ++ later, course.append course', .after leads ends⟩
    · rintro e u ⟨later, course', ends⟩
      exact ⟨events ++ later, course.append course', .after leads ends⟩
  · rintro e t ⟨events, course, leads, -⟩
    exact ⟨events, course, .failed leads⟩

end

/-! ### The chunks -/

/-- **What comes of asking for some ranges.**  All of them are asked for and have parts of the log, or they are asked
for until the first reply without one. -/
inductive Collects (ranges : List (Nat × Nat)) (events : List Event) : Except Error (List Value) → Prop
  | all {parts : List Value} (asked : events.map Event.range = ranges)
      (gives : List.Forall₂ (fun x v => x.reply.Gives (.ok v)) events parts) : Collects ranges events (.ok parts)
  | failed (before : List Event) {x : Event} {e : Error} (whole : events = before ++ [x])
      (asked : events.map Event.range <+: ranges) (had : ∀ y ∈ before, ∃ v, y.reply.Gives (.ok v))
      (gives : x.reply.Gives (.error e)) : Collects ranges events (.error e)

theorem Collects.cons {range : Nat × Nat} {reply : Reply} {v : Value} (gives : reply.Gives (.ok v))
    {ranges : List (Nat × Nat)} {o : Except Error (List Value)} (rest : Collects ranges events o) :
    Collects (range :: ranges) (⟨range, reply⟩ :: events) (o.map (v :: ·)) := by
  cases rest with
  | all asked parts => exact .all (congrArg _ asked) (.cons gives parts)
  | failed before whole asked had fails =>
      refine .failed (⟨range, reply⟩ :: before) (congrArg _ whole) (List.cons_prefix_cons.mpr ⟨rfl, asked⟩) ?_ fails
      exact List.forall_mem_cons.mpr ⟨⟨v, gives⟩, had⟩

section

variable (follows : client.Follows script)
  (ascii : ∀ n token, script n = some token → ∀ c ∈ token.toList, c.toNat < 0x80)

include follows ascii

/-- **Asking for the chunks.** -/
theorem comesTo_fetchChunks (size : Nat) (delay : Value) (last fuel start : Nat) (connected : s.closed = false) :
    Action.ComesTo (client.fetchChunks doc size delay last fuel start) s fun o t => ∃ events,
      Course script doc s events t ∧ Collects (chunkRanges size last fuel start) events o := by
  have none (s : Session) : Action.ComesTo (pure [] : Action Session Error (List Value)) s fun o t => ∃ events,
      Course script doc s events t ∧ Collects [] events o :=
    ⟨[], .done s, .all rfl .nil⟩
  induction fuel generalizing s start with
  | zero => exact none s
  | succ fuel ih =>
      unfold fetchChunks chunkRanges
      split
      · refine (comesTo_revisionData_of_follows follows ascii connected start _).bind ?_ ?_
        · rintro part t ⟨reply, turn, gives⟩
          have connected := turn.closed.trans connected
          -- Whether a pause follows or not, the rest of the course is the same.
          have rest {u : Session} (connected : u.closed = false) (resumed : ∀ events v,
              Course script doc u events v → Course script doc t events v) :
              Action.ComesTo (do
                let chunks ← client.fetchChunks doc size delay last fuel (start + size)
                return part :: chunks) u fun o v => ∃ events, Course script doc s events v ∧
                  Collects ((start, min (start + size - 1) last) :: chunkRanges size last fuel (start + size))
                    events o := by
            refine (ih (start + size) connected).bind ?_ ?_
            · rintro parts v ⟨events, course, collects⟩
              exact ⟨_, .asked turn (resumed _ _ course), collects.cons gives⟩
            · rintro e v ⟨events, course, collects⟩
              exact ⟨_, .asked turn (resumed _ _ course), collects.cons gives⟩
          split
          · exact Action.ComesTo.done (a := ()) rfl (rest connected fun _ _ => .paused delay)
          · exact rest connected fun _ _ => id
        · rintro e t ⟨reply, turn, gives⟩
          have course : Course script doc s [⟨(start, min (start + size - 1) last), reply⟩] t := .single turn
          refine ⟨_, course, .failed [] rfl (List.cons_prefix_cons.mpr ⟨rfl, List.nil_prefix⟩) ?_ gives⟩
          exact List.forall_mem_nil _
      · exact none s

/-- **How fetching the log of a document ends**, on an open connection to any service and with any script of tokens.

All that a call does is to ask for ranges of the log in turn (`Course`); for a range without a token nothing is sent
(`Turn`).  The search asks for single revisions, and whatever an answer says, it only tells whether the revision is
there (`Search`).  The first reply without an answer is the last one of the call, which fails with the error that the
reply means (`Ends`): that nobody is signed in, that nothing came back, with the status zero, or why the request cannot
be sent.  The whole log is asked for after the search, unless that has failed, and the first chunk without a part of
the log ends the call with the error of its reply, which has the status of the answer (`Collects`).

A request that cannot be sent is one for a number that is too long to be written or for a document with an id that is
too long for an address. -/
theorem Client.fetching_ends (chars : ∀ c ∈ doc.toList, isIdChar c = true) (connected : s.closed = false) :
    (∃ events, Course script doc s events (client.findMax doc s).state ∧
      Ends .first events (client.findMax doc s).outcome) ∧
    (∀ (size : Nat) (delay : Value), 1 ≤ size →
      (∃ events e, Course script doc s events (client.allRevisionData doc size delay s).state ∧
        Ends .first events (.error e) ∧ (client.allRevisionData doc size delay s).outcome = .error e) ∨
      ∃ probes last events, Course script doc s (probes ++ events) (client.allRevisionData doc size delay s).state ∧
        Ends .first probes (.ok last) ∧
        Collects (chunks size last) events (client.allRevisionData doc size delay s).outcome) ∧
    (∀ (start stop : Nat) (e : Error), refusal? doc start stop = some e →
      e = .unsendableAddress ∧ idLimit < doc.toList.length ∨
        e = .indexTooLong ∧ (indexLimit ≤ start ∨ indexLimit ≤ stop)) ∧
    ∀ start stop : Nat, addressLimit < doc.toList.length → refusal? doc start stop = some .unsendableAddress := by
  refine ⟨comesTo_findMax follows ascii connected, fun size delay positive => ?_,
    fun _ _ _ => refusal?_eq_some chars, fun start stop long => refusal?_of_long long start stop⟩
  show Action.ComesTo (client.allRevisionData doc size delay) s fun o t =>
    (∃ events e, Course script doc s events t ∧ Ends .first events (.error e) ∧ o = .error e) ∨
      ∃ probes last events, Course script doc s (probes ++ events) t ∧ Ends .first probes (.ok last) ∧
        Collects (chunks size last) events o
  unfold allRevisionData
  rw [if_neg (by omega), Int.toNat_natCast]
  refine (comesTo_findMax follows ascii connected).bind ?_ ?_
  · rintro last t ⟨probes, course, ends⟩
    have ranges : chunkRanges size last last 1 = chunks size last := chunkRanges_eq_chunks positive
    refine (comesTo_fetchChunks follows ascii size delay last last 1 (course.closed.trans connected)).bind ?_ ?_
    · rintro parts u ⟨events, course', collects⟩
      exact Or.inr ⟨probes, last, events, course.append course', ends, ranges ▸ collects⟩
    · rintro e u ⟨events, course', collects⟩
      exact Or.inr ⟨probes, last, events, course.append course', ends, ranges ▸ collects⟩
  · rintro e t ⟨events, course, ends⟩
    exact Or.inl ⟨events, e, course, ends, rfl⟩

end

/-- A script with a token for one request and none for the next. -/
def briefCredentials : List (Option Credential) := [some (.value (.str "token")), none]

theorem Client.fetching_ends_of_brief :
    (Client.ofCredentials briefCredentials).Follows (scriptOf briefCredentials) ∧
      (∀ n token, scriptOf briefCredentials n = some token → ∀ c ∈ token.toList, c.toNat < 0x80) ∧
      (∀ c ∈ "doc-1".toList, isIdChar c = true) ∧ threeSession.closed = false ∧
      (∃ events,
        Course (scriptOf briefCredentials) "doc-1" threeSession events
            ((Client.ofCredentials briefCredentials).findMax "doc-1" threeSession).state ∧
          Ends .first events ((Client.ofCredentials briefCredentials).findMax "doc-1" threeSession).outcome) ∧
      refusal? "doc-1" (1 : Nat) (3 : Nat) = none := by
  have follows := Client.follows_ofCredentials briefCredentials
  have ascii : ∀ n token, scriptOf briefCredentials n = some token → ∀ c ∈ token.toList, c.toNat < 0x80 :=
    scriptOf_forall (by simp [briefCredentials, Credential.text?, Value.truthy, Value.text])
  have chars : ∀ c ∈ "doc-1".toList, isIdChar c = true := List.all_eq_true.mp (by decide)
  have connected : threeSession.closed = false := rfl
  obtain ⟨search, -, refused, -⟩ := fetching_ends follows ascii chars connected
  refine ⟨follows, ascii, chars, connected, search, ?_⟩
  -- Neither the id nor one of the numbers is too long.
  cases refusal : refusal? "doc-1" (1 : Nat) (3 : Nat) with
  | none => rfl
  | some e =>
      have long : ¬ idLimit < "doc-1".toList.length := by decide
      have one := lt_indexLimit_of_lt (n := 1) (by decide)
      have three := lt_indexLimit_of_lt (n := 3) (by decide)
      rcases refused 1 3 e refusal with ⟨-, id⟩ | ⟨-, first | second⟩
      · exact absurd id long
      · exact absurd first (Nat.not_le.mpr one)
      · exact absurd second (Nat.not_le.mpr three)

end EditHistory.Docs
