import EditHistory.Proofs.Docs.Requests
import Mathlib.Data.Nat.Find

/-!
# The search for the last revision

Whether single revisions can be had is all that the search learns.  It ends where one can be had and the next one
cannot, wherever that is; if exactly the first revisions of a log can be had, it finds how many they are.

Two bounds close in on the place.  Before the halving starts neither bound is beyond it: the lower one is the first
index or one that can be had, the upper one is an index that cannot.  A halving that moves a bound leaves the answer it
got just outside the range, and a bound that never moves cannot be passed by the other one.

## Main definitions

* `Client.Probes` — the answers about single revisions
* `Brackets` — the invariant of the halving
* `AnswersBy` — a service that answers about a single revision by its index only

## Main statements

* `Client.ensures_findBound`, `Client.ensures_narrow` — the two loops
* `Client.ensures_findMax` — a revision that can be had, and the next one that cannot
* `Client.ensures_findMax_of_count` — the number of revisions
* `Client.outcome_findMax` — the search on any service that answers by the index only
-/

namespace EditHistory.Docs

open Web

variable {client : Client} {I : Session → Prop} {doc : String} {probe : Nat → Bool}

/-- Asking for a single revision has an outcome that depends on its index only. -/
def Client.Probes (client : Client) (I : Session → Prop) (doc : String) (probe : Nat → Bool) : Prop :=
  ∀ index : Nat, index < indexLimit →
    Action.Ensures I (client.hasRevision doc index) (· = .ok (probe index))

/-- It is enough that the log of a single revision comes, or an answer that says no. -/
theorem Client.probes_of_revisionData
    (asked : ∀ index : Nat, index < indexLimit →
      Action.Ensures I (client.revisionData doc index index) fun o =>
        if probe index then ∃ v, o = .ok v else ∃ e, o = .error e ∧ e.isAnswer = true) :
    client.Probes I doc probe := by
  intro index written
  refine (asked index written).attempt.bind ?_ ?_
  · rintro _ ⟨inner, given, known⟩
    obtain rfl := Except.ok.inj given
    cases there : probe index with
    | true =>
        rw [there, if_pos rfl] at known
        obtain ⟨v, rfl⟩ := known
        exact Action.ensures_pure true
    | false =>
        rw [there, if_neg Bool.false_ne_true] at known
        obtain ⟨e, rfl, answer⟩ := known
        simp only [answer, if_true]
        exact Action.ensures_pure false
  · rintro e ⟨inner, never, -⟩
    cases never

namespace Client

/-! ### Doubling -/

/-- **Doubling** ends at an index that cannot be had, with one before it that can, unless the first one was tried. -/
theorem ensures_findBound (probes : client.Probes I doc probe) {j fuel low high : Nat} (enough : j < fuel)
    (ordered : low ≤ high) (missing : probe (high * 2 ^ j) = false)
    (written : high * 2 ^ j < indexLimit) :
    Action.Ensures I (client.findBound doc fuel low high) fun o => ∃ low' high', o = .ok (low', high') ∧
      (low' = low ∨ probe low' = true) ∧ probe high' = false ∧ low ≤ low' ∧ low' ≤ high' ∧ high' ≤ high * 2 ^ j := by
  induction j generalizing fuel low high with
  | zero =>
      obtain ⟨fuel, rfl⟩ := Nat.exists_eq_add_of_lt enough
      rw [Nat.pow_zero, Nat.mul_one] at missing written ⊢
      rw [Nat.zero_add, findBound]
      refine (probes high written).andThen ?_
      simp only [missing, Bool.false_eq_true, if_false]
      refine (Action.ensures_pure (low, high)).mono ?_
      rintro _ rfl
      exact ⟨low, high, rfl, Or.inl rfl, missing, Nat.le_refl _, ordered, Nat.le_refl _⟩
  | succ j ih =>
      obtain ⟨fuel, rfl⟩ : ∃ rest, fuel = rest + 1 := ⟨fuel - 1, by omega⟩
      have next : high * 2 ^ (j + 1) = high * 2 * 2 ^ j := by
        rw [Nat.pow_succ, Nat.mul_assoc, Nat.mul_comm (2 ^ j) 2]
      have grows : high ≤ high * 2 ^ (j + 1) := Nat.le_mul_of_pos_right high (Nat.two_pow_pos _)
      rw [findBound]
      refine (probes high (Nat.lt_of_le_of_lt grows written)).andThen ?_
      cases there : probe high with
      | false =>
          simp only [Bool.false_eq_true, if_false]
          refine (Action.ensures_pure (low, high)).mono ?_
          rintro _ rfl
          exact ⟨low, high, rfl, Or.inl rfl, there, Nat.le_refl _, ordered, grows⟩
      | true =>
          -- What was tried is the lower bound now, and the index that is missing is one doubling nearer.
          simp only [if_true]
          rw [next] at missing written ⊢
          refine (ih (Nat.lt_of_succ_lt_succ enough) (by omega) missing written).mono ?_
          rintro _ ⟨low', high', rfl, below, above, least, inside, most⟩
          refine ⟨low', high', rfl, Or.inr ?_, above, by omega, inside, most⟩
          rcases below with rfl | had
          · exact there
          · exact had

/-! ### Halving -/

/-- **The invariant of the halving.**  Just below the range, or at its lower end, is an index that can be had, unless
the range starts at the first one; just above it, or at its upper end, is one that cannot. -/
structure Brackets (probe : Nat → Bool) (low high : Nat) : Prop where
  positive : 1 ≤ low
  ordered : low ≤ high + 1
  below : low = 1 ∨ probe (low - 1) = true ∨ (probe low = true ∧ low ≤ high)
  above : probe (high + 1) = false ∨ (probe high = false ∧ low ≤ high)

/-- The middle can be had, so the place is above it. -/
theorem Brackets.up {low high middle : Nat} (brackets : Brackets probe low high) (most : middle ≤ high)
    (had : probe middle = true) : Brackets probe (middle + 1) high := by
  obtain ⟨-, -, -, above⟩ := brackets
  refine ⟨by omega, by omega, Or.inr (Or.inl had), ?_⟩
  rcases above with outside | ⟨atEnd, -⟩
  · exact Or.inl outside
  · have differs : middle ≠ high := by
      rintro rfl
      rw [had] at atEnd
      cases atEnd
    exact Or.inr ⟨atEnd, by omega⟩

/-- The middle cannot be had, so the place is below it. -/
theorem Brackets.down {low high middle : Nat} (brackets : Brackets probe low high) (least : low ≤ middle)
    (missing : probe middle = false) : Brackets probe low (middle - 1) := by
  obtain ⟨positive, -, below, -⟩ := brackets
  have next : middle - 1 + 1 = middle := by omega
  refine ⟨positive, by omega, ?_, Or.inl (next.symm ▸ missing)⟩
  rcases below with first | outside | ⟨atStart, -⟩
  · exact Or.inl first
  · exact Or.inr (Or.inl outside)
  · have differs : low ≠ middle := by
      rintro rfl
      rw [missing] at atStart
      cases atStart
    exact Or.inr (Or.inr ⟨atStart, by omega⟩)

/-- When the range is empty, its upper end is the place. -/
theorem Brackets.meet {low high : Nat} (brackets : Brackets probe low high) (empty : high < low) :
    (high = 0 ∨ probe high = true) ∧ probe (high + 1) = false := by
  obtain ⟨positive, ordered, below, above⟩ := brackets
  constructor
  · rcases below with first | outside | ⟨-, inside⟩
    · exact Or.inl (by omega)
    · have same : low - 1 = high := by omega
      exact Or.inr (same ▸ outside)
    · omega
  · rcases above with outside | ⟨-, inside⟩
    · exact outside
    · omega

/-- **Halving** ends at the place. -/
theorem ensures_narrow (probes : client.Probes I doc probe) {fuel low high : Nat} (enough : high + 1 ≤ fuel + low)
    (written : high < indexLimit) (brackets : Brackets probe low high) :
    Action.Ensures I (client.narrow doc fuel low high) fun o => ∃ h, o = .ok h ∧
      (h = 0 ∨ probe h = true) ∧ probe (h + 1) = false := by
  have ended (empty : high < low) : Action.Ensures I (pure high : Action Session Error Nat) fun o => ∃ h, o = .ok h ∧
      (h = 0 ∨ probe h = true) ∧ probe (h + 1) = false := by
    refine (Action.ensures_pure high).mono ?_
    rintro _ rfl
    exact ⟨high, rfl, brackets.meet empty⟩
  induction fuel generalizing low high with
  | zero => exact ended (by omega)
  | succ fuel ih =>
      unfold narrow
      split
      · have positive := brackets.positive
        have least : low ≤ (low + high) / 2 := by omega
        have most : (low + high) / 2 ≤ high := by omega
        refine (probes _ (Nat.lt_of_le_of_lt most written)).andThen ?_
        cases there : probe ((low + high) / 2) with
        | true =>
            simp only [if_true]
            have up := brackets.up most there
            refine ih (by omega) written up fun empty => (Action.ensures_pure high).mono ?_
            rintro _ rfl
            exact ⟨high, rfl, up.meet empty⟩
        | false =>
            simp only [Bool.false_eq_true, if_false]
            have down := brackets.down least there
            refine ih (by omega) (by omega) down fun empty => (Action.ensures_pure _).mono ?_
            rintro _ rfl
            exact ⟨_, rfl, down.meet empty⟩
      · exact ended (by omega)

/-! ### The whole search -/

/-- The doublings that are tried lead beyond every index that can be asked for. -/
theorem indexLimit_le_two_pow : indexLimit ≤ 2 ^ doublingLimit := by
  have limit : doublingLimit = 4 * Number.digitLimit := rfl
  rw [limit, Nat.pow_mul]
  exact Nat.pow_le_pow_left (by decide) _

/-- A power of two below the longest index is among the doublings that are tried. -/
theorem lt_doublingLimit {j : Nat} (below : firstBound * 2 ^ j < indexLimit) : j < doublingLimit := by
  have first : 2 ^ j ≤ firstBound * 2 ^ j := Nat.le_mul_of_pos_left _ (by decide)
  have power := Nat.lt_of_le_of_lt first (Nat.lt_of_lt_of_le below indexLimit_le_two_pow)
  exact (Nat.pow_lt_pow_iff_right (by decide)).mp power

/-- **The search ends** at a revision that can be had, or before the first one, and the next one cannot be had, if one
of the indices that the doubling may try cannot. -/
theorem ensures_findMax (probes : client.Probes I doc probe) {j : Nat} (missing : probe (firstBound * 2 ^ j) = false)
    (written : firstBound * 2 ^ j < indexLimit) :
    Action.Ensures I (client.findMax doc) fun o => ∃ h, o = .ok h ∧
      (h = 0 ∨ probe h = true) ∧ probe (h + 1) = false := by
  have first : 1 ≤ firstBound := by decide
  refine (ensures_findBound probes (lt_doublingLimit written) first missing written).bind ?_ nofun
  rintro _ ⟨low, high, found, below, above, least, inside, most⟩
  obtain rfl := Except.ok.inj found
  have brackets : Brackets probe low high := by
    refine ⟨least, by omega, ?_, Or.inr ⟨above, inside⟩⟩
    exact below.imp_right fun had => Or.inr ⟨had, inside⟩
  refine (ensures_narrow probes (by omega) (by omega) brackets).bind ?_ nofun
  rintro h ⟨_, same, place⟩
  obtain rfl := Except.ok.inj same
  refine (Action.ensures_note _ _).andThen ((Action.ensures_pure h).mono ?_)
  rintro _ rfl
  exact ⟨h, rfl, place⟩

/-- **The number of revisions is found** if exactly the first ones can be had, and twice as many could still be
counted. -/
theorem ensures_findMax_of_count {count : Nat} (countable : 2 * count < indexLimit)
    (probes : client.Probes I doc fun index => decide (1 ≤ index ∧ index ≤ count)) :
    Action.Ensures I (client.findMax doc) (· = .ok count) := by
  have beyond : ∃ j, count < firstBound * 2 ^ j :=
    ⟨count, Nat.lt_of_lt_of_le Nat.lt_two_pow_self (Nat.le_mul_of_pos_left _ (by decide))⟩
  have written : firstBound * 2 ^ Nat.find beyond < indexLimit := by
    cases first : Nat.find beyond with
    | zero => exact lt_indexLimit_of_lt (by decide)
    | succ j =>
        have before := Nat.find_min beyond (m := j) (by omega)
        rw [Nat.pow_succ, ← Nat.mul_assoc]
        omega
  have missing := Nat.find_spec beyond
  refine (ensures_findMax probes (j := Nat.find beyond) (by simp; omega) written).mono ?_
  rintro _ ⟨h, rfl, had, next⟩
  simp only [decide_eq_true_eq, decide_eq_false_iff_not] at had next
  congr 1
  omega

/-! ### Any service -/

end Client

/-- **A service that answers about a single revision by its index only**: with its log, or with an answer that says no.
What was asked before, and with which token, makes no difference. -/
structure AnswersBy (server : Server) (doc : String) (probe : Nat → Bool) : Prop where
  loads : ∀ index, probe index = true → ∀ earlier token, ∃ v,
    logOutcome (server earlier (.fetch (logUrl doc) (Client.rangeQuery doc index index) token)) = .ok v
  fails : ∀ index, probe index = false → ∀ earlier token, ∃ e,
    logOutcome (server earlier (.fetch (logUrl doc) (Client.rangeQuery doc index index) token)) = .error e ∧
      e.isAnswer = true

namespace Client

variable {server : Server}

theorem probes_of_answersBy (ready : client.Ready server I) (addressable : IsAddressable doc)
    (answers : AnswersBy server doc probe) : client.Probes I doc probe := by
  refine probes_of_revisionData fun index written => ?_
  have short : isTooLong index = false := isTooLong_natCast written
  refine (ensures_revisionData ready addressable short short).mono ?_
  rintro _ ⟨earlier, token, rfl⟩
  cases there : probe index with
  | true =>
      obtain ⟨v, given⟩ := answers.loads index there earlier token
      exact ⟨v, given⟩
  | false =>
      obtain ⟨e, given, answer⟩ := answers.fails index there earlier token
      exact ⟨e, given, answer⟩

/-- An index with too many digits is not asked for. -/
theorem ensures_hasRevision_of_long (ready : client.Ready server I) (addressable : IsAddressable doc) {index : Nat}
    (long : indexLimit ≤ index) :
    Action.Ensures I (client.hasRevision doc index) (· = .error .indexTooLong) := by
  have tooLong : isTooLong index = true := by
    rw [← Bool.not_eq_false, isTooLong_eq_false_iff]
    exact Nat.not_lt.mpr long
  refine (ensures_revisionData_of_long ready addressable tooLong).attempt.bind ?_ ?_
  · rintro _ ⟨inner, given, rfl⟩
    obtain rfl := Except.ok.inj given
    exact Action.ensures_fail _
  · rintro e ⟨inner, never, -⟩
    cases never

/-- Whatever the service answers, only an index that can be written is found to be there or not. -/
theorem ensures_hasRevision (ready : client.Ready server I) (addressable : IsAddressable doc) (index : Nat) :
    Action.Ensures I (client.hasRevision doc index) fun o => ∀ b, o = .ok b → index < indexLimit := by
  by_cases written : index < indexLimit
  · have short : isTooLong index = false := isTooLong_natCast written
    refine (ensures_revisionData ready addressable short short).attempt.bind ?_ (fun _ _ _ _ => written)
    intro inner _
    have any {x : Action Session Error Bool} {Q : Except Error Bool → Prop} (ensures : Action.Ensures I x Q) :
        Action.Ensures I x fun o => ∀ b, o = .ok b → index < indexLimit :=
      ensures.mono fun _ _ _ _ => written
    cases inner with
    | ok v => exact any (Action.ensures_pure true)
    | error e =>
        simp only
        split
        · exact any (Action.ensures_pure false)
        · exact any (Action.ensures_fail e)
  · refine (ensures_hasRevision_of_long ready addressable (Nat.not_lt.mp written)).mono ?_
    rintro _ rfl b ⟨⟩

theorem ensures_findBound_written (ready : client.Ready server I) (addressable : IsAddressable doc)
    (fuel low high : Nat) :
    Action.Ensures I (client.findBound doc fuel low high)
      fun o => ∀ low' high', o = .ok (low', high') → high' < indexLimit := by
  induction fuel generalizing low high with
  | zero =>
      refine (Action.ensures_fail _).mono ?_
      rintro _ rfl low' high' ⟨⟩
  | succ fuel ih =>
      rw [findBound]
      refine (ensures_hasRevision ready addressable high).bind ?_ (fun _ _ _ _ never => nomatch never)
      intro there written
      cases there with
      | true => exact ih high (high * 2)
      | false =>
          refine (Action.ensures_pure (low, high)).mono ?_
          rintro _ rfl low' high' ⟨⟩
          exact written false rfl

theorem ensures_narrow_le (ready : client.Ready server I) (addressable : IsAddressable doc) (fuel low high : Nat) :
    Action.Ensures I (client.narrow doc fuel low high) fun o => ∀ h, o = .ok h → h ≤ high := by
  have ended (low high : Nat) : Action.Ensures I (pure high : Action Session Error Nat)
      fun o => ∀ h, o = .ok h → h ≤ high := by
    refine (Action.ensures_pure high).mono ?_
    rintro _ rfl h ⟨⟩
    exact Nat.le_refl high
  induction fuel generalizing low high with
  | zero => exact ended low high
  | succ fuel ih =>
      unfold narrow
      split
      · -- The upper bound only ever goes down, whatever the answers are.
        refine (ensures_hasRevision ready addressable ((low + high) / 2)).bind ?_ (fun _ _ _ never => nomatch never)
        intro there _
        cases there with
        | true => exact ih ((low + high) / 2 + 1) high
        | false =>
            refine (ih low ((low + high) / 2 - 1)).mono fun o below h found => ?_
            have := below h found
            omega
      · exact ended low high

/-- Whatever the service answers, the last revision that is found has an index that can be written. -/
theorem ensures_findMax_written (ready : client.Ready server I) (addressable : IsAddressable doc) :
    Action.Ensures I (client.findMax doc) fun o => ∀ last, o = .ok last → last < indexLimit := by
  refine (ensures_findBound_written ready addressable doublingLimit 1 firstBound).bind ?_
    (fun _ _ _ never => nomatch never)
  rintro ⟨low, high⟩ written
  refine (ensures_narrow_le ready addressable (high + 1) low high).bind ?_ (fun _ _ _ never => nomatch never)
  intro last below
  refine (Action.ensures_note _ _).andThen ((Action.ensures_pure last).mono ?_)
  rintro _ rfl h ⟨⟩
  exact Nat.lt_of_le_of_lt (below last rfl) (written low high rfl)

/-- A service that has the first three revisions of a document. -/
def threeServer : Server := fun _ request =>
  match request with
  | .fetch _ query _ =>
    if query ∈ [1, 2, 3].map fun index => rangeQuery "doc-1" index index then .response ⟨200, ['0']⟩
    else .response ⟨400, []⟩
  | .submit _ _ => .response ⟨400, []⟩

theorem threeServer_answersBy : AnswersBy threeServer "doc-1" fun index => decide (1 ≤ index ∧ index ≤ 3) := by
  have asked (index : Nat) (earlier : List Request) (token : String) :
      threeServer earlier (.fetch (logUrl "doc-1") (rangeQuery "doc-1" index index) token) =
        if 1 ≤ index ∧ index ≤ 3 then .response ⟨200, ['0']⟩ else .response ⟨400, []⟩ := by
    have known : rangeQuery "doc-1" index index ∈ [1, 2, 3].map (fun k : Int => rangeQuery "doc-1" k k) ↔
        1 ≤ index ∧ index ≤ 3 := by
      simp only [List.map_cons, List.map_nil, List.mem_cons, List.not_mem_nil, or_false, rangeQuery_inj]
      omega
    exact if_congr known rfl rfl
  constructor
  · intro index there earlier token
    rw [asked, if_pos (of_decide_eq_true there)]
    exact ⟨_, rfl⟩
  · intro index missing earlier token
    rw [asked, if_neg (of_decide_eq_false missing)]
    exact ⟨_, rfl, rfl⟩

/-- A session with this service. -/
def threeSession : Session := Session.begin threeServer Files.empty (.int 0)

end Client

end EditHistory.Docs
