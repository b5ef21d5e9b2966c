import EditHistory.Proofs.Playback.Clock
import EditHistory.Proofs.Playback.Content

/-!
# Every tick moves the cursor by one

While an engine is only started, stopped, given other options and served with calls, in whatever order, its cursor
counts the ticks: the one after `k` ticks is `k` places further, or at the last revision if that is nearer.  The tick
that arrives there ends playback, and every other one leaves the engine playing.  An engine that does not play is given
no tick, so a pause, however often and however long, neither skips a revision nor shows one twice.

## Main definitions

* `Engine.ticks`, `Engine.ticksOf` — the engines just after the ticks of one operation, and of several
* `Operation.IsTransport` — an operation that leaves moving the cursor to the timer
* `Engine.Counts` — the cursor has moved by the ticks

## Main statements

* `Engine.ticked_tick` — what a single tick does
* `Engine.counts_perform`, `Engine.counts_ticksOf` — the ticks of one operation, and of several, are counted
* `Engine.ticks_of_resting` — no ticks without playback
* `Engine.index_after_ticks` — all of it, for every state that can be reached
-/

namespace EditHistory.Playback

/-- An operation that leaves moving the cursor to the timer. -/
def Operation.IsTransport : Operation → Prop
  | .reset | .stepForward | .stepBackward | .jump _ | .jumpToEnd => False
  | _ => True

/-- An operation in which the schedule makes calls. -/
def Operation.MakesCalls : Operation → Prop
  | .fire | .fireAt _ | .advance _ => True
  | _ => False

namespace Engine

/-! ### The ticks of a run -/

/-- The engine just after a call that the schedule has made, if the call's timer was going and did its work. -/
def served (made : Option (Option Nat × Schedule)) (e : Engine) : List Engine :=
  match made with
  | some (some _, _) => [(serve made e).state]
  | _ => []

/-- The engines just after the ticks among the calls that are due up to a time. -/
def ticksUntil (time : Float) : Nat → Engine → List Engine
  | 0, _ => []
  | limit + 1, e =>
    if e.schedule.isDue time then
      served e.schedule.fire? e ++
        match (fire e).outcome with
        | .error _ => []
        | .ok _ => ticksUntil time limit (fire e).state
    else []

/-- The engines just after the ticks that an operation gives. -/
def ticks : Operation → Engine → List Engine
  | .fire, e => served e.schedule.fire? e
  | .fireAt place, e => served (e.schedule.fireAt? place) e
  | .advance seconds, e => ticksUntil (e.schedule.now + seconds) e.callLimit e
  | _, _ => []

/-- The engines just after the ticks that several operations give. -/
def ticksOf : List Operation → Engine → List Engine
  | [], _ => []
  | op :: ops, e => ticks op e ++ ticksOf ops (perform op e).state

/-! ### A single tick -/

/-- The cursor is at an index, the text is the one there, and the clock is in order. -/
structure IsAt (e : Engine) (index : Int) : Prop where
  accurate : e.IsAccurate
  keeps : e.KeepsTime
  number : e.cursor.number = .int index

/-- The engine just after a tick: it has come to its end exactly at the last revision. -/
structure IsTicked (e : Engine) (index : Int) : Prop extends IsAt e index where
  mode : e.mode = if index = e.last then .idle else .playing

theorem last_eq {e e' : Engine} (same : e'.revisions = e.revisions) : e'.last = e.last := by
  unfold last
  rw [same]

theorem IsAt.stands {e : Engine} {index : Int} (at_ : e.IsAt index) : e.StandsAt index :=
  at_.accurate.sound.stands index at_.number

theorem IsAt.of_samePage {e e' : Engine} {index : Int} (at_ : e.IsAt index) (same : SamePage e e')
    (keeps : e'.KeepsTime) : e'.IsAt index :=
  ⟨at_.accurate.of_samePage same, keeps, same.cursor ▸ at_.number⟩

/-- A step forward goes one place further, but not beyond the last revision, and says whether it has moved. -/
theorem isAt_stepForward {e : Engine} {index : Int} (at_ : e.IsAt index) :
    (stepForward e).state.IsAt (min (index + 1) e.last) ∧
      (stepForward e).outcome = .ok (decide (index < e.last)) := by
  obtain ⟨number, low, high, -⟩ := at_.stands
  have keeps := at_.keeps.of_sameClock (sameClock_stepForward e)
  unfold stepForward at keeps ⊢
  rw [Cursor.atLeast_of_number number] at keeps ⊢
  by_cases atEnd : e.last ≤ index
  · rw [if_pos (decide_eq_true atEnd)] at keeps ⊢
    have here : min (index + 1) e.last = index := by omega
    have none : ¬ index < e.last := by omega
    rw [here, decide_eq_false none]
    exact ⟨at_, rfl⟩
  · rw [if_neg (by simpa using atEnd)] at keeps ⊢
    have next : min (index + 1) e.last = index + 1 := by omega
    have ahead : index < e.last := by omega
    have moved := Cursor.number_moved number 1
    obtain ⟨accurate, outcome⟩ := accurate_moveTo at_.accurate moved (by omega) (by omega)
    rw [next, decide_eq_true ahead]
    refine ⟨⟨accurate, keeps, ?_⟩, outcome⟩
    rw [cursor_moveTo]
    exact moved

/-- **A tick of an engine that plays** goes one place further.  Playback is over just if that is the last revision,
whether the tick has moved there or was there before. -/
theorem ticked_tick {e : Engine} {index : Int} (at_ : e.IsAt index) (playing : e.mode = .playing) :
    (tick e).state.IsTicked (min (index + 1) e.last) := by
  obtain ⟨moved, outcome⟩ := isAt_stepForward at_
  obtain ⟨revisions, mode, -, -⟩ := sameClock_stepForward e
  have last : (stepForward e).state.last = e.last := last_eq revisions
  have high := at_.stands.2.2.1
  unfold tick
  rw [Step.andThen_of_ok outcome, Cursor.atLeast_of_number moved.number, last]
  by_cases past : e.last ≤ index + 1
  · have here : min (index + 1) e.last = e.last := by omega
    rw [here] at moved ⊢
    rw [decide_eq_true (Int.le_refl _), Bool.or_true, if_pos rfl]
    refine ⟨moved.of_samePage (samePage_finish _) (keepsTime_stopTimer moved.keeps.toIsWound (Or.inl rfl)), ?_⟩
    have still : (stepForward e).state.finish.state.last = e.last := (last_eq (samePage_finish _).revisions).trans last
    exact (if_pos still.symm).symm
  · have further : min (index + 1) e.last = index + 1 := by omega
    rw [further] at moved ⊢
    have ahead : index < e.last := by omega
    rw [decide_eq_true ahead, decide_eq_false past, if_neg (by decide)]
    refine ⟨moved, ?_⟩
    have before : index + 1 ≠ (stepForward e).state.last := by omega
    exact (mode.trans playing).trans (if_neg before).symm

/-! ### Counting -/

/-- From an engine at an index the ticks have led to another one: each tick one place further, and nothing else has
moved the cursor. -/
structure Counts (e : Engine) (index : Int) (ticks : List Engine) (e' : Engine) : Prop where
  revisions : e'.revisions = e.revisions
  arrives : e'.IsAt (min (index + ticks.length) e.last)
  ticked : ∀ (j : Nat) (t : Engine), ticks[j]? = some t →
    t.revisions = e.revisions ∧ t.IsTicked (min (index + j + 1) e.last)

/-- No ticks, and the cursor where it was. -/
theorem IsAt.counts {e e' : Engine} {index : Int} (at_ : e.IsAt index) (same : SamePage e e')
    (keeps : e'.KeepsTime) : Counts e index [] e' := by
  refine ⟨same.revisions, ?_, fun j t found => ?_⟩
  · have here : min (index + ([] : List Engine).length) e.last = index := by
      have high := at_.stands.2.2.1
      simp only [List.length_nil]
      omega
    rw [here]
    exact at_.of_samePage same keeps
  · rw [List.getElem?_nil] at found
    cases found

/-- One tick. -/
theorem IsTicked.counts {e e' : Engine} {index : Int} (ticked : e'.IsTicked (min (index + 1) e.last))
    (same : e'.revisions = e.revisions) : Counts e index [e'] e' := by
  refine ⟨same, ticked.toIsAt, fun j t found => ?_⟩
  cases j with
  | zero =>
      obtain rfl : e' = t := Option.some.inj found
      exact ⟨same, by simpa using ticked⟩
  | succ j => cases found

/-- What comes after the ticks and leaves the cursor alone does not change the count. -/
theorem Counts.of_samePage {e f g : Engine} {index : Int} {ticks : List Engine} (counts : Counts e index ticks f)
    (same : SamePage f g) (keeps : g.KeepsTime) : Counts e index ticks g :=
  ⟨same.revisions.trans counts.revisions, counts.arrives.of_samePage same keeps, counts.ticked⟩

/-- **Counting goes on** from where the first ticks have led to. -/
theorem Counts.append {e f g : Engine} {index : Int} {first second : List Engine} (counts : Counts e index first f)
    (next : ∀ index', f.IsAt index' → Counts f index' second g) : Counts e index (first ++ second) g := by
  obtain ⟨revisions, arrives, ticked⟩ := next _ counts.arrives
  have last : f.last = e.last := last_eq counts.revisions
  rw [last] at arrives ticked
  refine ⟨revisions.trans counts.revisions, ?_, fun j t found => ?_⟩
  · have sum : min (index + (first ++ second).length) e.last =
        min (min (index + first.length) e.last + second.length) e.last := by
      rw [List.length_append]
      omega
    rw [sum]
    exact arrives
  · rw [List.getElem?_append] at found
    split at found
    · exact counts.ticked j t found
    · rename_i beyond
      obtain ⟨history, there⟩ := ticked _ t found
      have place : min (index + j + 1) e.last =
          min (min (index + first.length) e.last + (j - first.length : Nat) + 1) e.last := by
        omega
      rw [place]
      exact ⟨history.trans counts.revisions, there⟩

/-! ### Calls -/

/-- **A call is counted** if its timer is going, and then the engine plays; the call of a stopped timer only leaves the
schedule. -/
theorem counts_serve {e : Engine} {index : Int} (at_ : e.IsAt index) {place : Nat}
    {made : Option (Option Nat × Schedule)} (called : e.schedule.fireAt? place = made) :
    Counts e index (served made e) (serve made e).state := by
  cases made with
  | none => exact at_.counts (SamePage.refl e) at_.keeps
  | some made =>
      obtain ⟨c, others, taken, rfl⟩ := Schedule.exists_of_fireAt? called
      obtain ⟨orderly, going⟩ := Schedule.orderly_make at_.keeps.orderly taken
      have keeps := at_.keeps.with_schedule orderly going
      have same (schedule : Schedule) : SamePage e { e with schedule } := ⟨rfl, rfl, rfl, rfl, rfl⟩
      cases active : e.schedule.isActive c.timer with
      | true =>
          obtain ⟨period, made⟩ := Schedule.make_of_active active others
          have held : e.timer ≠ none := by
            rw [(at_.keeps.held c.timer).mp active]
            nofun
          have kept := revisions_serve (some (e.schedule.make c others)) e
          rw [made] at keeps kept ⊢
          have ticked := ticked_tick (at_.of_samePage (same _) keeps) (at_.keeps.playing held)
          exact IsTicked.counts (e := e) ticked kept
      | false =>
          rw [Schedule.make_of_not_active active] at keeps ⊢
          exact at_.counts (same _) keeps

theorem counts_fire {e : Engine} {index : Int} (at_ : e.IsAt index) :
    Counts e index (served e.schedule.fire? e) (fire e).state := by
  obtain ⟨place, same⟩ := e.schedule.exists_fire?_eq_fireAt?
  exact counts_serve at_ same.symm

theorem counts_fireUntil (time : Float) (count limit : Nat) {e : Engine} {index : Int} (at_ : e.IsAt index) :
    Counts e index (ticksUntil time limit e) (fireUntil time count limit e).state := by
  induction limit generalizing count e index with
  | zero => exact at_.counts (SamePage.refl e) at_.keeps
  | succ limit ih =>
      unfold ticksUntil fireUntil
      split
      · have first := counts_fire at_
        cases outcome : (fire e).outcome with
        | error fault =>
            rw [Step.andThen_of_error outcome, List.append_nil]
            exact first
        | ok made =>
            rw [Step.andThen_of_ok outcome]
            exact first.append fun _ there => ih (count + 1) there
      · exact at_.counts (SamePage.refl e) at_.keeps

theorem counts_advance (seconds : Float) {e : Engine} {index : Int} (at_ : e.IsAt index) :
    Counts e index (ticks (.advance seconds) e) (advance seconds e).state := by
  have made := counts_fireUntil (e.schedule.now + seconds) 0 e.callLimit at_
  refine Step.andThen_keeps made fun _ _ => made.of_samePage ⟨rfl, rfl, rfl, rfl, rfl⟩ ?_
  exact made.arrives.keeps.with_schedule (made.arrives.keeps.orderly.at_time _) fun _ => rfl

/-! ### Runs -/

/-- **The ticks of every operation are counted.** -/
theorem counts_perform {op : Operation} (transport : op.IsTransport) {e : Engine} {index : Int}
    (at_ : e.IsAt index) : Counts e index (ticks op e) (perform op e).state := by
  cases op with
  | play => exact at_.counts (samePage_play e) (keepsTime_play at_.keeps)
  | pause => exact at_.counts (samePage_pause e) (keepsTime_pause at_.keeps)
  | toggle => exact at_.counts (samePage_toggle e) (keepsTime_toggle at_.keeps)
  | close => exact at_.counts (samePage_close e) (keepsTime_close at_.keeps)
  | setOptions options =>
      exact at_.counts (samePage_setOptions options e) (at_.keeps.of_sameClock (sameClock_setOptions options e))
  | verify => exact at_.counts (SamePage.refl e) at_.keeps
  | status => exact at_.counts (SamePage.refl e) at_.keeps
  | fire => exact counts_fire at_
  | fireAt place => exact counts_serve at_ rfl
  | advance seconds => exact counts_advance seconds at_
  | reset => exact transport.elim
  | stepForward => exact transport.elim
  | stepBackward => exact transport.elim
  | jump target => exact transport.elim
  | jumpToEnd => exact transport.elim

theorem counts_ticksOf {ops : List Operation} (transport : ∀ op ∈ ops, op.IsTransport) {e : Engine} {index : Int}
    (at_ : e.IsAt index) : Counts e index (ticksOf ops e) (run ops e) := by
  induction ops generalizing e index with
  | nil => exact at_.counts (SamePage.refl e) at_.keeps
  | cons op ops ih =>
      have first := counts_perform (transport op List.mem_cons_self) at_
      exact first.append fun _ there => ih (fun op' mem => transport op' (List.mem_cons_of_mem op mem)) there

/-! ### Rest -/

/-- An engine that has no timer is given no tick by any call. -/
theorem served_of_resting {e : Engine} (keeps : e.KeepsTime) (rests : e.mode ≠ .playing) {place : Nat}
    {made : Option (Option Nat × Schedule)} (called : e.schedule.fireAt? place = made) :
    served made e = [] ∧ (serve made e).state.cursor = e.cursor ∧ (serve made e).state.mode = e.mode := by
  cases made with
  | none => exact ⟨rfl, rfl, rfl⟩
  | some made =>
      obtain ⟨c, others, taken, rfl⟩ := Schedule.exists_of_fireAt? called
      have resting : e.schedule.isActive c.timer = false := by
        rw [Bool.eq_false_iff]
        intro active
        rw [keeps.held, keeps.timer_eq_none rests] at active
        cases active
      rw [Schedule.make_of_not_active resting]
      exact ⟨rfl, rfl, rfl⟩

theorem fire_of_resting {e : Engine} (keeps : e.KeepsTime) (rests : e.mode ≠ .playing) :
    served e.schedule.fire? e = [] ∧ (fire e).state.cursor = e.cursor ∧ (fire e).state.mode = e.mode := by
  obtain ⟨place, same⟩ := e.schedule.exists_fire?_eq_fireAt?
  exact served_of_resting keeps rests same.symm

theorem fireUntil_of_resting (time : Float) (count limit : Nat) {e : Engine} (keeps : e.KeepsTime)
    (rests : e.mode ≠ .playing) :
    ticksUntil time limit e = [] ∧ (fireUntil time count limit e).state.cursor = e.cursor := by
  induction limit generalizing count e with
  | zero => exact ⟨rfl, rfl⟩
  | succ limit ih =>
      unfold ticksUntil fireUntil
      split
      · obtain ⟨silent, cursor, mode⟩ := fire_of_resting keeps rests
        rw [silent, List.nil_append]
        cases outcome : (fire e).outcome with
        | error fault =>
            rw [Step.andThen_of_error outcome]
            exact ⟨rfl, cursor⟩
        | ok made =>
            obtain ⟨later, still⟩ := ih (count + 1) (keepsTime_fire keeps) (mode ▸ rests)
            rw [Step.andThen_of_ok outcome]
            exact ⟨later, still.trans cursor⟩
      · exact ⟨rfl, rfl⟩

/-- **While an engine does not play**, the calls that are made give no tick and leave the cursor where it is. -/
theorem ticks_of_resting {e : Engine} (keeps : e.KeepsTime) (rests : e.mode ≠ .playing) {op : Operation}
    (calls : op.MakesCalls) : ticks op e = [] ∧ (perform op e).state.cursor = e.cursor := by
  cases op with
  | fire =>
      obtain ⟨silent, cursor, -⟩ := fire_of_resting keeps rests
      exact ⟨silent, cursor⟩
  | fireAt place =>
      obtain ⟨silent, cursor, -⟩ := served_of_resting keeps rests (rfl : e.schedule.fireAt? place = _)
      exact ⟨silent, cursor⟩
  | advance seconds =>
      obtain ⟨silent, cursor⟩ := fireUntil_of_resting (e.schedule.now + seconds) 0 e.callLimit keeps rests
      exact ⟨silent, Step.andThen_keeps (P := fun e' : Engine => e'.cursor = e.cursor) cursor fun _ _ => cursor⟩
  | _ => exact calls.elim

/-! ### Every state that can be reached -/

theorem IsAt.outcome_replay {e : Engine} {index : Int} (at_ : e.IsAt index) :
    (replay e.revisions index).outcome = .ok e.content :=
  (EditHistory.outcome_replay e.revisions index).trans at_.stands.2.2.2

/-- An engine that was ticked at the last revision has stopped, and so has every timer of its schedule. -/
theorem IsTicked.ended {e : Engine} {index : Int} (ticked : e.IsTicked index) (past : index = e.last) :
    e.mode = .idle ∧ e.timer = none ∧ ∀ timer, e.schedule.isActive timer = false := by
  have idle : e.mode = .idle := by
    rw [ticked.mode, if_pos past]
  have free : e.timer = none := by
    refine ticked.keeps.timer_eq_none ?_
    rw [idle]
    nofun
  refine ⟨idle, free, fun timer => ?_⟩
  rw [Bool.eq_false_iff]
  intro active
  rw [ticked.keeps.held, free] at active
  cases active

/-- **The index counts the ticks.**  Take an engine on a history without foreign entries, after whatever was done with
it, at an index, and from then on only start, pause and close it, change its options, make its calls in any order and
let time pass.  Its index is then the old one and the number of ticks, but at most the last; the text is the replay up
to it.  Just after each tick the index is one more than before, or the last, and playback is over and every timer
stopped if it is the last, and goes on if not.  As long as the engine does not play, no call moves the cursor. -/
theorem index_after_ticks {revisions : List Revision} (real : ∀ r ∈ revisions, r.IsReal)
    (options : Options) (keepsSnapshots keepsCancelled : Bool) (now : Float) (timerLog : Log)
    (before : List Operation) {ops : List Operation} (transport : ∀ op ∈ ops, op.IsTransport) {index : Int}
    (reached : (run before (create revisions options keepsSnapshots
      { Schedule.initial keepsCancelled with now } timerLog).state).cursor.number = .int index) :
    let e := run before (create revisions options keepsSnapshots
      { Schedule.initial keepsCancelled with now } timerLog).state
    let e' := run ops e
    let last : Int := revisions.length - 1
    e'.cursor.number = .int (min (index + (ticksOf ops e).length) last) ∧
      (replay revisions (min (index + (ticksOf ops e).length) last)).outcome = .ok e'.content ∧
      (∀ (j : Nat) (t : Engine), (ticksOf ops e)[j]? = some t →
        t.cursor.number = .int (min (index + j + 1) last) ∧
          (replay revisions (min (index + j + 1) last)).outcome = .ok t.content ∧
          (min (index + j + 1) last = last →
            t.mode = .idle ∧ t.timer = none ∧ ∀ timer, t.schedule.isActive timer = false) ∧
          (min (index + j + 1) last ≠ last → t.mode = .playing)) ∧
      (e'.mode ≠ .playing → ∀ op : Operation, op.MakesCalls →
        ticks op e' = [] ∧ (perform op e').state.cursor = e'.cursor) := by
  intro e e' last
  have history : e.revisions = revisions :=
    (revisions_run before _).trans (revisions_create revisions options keepsSnapshots _ timerLog)
  have sound : e.IsSound := sound_run before <|
    create_has (accurate_initial real options keepsSnapshots _ timerLog).sound
      fun e sound => sound.of_samePage (samePage_play e)
  have keeps : e.KeepsTime := keepsTime_run before <|
    create_has (keepsTime_initial revisions options keepsSnapshots keepsCancelled now timerLog)
      fun _ => keepsTime_play
  have at_ : e.IsAt index := ⟨sound.accurate reached, keeps, reached⟩
  have final : e.last = last := by
    unfold Engine.last
    rw [history]
  obtain ⟨same, arrives, ticked⟩ := counts_ticksOf transport at_
  rw [history] at same ticked
  rw [final] at arrives ticked
  have shown := arrives.outcome_replay
  rw [same] at shown
  refine ⟨arrives.number, shown, fun j t found => ?_, fun rests op => ticks_of_resting arrives.keeps rests⟩
  obtain ⟨same, there⟩ := ticked j t found
  have ends : t.last = last := (last_eq (same.trans history.symm)).trans final
  have text := there.outcome_replay
  rw [same] at text
  refine ⟨there.number, text, fun past => there.ended (past.trans ends.symm), fun ahead => ?_⟩
  rw [there.mode, ends, if_neg ahead]

/-- Playback with a pause, a change of speed and a close on the way.  The schedule keeps cancelled calls, so the first
call made is one that the pause has cancelled. -/
def interruptedPlayback : List Operation :=
  [.pause, .toggle, .setOptions (.object [("speed", .float 4.0)]), .fireAt 0, .fireAt 0, .close, .play, .advance 60.0]

theorem index_after_ticks_of_interrupted :
    (∀ r ∈ groupedHistory, r.IsReal) ∧ (∀ op ∈ interruptedPlayback, op.IsTransport) ∧
      let e := run [.jumpToEnd, .reset, .play] (create groupedHistory Options.standard true
        { Schedule.initial true with now := 0.0 } []).state
      let e' := run interruptedPlayback e
      let last : Int := groupedHistory.length - 1
      e.cursor.number = .int (-1) ∧
        e'.cursor.number = .int (min (-1 + (ticksOf interruptedPlayback e).length) last) ∧
        (replay groupedHistory (min (-1 + (ticksOf interruptedPlayback e).length) last)).outcome = .ok e'.content ∧
        (∀ (j : Nat) (t : Engine), (ticksOf interruptedPlayback e)[j]? = some t →
          t.cursor.number = .int (min ((-1 : Int) + j + 1) last) ∧
            (replay groupedHistory (min ((-1 : Int) + j + 1) last)).outcome = .ok t.content ∧
            (min ((-1 : Int) + j + 1) last = last →
              t.mode = .idle ∧ t.timer = none ∧ ∀ timer, t.schedule.isActive timer = false) ∧
            (min ((-1 : Int) + j + 1) last ≠ last → t.mode = .playing)) ∧
        (e'.mode ≠ .playing → ∀ op : Operation, op.MakesCalls →
          ticks op e' = [] ∧ (perform op e').state.cursor = e'.cursor) := by
  have real : ∀ r ∈ groupedHistory, r.IsReal := by decide
  have transport : ∀ op ∈ interruptedPlayback, op.IsTransport := by
    simp [interruptedPlayback, Operation.IsTransport]
  have reached : (run [.jumpToEnd, .reset, .play] (create groupedHistory Options.standard true
      { Schedule.initial true with now := 0.0 } []).state).cursor.number = .int (-1) := by
    rfl
  exact ⟨real, transport, reached,
    index_after_ticks real Options.standard true true 0.0 [] [.jumpToEnd, .reset, .play] transport reached⟩

end Engine

end EditHistory.Playback
