import EditHistory.Proofs.Steps

/-!
# What an action ensures

An action that keeps an invariant of the state, and of whose outcome something is known, can be used without looking at
the state again: what a sequence of actions ensures follows from what each of them ensures.

## Main definitions

* `Action.Ensures` — the outcomes of an action on all states of an invariant, which it keeps
* `Action.ComesTo` — the outcome of an action on one state, and the state that it leaves behind

## Main statements

* `Action.Ensures.bind`, `Action.Ensures.andThen` — sequences
* `Action.Ensures.attempt` — a failure that is handled
* `Action.ComesTo.bind`, `Action.ComesTo.andThen`, `Action.ComesTo.ended` — sequences on one state
-/

namespace EditHistory

namespace Action

variable {σ ε δ α β : Type} {I : σ → Prop}

/-- On every state of an invariant the outcome is as described, and the invariant holds afterwards. -/
def Ensures (I : σ → Prop) (x : Action σ ε α) (Q : Except ε α → Prop) : Prop :=
  ∀ s, I s → Q (x s).outcome ∧ I (x s).state

theorem ensures_pure (a : α) : Ensures I (pure a : Action σ ε α) (· = .ok a) :=
  fun _ holds => ⟨rfl, holds⟩

theorem ensures_fail (e : ε) : Ensures I (fail e : Action σ ε α) (· = .error e) :=
  fun _ holds => ⟨rfl, holds⟩

theorem ensures_note (level : Level) (message : String) :
    Ensures I (note level message : Action σ ε Unit) (· = .ok ()) :=
  fun _ holds => ⟨rfl, holds⟩

theorem ensures_modify {f : σ → σ} (keeps : ∀ s, I s → I (f s)) :
    Ensures I (modify f : Action σ ε Unit) (· = .ok ()) :=
  fun s holds => ⟨rfl, keeps s holds⟩

namespace Ensures

variable {x : Action σ ε α} {f : α → Action σ ε β} {Q : Except ε α → Prop} {R : Except ε β → Prop}

theorem mono (ensures : Ensures I x Q) {Q' : Except ε α → Prop} (weaker : ∀ o, Q o → Q' o) : Ensures I x Q' :=
  fun s holds => ⟨weaker _ (ensures s holds).1, (ensures s holds).2⟩

/-- **A sequence**: every outcome of the first action is gone on from, and a failure is a failure of the whole. -/
theorem bind (ensures : Ensures I x Q) (next : ∀ a, Q (.ok a) → Ensures I (f a) R)
    (failed : ∀ e, Q (.error e) → R (.error e)) : Ensures I (x >>= f) R := by
  intro s holds
  obtain ⟨known, kept⟩ := ensures s holds
  rw [bind_apply]
  cases outcome : (x s).outcome with
  | error e =>
      rw [outcome] at known
      rw [Step.andThen_of_error outcome]
      exact ⟨failed e known, kept⟩
  | ok a =>
      rw [outcome] at known
      rw [Step.andThen_of_ok outcome]
      exact next a known (x s).state kept

/-- A sequence of which the first action gives a known result. -/
theorem andThen {a : α} (ensures : Ensures I x (· = .ok a)) (next : Ensures I (f a) R) : Ensures I (x >>= f) R := by
  refine ensures.bind ?_ nofun
  rintro _ ⟨⟩
  exact next

/-- A failure that is handled is an outcome like any other. -/
theorem attempt (ensures : Ensures I x Q) :
    Ensures I (Action.attempt x : Action σ δ (Except ε α)) fun o => ∃ inner, o = .ok inner ∧ Q inner :=
  fun s holds => ⟨⟨(x s).outcome, rfl, (ensures s holds).1⟩, (ensures s holds).2⟩

end Ensures

/-- On a state the outcome and the state left behind are as described. -/
def ComesTo (x : Action σ ε α) (s : σ) (Q : Except ε α → σ → Prop) : Prop :=
  Q (x s).outcome (x s).state

namespace ComesTo

variable {x : Action σ ε α} {s : σ} {f : α → Action σ ε β} {Q : Except ε α → σ → Prop} {R : Except ε β → σ → Prop}

theorem mono (comes : ComesTo x s Q) {Q' : Except ε α → σ → Prop} (weaker : ∀ o t, Q o t → Q' o t) : ComesTo x s Q' :=
  weaker _ _ comes

theorem bind (comes : ComesTo x s Q) (next : ∀ a t, Q (.ok a) t → ComesTo (f a) t R)
    (failed : ∀ e t, Q (.error e) t → R (.error e) t) : ComesTo (x >>= f) s R := by
  unfold ComesTo at comes next ⊢
  rw [bind_apply]
  cases outcome : (x s).outcome with
  | error e =>
      rw [outcome] at comes
      rw [Step.andThen_of_error outcome]
      exact failed e _ comes
  | ok a =>
      rw [outcome] at comes
      rw [Step.andThen_of_ok outcome]
      exact next a _ comes

/-- A sequence of which the first action gives a known result. -/
theorem andThen {a : α} (given : (x s).outcome = .ok a) (next : ComesTo (f a) (x s).state R) :
    ComesTo (x >>= f) s R := by
  unfold ComesTo at next ⊢
  rw [bind_apply, Step.andThen_of_ok given]
  exact next

/-- A sequence of which the first action fails in a known way. -/
theorem ended {e : ε} (failed : (x s).outcome = .error e) (holds : R (.error e) (x s).state) :
    ComesTo (x >>= f) s R := by
  unfold ComesTo
  rw [bind_apply, Step.andThen_of_error failed]
  exact holds

/-- A failure that is handled is an outcome like any other. -/
theorem attempt (comes : ComesTo x s Q) :
    ComesTo (Action.attempt x : Action σ δ (Except ε α)) s fun o t => ∃ inner, o = .ok inner ∧ Q inner t :=
  ⟨(x s).outcome, rfl, comes⟩

theorem of_done {a : α} {t : σ} (given : x s = .done a t) (holds : Q (.ok a) t) : ComesTo x s Q := by
  unfold ComesTo
  rw [given]
  exact holds

/-- A sequence of which the first action is known. -/
theorem done {a : α} {t : σ} (given : x s = .done a t) (next : ComesTo (f a) t R) : ComesTo (x >>= f) s R := by
  refine andThen (a := a) ?_ ?_ <;> rw [given]
  · rfl
  · exact next

end ComesTo

end Action

end EditHistory
