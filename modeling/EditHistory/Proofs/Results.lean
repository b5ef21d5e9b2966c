/-!
# What a computation yields

A computation that may fail yields a value of which something is known, or an error of which something is known.  What
a sequence of computations yields follows from what each of them yields.

## Main definitions

* `Yields` — a result is a value with one property or an error with another

## Main statements

* `Yields.bind`, `Yields.map` — sequences
* `Yields.mapM`, `Yields.foldlM` — lists
-/

namespace EditHistory

/-- A result is a value with one property or an error with another. -/
def Yields {ε α : Type} (x : Except ε α) (Q : α → Prop) (F : ε → Prop) : Prop :=
  match x with
  | .ok a => Q a
  | .error e => F e

namespace Yields

variable {ε α β : Type} {x : Except ε α} {f : α → Except ε β} {Q Q' : α → Prop} {R : β → Prop} {F F' : ε → Prop}

theorem mono (yields : Yields x Q F) (value : ∀ a, Q a → Q' a) (failed : ∀ e, F e → F' e) : Yields x Q' F' := by
  cases x with
  | ok a => exact value a yields
  | error e => exact failed e yields

theorem bind (yields : Yields x Q F) (next : ∀ a, Q a → Yields (f a) R F) : Yields (x >>= f) R F := by
  cases x with
  | ok a => exact next a yields
  | error e => exact yields

theorem map {g : α → β} (yields : Yields x Q F) (value : ∀ a, Q a → R (g a)) : Yields (x.map g) R F := by
  cases x with
  | ok a => exact value a yields
  | error e => exact yields

theorem mapError {δ : Type} {g : ε → δ} {G : δ → Prop} (yields : Yields x Q F) (failed : ∀ e, F e → G (g e)) :
    Yields (x.mapError g) Q G := by
  cases x with
  | ok a => exact yields
  | error e => exact failed e yields

theorem mapM {as : List α} (each : ∀ a ∈ as, Yields (f a) R F) : Yields (as.mapM f) (fun bs => ∀ b ∈ bs, R b) F := by
  induction as with
  | nil => exact nofun
  | cons a as ih =>
      rw [List.mapM_cons]
      refine (each a List.mem_cons_self).bind fun b known => ?_
      refine (ih fun a mem => each a (List.mem_cons_of_mem _ mem)).bind fun bs known' => ?_
      exact List.forall_mem_cons.mpr ⟨known, known'⟩

theorem foldlM {as : List α} {g : β → α → Except ε β} {b : β} (start : R b)
    (each : ∀ b, R b → ∀ a ∈ as, Yields (g b a) R F) : Yields (as.foldlM g b) R F := by
  induction as generalizing b with
  | nil => exact start
  | cons a as ih =>
      rw [List.foldlM_cons]
      exact (each b start a List.mem_cons_self).bind fun b' known =>
        ih known fun b kept a mem => each b kept a (List.mem_cons_of_mem _ mem)

end Yields

end EditHistory
