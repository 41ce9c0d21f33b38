import Mathlib.Control.Basic

/-!
# Failing steps

What a step that can fail fails with, with a rule for each way to put steps together.

## Main definitions

- `FailsOnly` — a step fails only with errors of some sort
- `bind_eq_ok` — what comes out of two steps if they do not fail
-/

namespace Conform

theorem bind_eq_ok {ε α β : Type} {x : Except ε α} {f : α → Except ε β} {b : β} :
    (x >>= f) = .ok b ↔ ∃ a, x = .ok a ∧ f a = .ok b := by
  cases x <;> simp [bind, Except.bind]

/-- A step fails only with errors that have a property. -/
def FailsOnly {ε α : Type} (P : ε → Prop) (x : Except ε α) : Prop := ∀ e, x = .error e → P e

section Rules

variable {ε α β : Type} {P Q : ε → Prop}

@[simp]
theorem failsOnly_ok (a : α) : FailsOnly P (.ok a : Except ε α) := fun _ h => nomatch h

@[simp]
theorem failsOnly_pure (a : α) : FailsOnly P (pure a : Except ε α) := failsOnly_ok a

@[simp]
theorem failsOnly_error (e : ε) : FailsOnly P (.error e : Except ε α) ↔ P e := by
  constructor
  · intro h
    exact h e rfl
  · rintro h _ ⟨⟩
    exact h

theorem FailsOnly.bind {x : Except ε α} {f : α → Except ε β} (hx : FailsOnly P x)
    (hf : ∀ a, x = .ok a → FailsOnly P (f a)) : FailsOnly P (x >>= f) := by
  cases x with
  | ok a => exact hf a rfl
  | error e =>
    rintro _ ⟨⟩
    exact hx e rfl

theorem FailsOnly.mono {x : Except ε α} (h : FailsOnly P x) (hPQ : ∀ e, P e → Q e) :
    FailsOnly Q x := fun e he => hPQ e (h e he)

theorem failsOnly_mapM {f : α → Except ε β} (hf : ∀ a, FailsOnly P (f a)) (as : List α) :
    FailsOnly P (as.mapM f) := by
  induction as with
  | nil => exact failsOnly_ok []
  | cons a as ih =>
    rw [List.mapM_cons]
    exact (hf a).bind fun b _ => ih.bind fun bs _ => failsOnly_ok (b :: bs)

end Rules

end Conform
