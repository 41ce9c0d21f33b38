import Conform.Action

/-!
# What steps and actions ensure

A step ensures what is true of its result and of the state behind it. An action may be granted
certain errors: it ensures something, or it fails with one of these.

## Main definitions

- `Ensures` — what a step ensures
- `EnsuresOr` — what an action ensures or fails with
- `EnsuresOr.bind`, `Ensures.next`, `EnsuresOr.caught` — one after another
-/

namespace Conform

variable {S α β : Type}

/-- From every state with `P`, a step comes to a result and a state with `Q`. -/
def Ensures (P : S → Prop) (m : StateM S α) (Q : α → S → Prop) : Prop :=
  ∀ s, P s → Q (m s).1 (m s).2

/-- From every state with `P`, an action comes to a result and a state with `Q`, or it fails with an
error that is granted. -/
def EnsuresOr (granted : Raised → Prop) (P : S → Prop) (m : Action S α)
    (Q : Except Raised α → S → Prop) : Prop :=
  @Ensures S (Except Raised α) P m fun result s =>
    Q result s ∨ ∃ e, granted e ∧ result = .error e

section Rules

variable {granted : Raised → Prop} {P P' : S → Prop} {m : StateM S α} {act : Action S α}
  {Q Q' : α → S → Prop} {R : Except Raised β → S → Prop} {T T' : Except Raised α → S → Prop}

theorem Ensures.bind {f : α → StateM S β} {U : β → S → Prop} (h : Ensures P m Q)
    (hf : ∀ a, Ensures (Q a) (f a) U) : Ensures P (m >>= f) U :=
  fun s hP => hf _ _ (h s hP)

theorem Ensures.mono (h : Ensures P m Q) (hQ : ∀ a s, Q a s → Q' a s) : Ensures P m Q' :=
  fun s hP => hQ _ _ (h s hP)

theorem EnsuresOr.mono (h : EnsuresOr granted P act T) (hT : ∀ result s, T result s → T' result s) :
    EnsuresOr granted P act T' :=
  fun s hP => (h s hP).imp_left (hT _ _)

/-- More errors are granted. -/
theorem EnsuresOr.grant {granted' : Raised → Prop} (h : EnsuresOr granted P act T)
    (hgranted : ∀ e, granted e → granted' e) : EnsuresOr granted' P act T := by
  intro s hP
  refine (h s hP).imp_right ?_
  rintro ⟨e, he, hresult⟩
  exact ⟨e, hgranted e he, hresult⟩

theorem ensuresOr_pure {a : α} (h : ∀ s, P s → T (.ok a) s) : EnsuresOr granted P (pure a) T :=
  fun s hP => .inl (h s hP)

theorem ensuresOr_throw {e : Raised} (h : ∀ s, P s → T (.error e) s) :
    EnsuresOr granted P (throw e) T :=
  fun s hP => .inl (h s hP)

/-- A fact that does not depend on the state. -/
theorem EnsuresOr.fact {p : Prop} (h : p → EnsuresOr granted P act T) :
    EnsuresOr granted (fun s => p ∧ P s) act T :=
  fun s hP => h hP.1 s hP.2

/-- One action after another; an error ends both. -/
theorem EnsuresOr.bind {f : α → Action S β} (h : EnsuresOr granted P act T)
    (herror : ∀ e s, T (.error e) s → R (.error e) s)
    (hf : ∀ a, EnsuresOr granted (T (.ok a)) (f a) R) : EnsuresOr granted P (act >>= f) R := by
  refine Ensures.bind (f := ExceptT.bindCont f) h fun result s hresult => ?_
  cases result with
  | error e =>
    refine hresult.imp (herror e s) ?_
    rintro ⟨e', hgranted, heq⟩
    exact ⟨e', hgranted, congrArg Except.error (Except.error.inj heq)⟩
  | ok a =>
    obtain hT | ⟨e, -, heq⟩ := hresult
    · exact hf a s hT
    · exact nomatch heq

/-- A step that cannot fail, in front of others. -/
theorem Ensures.next {f : α → Action S β} (h : Ensures P m Q)
    (hf : ∀ a, EnsuresOr granted (Q a) (f a) R) : EnsuresOr granted P (liftM m >>= f) R :=
  fun s hP => hf _ _ (h s hP)

/-- What is known already, in front of others. -/
theorem EnsuresOr.known {a : α} {f : α → Action S β} (h : EnsuresOr granted P (f a) R) :
    EnsuresOr granted P (liftM (.ok a : Except Raised α) >>= f) R := h

/-- An error that is given instead of failing. -/
theorem EnsuresOr.caught {caught : Raised → Prop} {f : Except Raised α → Action S β}
    (h : EnsuresOr caught P act T)
    (hf : ∀ result, EnsuresOr granted
      (fun s => T result s ∨ ∃ e, caught e ∧ result = .error e) (f result) R) :
    EnsuresOr granted P (act.attempt >>= f) R :=
  fun s hP => hf _ _ (h s hP)

end Rules

end Conform
