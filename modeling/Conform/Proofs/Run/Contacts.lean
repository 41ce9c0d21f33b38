import Conform.Run.Basic

/-!
# What a run asks of its collaborators

Collaborators are watched by keeping a log of what they are asked and told. A run with watched
collaborators does the same as one with the collaborators themselves, whatever they are, and adds
to the log.

## Main definitions

- `Contact` — what a collaborator is asked or told
- `Collaborators.watched` — collaborators that keep a log
- `Watches`, `Attempts` — a step or an action is the same with a log, and adds to it as described
- `Watches.bind`, `Attempts.bind`, `Watches.next` — one after another
-/

namespace Conform

/-- What a collaborator is asked or told. -/
inductive Contact
  | executed (call : RequestCall)
  | resolved (name : Text)
  | recorded (sample : MetricSample)
  | announced (event : Event)
  | saved (body : Text)

namespace Contact

/-- The call that is executed, if one is. -/
def call? : Contact → Option RequestCall
  | .executed call => some call
  | _ => none

/-- The event that is announced, if one is. -/
def event? : Contact → Option Event
  | .announced event => some event
  | _ => none

/-- The body that is kept, if one is. -/
def body? : Contact → Option Text
  | .saved body => some body
  | _ => none

end Contact

variable {W α β : Type}

/-- A step beside a log. -/
def unlogged (m : StateM W α) : StateM (W × List Contact) α := fun s =>
  ((m s.1).1, ((m s.1).2, s.2))

/-- A step that is logged. -/
def logged (contact : Contact) (m : StateM W α) : StateM (W × List Contact) α := fun s =>
  ((m s.1).1, ((m s.1).2, s.2 ++ [contact]))

/-- Collaborators that keep a log of what they are asked and told. An event is logged once, however
many functions are called with it. -/
def Collaborators.watched (co : Collaborators W) : Collaborators (W × List Contact) where
  execute call := logged (.executed call) (co.execute call)
  resolve name := logged (.resolved name) (co.resolve name)
  record sample := logged (.recorded sample) (co.record sample)
  observers :=
    (fun event => logged (.announced event) (pure (.ok ()))) ::
      co.observers.map fun f event => unlogged (f event)
  save := co.save.map fun save body => logged (.saved body) (save body)
  clock := unlogged co.clock

/-- A step with a log does the same as one without, and what it adds to the log goes with its
result. -/
def Watches (m' : StateM (W × List Contact) α) (m : StateM W α) (Q : α → List Contact → Prop) :
    Prop :=
  ∀ w log, ∃ new, m' (w, log) = ((m w).1, ((m w).2, log ++ new)) ∧ Q (m w).1 new

section Rules

variable {m' : StateM (W × List Contact) α} {m : StateM W α} {P Q : α → List Contact → Prop}
  {R : β → List Contact → Prop}

theorem Watches.mono (h : Watches m' m P) (hPQ : ∀ a new, P a new → Q a new) : Watches m' m Q := by
  intro w log
  obtain ⟨new, heq, hP⟩ := h w log
  exact ⟨new, heq, hPQ _ new hP⟩

/-- What comes out of a step with a log comes out of the step. -/
theorem Watches.result (h : Watches m' m Q) :
    Watches m' m fun a new => Q a new ∧ ∃ w, (m w).1 = a := by
  intro w log
  obtain ⟨new, heq, hQ⟩ := h w log
  exact ⟨new, heq, hQ, w, rfl⟩

theorem watches_pure {a : α} (h : Q a []) :
    Watches (pure a : StateM (W × List Contact) α) (pure a) Q := by
  intro w log
  exact ⟨[], by rw [List.append_nil]; rfl, h⟩

theorem watches_unlogged (m : StateM W α) : Watches (unlogged m) m fun _ new => new = [] := by
  intro w log
  exact ⟨[], by rw [List.append_nil]; rfl, rfl⟩

theorem watches_logged (contact : Contact) (m : StateM W α) :
    Watches (logged contact m) m fun _ new => new = [contact] := by
  intro w log
  exact ⟨[contact], rfl, rfl⟩

/-- One step after another. -/
theorem Watches.bind {g : α → StateM (W × List Contact) β} {f : α → StateM W β}
    (h : Watches m' m P)
    (hf : ∀ a new, P a new → Watches (g a) (f a) fun b more => R b (new ++ more)) :
    Watches (m' >>= g) (m >>= f) R := by
  intro w log
  obtain ⟨new, heq, hP⟩ := h w log
  obtain ⟨more, heq', hR⟩ := hf _ new hP (m w).2 (log ++ new)
  refine ⟨new ++ more, ?_, hR⟩
  rw [← List.append_assoc]
  refine Eq.trans ?_ heq'
  change g (m' (w, log)).1 (m' (w, log)).2 = _
  rw [heq]

end Rules

/-- An action with a log does the same as one without, and what it adds to the log goes with its
result or its error. -/
def Attempts (m' : Action (W × List Contact) α) (m : Action W α)
    (Q : Except Raised α → List Contact → Prop) : Prop :=
  @Watches W (Except Raised α) m' m Q

section Actions

variable {m' : Action (W × List Contact) α} {m : Action W α}
  {P : Except Raised α → List Contact → Prop} {R : Except Raised β → List Contact → Prop}

theorem attempts_pure {a : α} (h : P (.ok a) []) :
    Attempts (pure a : Action (W × List Contact) α) (pure a) P := watches_pure h

theorem attempts_throw {e : Raised} (h : P (.error e) []) :
    Attempts (throw e : Action (W × List Contact) α) (throw e) P := watches_pure h

/-- One action after another; an error ends both. -/
theorem Attempts.bind {f' : α → Action (W × List Contact) β} {f : α → Action W β}
    (h : Attempts m' m P) (herror : ∀ e new, P (.error e) new → R (.error e) new)
    (hf : ∀ a new, P (.ok a) new → Attempts (f' a) (f a) fun b more => R b (new ++ more)) :
    Attempts (m' >>= f') (m >>= f) R := by
  refine Watches.bind (g := ExceptT.bindCont f') (f := ExceptT.bindCont f) h
    fun result new hP => ?_
  cases result with
  | error e =>
    refine watches_pure ?_
    rw [List.append_nil]
    exact herror e new hP
  | ok a => exact hf a new hP

/-- A step that cannot fail, in front of others. -/
theorem Watches.next {s' : StateM (W × List Contact) α} {s : StateM W α}
    {f' : α → Action (W × List Contact) β} {f : α → Action W β} {P : α → List Contact → Prop}
    (h : Watches s' s P)
    (hf : ∀ a new, P a new → Attempts (f' a) (f a) fun b more => R b (new ++ more)) :
    Attempts (liftM s' >>= f') (liftM s >>= f) R :=
  Watches.bind h hf

/-- What is known already. -/
theorem Attempts.known {a : α} {f' : α → Action (W × List Contact) β} {f : α → Action W β}
    (h : Attempts (f' a) (f a) R) :
    Attempts (liftM (.ok a : Except Raised α) >>= f') (liftM (.ok a : Except Raised α) >>= f) R := h

/-- An error that is given instead of failing. -/
theorem Attempts.caught {f' : Except Raised α → Action (W × List Contact) β}
    {f : Except Raised α → Action W β} (h : Attempts m' m P)
    (hf : ∀ a new, P a new → Attempts (f' a) (f a) fun b more => R b (new ++ more)) :
    Attempts (m'.attempt >>= f') (m.attempt >>= f) R :=
  Watches.bind h hf

/-- An error that is passed over. -/
theorem Attempts.settle {m' : Action (W × List Contact) Unit} {m : Action W Unit}
    {P : Except Raised Unit → List Contact → Prop} {Q : Unit → List Contact → Prop}
    (h : Attempts m' m P) (hPQ : ∀ result new, P result new → Q () new) :
    Watches m'.settle m.settle Q := by
  intro w log
  obtain ⟨new, heq, hP⟩ := h w log
  refine ⟨new, ?_, hPQ _ new hP⟩
  unfold Action.settle
  rw [show m' (w, log) = _ from heq]

end Actions

end Conform
