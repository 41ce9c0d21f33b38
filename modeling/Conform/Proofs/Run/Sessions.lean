import Conform.Proofs.Run.Batches
import Conform.Run.Session

/-!
# Runs in a session

A session is a context whose world and resolver are kept in one record. A run in the session does
what the run in the context does, so that what holds of runs in contexts holds of it.

## Main definitions

- `Embeds` — a step in a world does what a step in a part of it does
- `Embeds.bind`, `Embeds.next`, `Embeds.caught` — one after another
- `embeds_run`, `embeds_runMany` — runs with collaborators in a world that can be taken apart
- `Session.run_eq_context`, `Session.runMany_eq_context` — runs in a session
-/

namespace Conform

variable {S W α β : Type} {whole : W → S}

/-- In a world that is made from another one, a step does what some step does in the latter. -/
def Embeds (whole : W → S) (m' : StateM S α) (m : StateM W α) : Prop :=
  ∀ w, m' (whole w) = ((m w).1, whole (m w).2)

section Rules

theorem embeds_pure (a : α) : Embeds whole (pure a) (pure a) := fun _ => rfl

theorem embeds_within {part : S → W} (hpart : ∀ w, part (whole w) = w) (m : StateM W α) :
    Embeds whole (within part whole m) m := by
  intro w
  show ((m (part (whole w))).1, whole (m (part (whole w))).2) = _
  rw [hpart]

theorem Embeds.bind {m' : StateM S α} {m : StateM W α} {g : α → StateM S β} {f : α → StateM W β}
    (h : Embeds whole m' m) (hf : ∀ a, Embeds whole (g a) (f a)) :
    Embeds whole (m' >>= g) (m >>= f) := by
  intro w
  calc (m' >>= g) (whole w) = g (m' (whole w)).1 (m' (whole w)).2 := rfl
    _ = g (m w).1 (whole (m w).2) := by rw [h w]
    _ = ((f (m w).1 (m w).2).1, whole (f (m w).1 (m w).2).2) := hf _ _

/-- The same for actions. -/
def EmbedsAction (whole : W → S) (m' : Action S α) (m : Action W α) : Prop :=
  @Embeds S W (Except Raised α) whole m' m

variable {m' : Action S α} {m : Action W α} {g : α → Action S β} {f : α → Action W β}

theorem embedsAction_pure (a : α) : EmbedsAction whole (pure a) (pure a) := fun _ => rfl

theorem embedsAction_throw (e : Raised) :
    EmbedsAction whole (throw e : Action S α) (throw e) := fun _ => rfl

/-- One action after another; an error ends both. -/
theorem EmbedsAction.bind (h : EmbedsAction whole m' m)
    (hf : ∀ a, EmbedsAction whole (g a) (f a)) :
    EmbedsAction whole (m' >>= g) (m >>= f) := by
  refine Embeds.bind (g := ExceptT.bindCont g) (f := ExceptT.bindCont f) h fun result => ?_
  cases result with
  | error e => exact embeds_pure _
  | ok a => exact hf a

/-- A step that cannot fail, in front of others. -/
theorem Embeds.next {s' : StateM S α} {s : StateM W α} (h : Embeds whole s' s)
    (hf : ∀ a, EmbedsAction whole (g a) (f a)) :
    EmbedsAction whole (liftM s' >>= g) (liftM s >>= f) :=
  Embeds.bind h hf

/-- What is known already. -/
theorem EmbedsAction.known {result : Except Raised α}
    (hf : ∀ a, EmbedsAction whole (g a) (f a)) :
    EmbedsAction whole (liftM result >>= g) (liftM result >>= f) := by
  cases result with
  | error e => exact embedsAction_throw e
  | ok a => exact hf a

/-- An error that is given instead of failing. -/
theorem EmbedsAction.caught {g : Except Raised α → Action S β} {f : Except Raised α → Action W β}
    (h : EmbedsAction whole m' m) (hf : ∀ result, EmbedsAction whole (g result) (f result)) :
    EmbedsAction whole (m'.attempt >>= g) (m.attempt >>= f) :=
  Embeds.bind h hf

theorem EmbedsAction.settle {m' : Action S Unit} {m : Action W Unit}
    (h : EmbedsAction whole m' m) : Embeds whole m'.settle m.settle := by
  intro w
  unfold Action.settle
  rw [show m' (whole w) = _ from h w]

end Rules

section Runs

variable {part : S → W} (hpart : ∀ w, part (whole w) = w) (co : Collaborators W) (c : Config)
include hpart

theorem embeds_measure (m : Metric) (value : Double) (tags : List (Text × Text)) :
    EmbedsAction whole ((co.within part whole).measure m value tags) (co.measure m value tags) :=
  embeds_within hpart _

theorem embeds_notify (event : Event) :
    Embeds whole ((co.within part whole).notify event) (co.notify event) := by
  unfold Collaborators.notify dispatch Collaborators.within
  dsimp only
  induction co.observers with
  | nil => exact embeds_pure ()
  | cons f observers ih =>
    have hsettled : Embeds whole (Action.settle (within part whole (f event)))
        (Action.settle (f event)) := EmbedsAction.settle (embeds_within hpart (f event))
    exact hsettled.bind fun _ => ih

theorem embeds_saveBody (i : RunInput) (r : RunResult) :
    Embeds whole (saveBody (co.within part whole) i r) (saveBody co i r) := by
  unfold saveBody Collaborators.within
  dsimp only
  cases RequestBody.content? i.verb i.body with
  | none => exact embeds_pure ()
  | some body =>
    cases co.save with
    | none => exact embeds_pure ()
    | some save =>
      dsimp only [Option.map_some]
      split
      · exact EmbedsAction.settle (embeds_within hpart (save body))
      · exact embeds_pure ()

theorem embeds_reportOf (e : CompileError) :
    EmbedsAction whole ((co.within part whole).reportOf e) (co.reportOf e) := by
  unfold Collaborators.reportOf
  cases e.report with
  | ok report => exact (embeds_measure hpart co _ _ _).bind fun _ => embedsAction_pure report
  | error size => exact embedsAction_throw _

theorem embeds_checkResponse (i : RunInput) (response : Response) (v : Version) :
    EmbedsAction whole (checkResponse (co.within part whole) c i response v)
      (checkResponse co c i response v) := by
  unfold checkResponse
  cases compile v i.source with
  | error e => exact (embeds_reportOf hpart co e).bind fun _ => embedsAction_pure _
  | ok s => exact (embeds_measure hpart co _ _ _).bind fun _ => embedsAction_pure _

theorem embeds_runStages (i : RunInput) :
    EmbedsAction whole (runStages (co.within part whole) c i) (runStages co c i) := by
  unfold runStages
  refine EmbedsAction.known fun address => ?_
  cases address with
  | none => exact embedsAction_pure _
  | some address =>
    dsimp only
    cases RequestBody.read i.verb i.body with
    | error failure =>
      cases failure with
      | integerTooLong digits => exact embedsAction_throw _
      | _ => exact embedsAction_pure _
    | ok body =>
      refine (embeds_within hpart co.clock).next fun started => ?_
      refine EmbedsAction.bind (embeds_within hpart (co.execute _)) fun answer => ?_
      cases answer with
      | error failure => cases failure <;> exact embedsAction_pure _
      | ok response =>
        refine (embeds_within hpart co.clock).next fun now => ?_
        refine (embeds_measure hpart co _ _ _).bind fun _ => ?_
        refine EmbedsAction.bind (embeds_within hpart (co.resolve _)) fun version => ?_
        cases version with
        | none => exact embedsAction_pure _
        | some v => exact embeds_checkResponse hpart co c i response v

/-- Collaborators in a world that can be taken apart run as they do in its parts. -/
theorem embeds_run (i : RunInput) :
    EmbedsAction whole (run (co.within part whole) c i) (run co c i) := by
  rw [run_eq, run_eq]
  refine (embeds_within hpart co.clock).next fun started => ?_
  refine (embeds_runStages hpart co c i).caught fun ended => ?_
  refine (embeds_within hpart co.clock).next fun now => ?_
  refine (embeds_measure hpart co _ _ _).bind fun _ => ?_
  refine (embeds_notify hpart co _).next fun _ => ?_
  exact (embeds_saveBody hpart co i _).next fun _ => embedsAction_pure _

theorem embeds_entry (version : Option Text) (e : SchemaEntry) :
    EmbedsAction whole (e.run (co.within part whole) c version) (e.run co c version) := by
  unfold SchemaEntry.run
  split
  · exact embeds_run hpart co c (e.input version)
  · exact embedsAction_pure _

theorem embeds_runMany (version : Option Text) (schemas : List StoredSchema) :
    EmbedsAction whole (runMany (co.within part whole) c version schemas)
      (runMany co c version schemas) := by
  induction schemas with
  | nil => exact embedsAction_pure []
  | cons stored schemas ih =>
    rw [runMany_cons, runMany_cons]
    refine EmbedsAction.known fun e => ?_
    refine (embeds_entry hpart co c version e).bind fun result => ?_
    exact ih.bind fun results => embedsAction_pure _

end Runs

namespace Session

variable {N : Type} (c : Config) (transport : Transport N) (d : Declarations)

/-- A run in a session is a run in its context. -/
theorem run_eq_context (i : RunInput) (s : Session N) :
    run (collaborators c transport d) c i s =
      ((run (context c transport d).collaborators c i s.parts).1,
        ofParts (run (context c transport d).collaborators c i s.parts).2) :=
  embeds_run (fun _ => rfl) (context c transport d).collaborators c i s.parts

/-- Runs of stored schemas in a session are runs in its context. -/
theorem runMany_eq_context (version : Option Text) (schemas : List StoredSchema) (s : Session N) :
    runMany (collaborators c transport d) c version schemas s =
      ((runMany (context c transport d).collaborators c version schemas s.parts).1,
        ofParts (runMany (context c transport d).collaborators c version schemas s.parts).2) :=
  embeds_runMany (fun _ => rfl) (context c transport d).collaborators c version schemas s.parts

end Session

end Conform
