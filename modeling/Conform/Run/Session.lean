import Conform.Run.Batch
import Conform.Run.Context

/-!
# Sessions

A session keeps what the collaborators of its runs have in common: a resolver, the recorded
observations, the events, and the state of a network.

## Main definitions

- `Backdrop` — what is kept apart from the resolver
- `Session` — what is kept
- `Session.context` — the context of the runs in a session
- `Session.collaborators` — their collaborators
-/

namespace Conform

/-- What runs have in common apart from their resolver; `N` is the state of the network.
Observations, events and saved bodies are kept in order. -/
structure Backdrop (N : Type) where
  network : N
  samples : List MetricSample := []
  events : List Event := []
  saved : List Text := []
  /-- Why no observation can be recorded, if that is so. -/
  unrecordable : Option Raised := none

/-- What runs have in common. -/
structure Session (N : Type) extends Backdrop N where
  resolver : Resolver

namespace Backdrop

variable {N : Type}

/-- What happens on the network. -/
def onNetwork {α : Type} (action : Action N α) : Action (Backdrop N) α := fun b =>
  let (result, network) := action b.network
  (result, { b with network })

/-- Records an observation. -/
def record (sample : MetricSample) : Action (Backdrop N) Unit := do
  match (← get).unrecordable with
  | some error => throw error
  | none => modify fun b => { b with samples := b.samples ++ [sample] }

/-- Keeps an event. -/
def note (event : Event) : Action (Backdrop N) Unit :=
  modify fun b => { b with events := b.events ++ [event] }

/-- Keeps a body. -/
def save (body : Text) : Action (Backdrop N) Unit :=
  modify fun b => { b with saved := b.saved ++ [body] }

end Backdrop

namespace Session

variable {N : Type}

/-- A session as what is kept apart from the resolver, and the resolver. -/
def parts (s : Session N) : Backdrop N × Resolver := (s.toBackdrop, s.resolver)

/-- The session with some parts. -/
def ofParts (p : Backdrop N × Resolver) : Session N := { p.1 with resolver := p.2 }

/-- Keeps a body. -/
def save (body : Text) : Action (Session N) Unit :=
  within parts ofParts (beside (Backdrop.save body))

/-- The context of the runs in a session. Time stands still in it. -/
def context (c : Config) (transport : Transport N) (d : Declarations) :
    RunContext (Backdrop N) where
  execute := Client.execute c.request fun request => Backdrop.onNetwork (transport request)
  fetch v :=
    match d.text? v with
    | some declarations => return declarations
    | none => throw ⟨[]⟩
  record := Backdrop.record
  observers := [Backdrop.note]
  save := some Backdrop.save
  clock := pure 0

/-- The collaborators of the runs in a session. -/
def collaborators (c : Config) (transport : Transport N) (d : Declarations) :
    Collaborators (Session N) :=
  (context c transport d).collaborators.within parts ofParts

end Session

end Conform
