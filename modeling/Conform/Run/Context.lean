import Conform.Resolver.Schedule
import Conform.Run.Basic

/-!
# Contexts

A context is what runs have in common. They share a resolver, which the context keeps beside the
world of its other collaborators.

## Main definitions

- `beside` — a step next to something that it leaves alone
- `RunContext` — what runs have in common
- `RunContext.resolve` — resolving a version, with its fetch counted and its binding announced
- `RunContext.collaborators` — the collaborators of runs in a context
- `Collaborators.within` — collaborators in a world that can be taken apart
-/

namespace Conform

/-- A step next to something that it leaves alone. -/
def beside {W R α : Type} (m : StateM W α) : StateM (W × R) α := fun s =>
  let (a, w) := m s.1
  (a, (w, s.2))

/-- What runs have in common, apart from their resolver. -/
structure RunContext (W : Type) where
  /-- The response to a call. -/
  execute : RequestCall → Action W (Except RequestFailure Response)
  /-- The declarations of a version. -/
  fetch : Version → Action W Text
  /-- Where observations go. -/
  record : MetricSample → Action W Unit
  /-- The functions that are called with events. -/
  observers : List (Event → Action W Unit)
  /-- What keeps bodies. -/
  save : Option (Text → Action W Unit)
  /-- The time in milliseconds. -/
  clock : StateM W Int

/-- The version whose fetch a call by some name would begin, if it would. -/
def Resolver.fetchedBy? (r : Resolver) (name : Text) : Option Version :=
  match Version.ofName? name with
  | some v => if r.fetches && (r.slot? v).isNone then some v else none
  | none => none

namespace RunContext

variable {W : Type} (x : RunContext W)

/-- A move of the resolver. -/
def move (m : Resolver.Move) : StateM (W × Resolver) Unit := fun s => ((), (s.1, s.2.step m))

/-- Counts a fetch of declarations. -/
def countFetch (v : Version) : Action W Unit :=
  x.record (MetricSample.of .fetches (Double.nearestInt 1) [(Text.ofString "version", v.name)])

/-- Fetches the declarations for a call, whether or not that succeeds. -/
def fetchFor (v : Version) (call : Nat) : StateM (W × Resolver) Unit := do
  let fetched ← beside (x.fetch v).outcome
  move (.land call fetched.toOption)

/-- A call of the resolver, given the version whose fetch it begins, if any. A fetch is counted
before it begins. -/
def begin (name : Text) (call : Nat) : Option Version → StateM (W × Resolver) Unit
  | none => move (.begin name none)
  | some v => do
    match ← beside (x.countFetch v).outcome with
    | .error error => move (.begin name (some error))
    | .ok _ =>
      move (.begin name none)
      x.fetchFor v call

/-- A call of the resolver with nothing else going on. -/
def call (name : Text) : StateM (W × Resolver) Unit := do
  let r := (← get).2
  x.begin name r.calls.length (r.fetchedBy? name)

/-- Announces bindings. -/
def announce (bs : List Binding) : StateM (W × Resolver) Unit :=
  beside (bs.forM fun b => dispatch (fun f e => f e) x.observers b.announcement)

/-- What comes out of a call that ended; none without a binding. -/
def answer : Option CallOutcome → Except Raised (Option Version)
  | some (.bound b) => .ok (some b.version)
  | some (.failed error) => .error error
  | _ => .ok none

/-- Resolves a version by its name. A new binding is announced. -/
def resolve (name : Text) : Action (W × Resolver) (Option Version) := do
  let before := (← get).2
  x.call name
  let after := (← get).2
  x.announce (after.announced.drop before.announced.length)
  answer (after.outcome? before.calls.length)

/-- The collaborators of runs in a context. -/
def collaborators : Collaborators (W × Resolver) where
  execute call := beside (x.execute call)
  resolve := x.resolve
  record sample := beside (x.record sample)
  observers := x.observers.map fun f event => beside (f event)
  save := x.save.map fun save body => beside (save body)
  clock := beside x.clock

end RunContext

/-- A step in a world that can be taken apart. -/
def within {S W α : Type} (part : S → W) (whole : W → S) (m : StateM W α) : StateM S α := fun s =>
  let (a, w) := m (part s)
  (a, whole w)

/-- Collaborators in a world that can be taken apart. -/
def Collaborators.within {S W : Type} (part : S → W) (whole : W → S) (co : Collaborators W) :
    Collaborators S where
  execute call := Conform.within part whole (co.execute call)
  resolve name := Conform.within part whole (co.resolve name)
  record sample := Conform.within part whole (co.record sample)
  observers := co.observers.map fun f event => Conform.within part whole (f event)
  save := co.save.map fun save body => Conform.within part whole (save body)
  clock := Conform.within part whole co.clock

end Conform
