import Conform.Action
import Conform.Schema.Building

/-!
# Resolving versions

A version is resolved once: the first call fetches its declarations, calls that come meanwhile wait
for that fetch, and later calls get the same binding. The calls of a resolver run interleaved, so
its life is a row of moves, each of which takes one call from one point where it is suspended to the
next. A move that does not fit the state changes nothing.

## Main definitions

- `Binding`, `Slot`, `Flight`, `Call` — what a resolver keeps
- `Resolver` — its state
- `Resolver.Move`, `Resolver.step`, `Resolver.run` — its life
- `Resolver.cached` — the versions that are bound
-/

namespace Conform

/-- A version with its declarations. Bindings are told apart by their numbers. -/
structure Binding where
  number : Nat
  version : Version
  declarations : Text
  deriving DecidableEq, Repr

/-- What is kept for a version. -/
inductive Slot
  /-- The declarations are being fetched. -/
  | pending (flight : Nat)
  | bound (b : Binding)
  deriving DecidableEq, Repr

/-- What a waiting call waits for. -/
inductive Flight
  | pending
  | landed (b : Binding)
  | cancelled
  deriving DecidableEq, Repr

/-- How a call ends. -/
inductive CallOutcome
  | bound (b : Binding)
  /-- The version is not supported. -/
  | unknown
  | cancelled
  | failed (error : Raised)
  deriving DecidableEq, Repr

/-- Where a call is suspended. -/
inductive CallPoint
  /-- In the fetch of its own flight. -/
  | fetching (flight : Nat)
  /-- Behind the flight of another call. -/
  | waiting (flight : Nat)
  | finished (outcome : CallOutcome)
  deriving DecidableEq, Repr

/-- A call that resolves a version by its name. -/
structure Call where
  name : Text
  point : CallPoint
  deriving DecidableEq, Repr

/-- The state of a resolver. Calls and flights are numbered in the order in which they began. -/
structure Resolver where
  /-- Whether declarations are fetched at all. -/
  fetches : Bool
  /-- What is kept, in the order in which the versions were first asked for. -/
  slots : List (Version × Slot) := []
  flights : List Flight := []
  calls : List Call := []
  /-- How many bindings there are. -/
  bindings : Nat := 0
  /-- The versions of all fetches that were begun. -/
  fetched : List Version := []
  /-- The bindings that were announced. -/
  announced : List Binding := []
  deriving DecidableEq, Repr

namespace Resolver

/-- What is kept for a version. -/
def slot? (r : Resolver) (v : Version) : Option Slot := r.slots.lookup v

/-- Keeps something for a version, in its old place if it has one. -/
def setSlot (v : Version) (s : Slot) : List (Version × Slot) → List (Version × Slot)
  | [] => [(v, s)]
  | (w, t) :: rest => if w = v then (w, s) :: rest else (w, t) :: setSlot v s rest

/-- Keeps nothing for a version. -/
def clearSlot (v : Version) (slots : List (Version × Slot)) : List (Version × Slot) :=
  slots.filter fun (w, _) => w != v

/-- The versions that are bound. -/
def cached (r : Resolver) : List Version :=
  r.slots.filterMap fun
    | (v, .bound _) => some v
    | (_, .pending _) => none

/-- Takes a call to a point. -/
def moveCall (r : Resolver) (call : Nat) (point : CallPoint) : Resolver :=
  match r.calls[call]? with
  | some c => { r with calls := r.calls.set call { c with point } }
  | none => r

/-- Begins a call at a point. -/
def addCall (r : Resolver) (name : Text) (point : CallPoint) : Resolver :=
  { r with calls := r.calls ++ [⟨name, point⟩] }

/-- Begins a flight for a version. -/
def addFlight (r : Resolver) (v : Version) : Resolver :=
  { r with
    slots := setSlot v (.pending r.flights.length) r.slots
    flights := r.flights ++ [.pending] }

/-- The binding that a version gets. -/
def newBinding (r : Resolver) (v : Version) (declarations : Text) : Binding :=
  ⟨r.bindings, v, declarations⟩

/-- Binds a version at the end of a flight and announces the binding. -/
def bind (r : Resolver) (v : Version) (flight : Nat) (declarations : Text) : Resolver :=
  let b := r.newBinding v declarations
  { r with
    slots := setSlot v (.bound b) r.slots
    flights := r.flights.set flight (.landed b)
    bindings := r.bindings + 1
    announced := r.announced ++ [b] }

/-- A move of a resolver. -/
inductive Move
  /-- A new call runs until it is suspended. Counting its fetch may fail. -/
  | begin (name : Text) (countFault : Option Raised)
  /-- The fetch of a call ends, with declarations or in failure. -/
  | land (call : Nat) (declarations : Option Text)
  /-- A call goes on behind the flight that it waited for. -/
  | wake (call : Nat)
  | cancel (call : Nat)
  deriving DecidableEq, Repr

/-- A new call runs until it is suspended. -/
def begin (r : Resolver) (name : Text) (countFault : Option Raised) : Resolver :=
  match Version.ofName? name with
  | none => r.addCall name (.finished .unknown)
  | some v =>
    match r.slot? v with
    | some (.bound b) => r.addCall name (.finished (.bound b))
    | some (.pending flight) => r.addCall name (.waiting flight)
    | none =>
      let flight := r.flights.length
      let r' := r.addFlight v
      if r.fetches then
        match countFault with
        | some error => r'.addCall name (.finished (.failed error))
        | none => { r' with fetched := r'.fetched ++ [v] }.addCall name (.fetching flight)
      else (r'.bind v flight []).addCall name (.finished (.bound (r'.newBinding v [])))

/-- The fetch of a call ends. A failed fetch counts as one without declarations. -/
def land (r : Resolver) (call : Nat) (declarations : Option Text) : Resolver :=
  match r.calls[call]? with
  | some ⟨name, .fetching flight⟩ =>
    match Version.ofName? name with
    | some v =>
      let t := declarations.getD []
      (r.bind v flight t).moveCall call (.finished (.bound (r.newBinding v t)))
    | none => r
  | _ => r

/-- A call goes on behind the flight that it waited for. It is cancelled together with it. -/
def wake (r : Resolver) (call : Nat) : Resolver :=
  match r.calls[call]? with
  | some ⟨_, .waiting flight⟩ =>
    match r.flights[flight]? with
    | some (.landed b) => r.moveCall call (.finished (.bound b))
    | some .cancelled => r.moveCall call (.finished .cancelled)
    | _ => r
  | _ => r

/-- A call is cancelled. If it is fetching, its flight is cancelled and nothing is kept for its
version. -/
def cancel (r : Resolver) (call : Nat) : Resolver :=
  match r.calls[call]? with
  | some ⟨name, .fetching flight⟩ =>
    match Version.ofName? name with
    | some v =>
      { r with
        slots := clearSlot v r.slots
        flights := r.flights.set flight .cancelled }.moveCall call (.finished .cancelled)
    | none => r
  | some ⟨_, .waiting _⟩ => r.moveCall call (.finished .cancelled)
  | _ => r

/-- The state after a move. -/
def step (r : Resolver) : Move → Resolver
  | .begin name countFault => r.begin name countFault
  | .land call declarations => r.land call declarations
  | .wake call => r.wake call
  | .cancel call => r.cancel call

/-- The state after a row of moves. -/
def run (r : Resolver) (moves : List Move) : Resolver := moves.foldl step r

/-- How a call ended, if it has. -/
def outcome? (r : Resolver) (call : Nat) : Option CallOutcome :=
  match r.calls[call]? with
  | some ⟨_, .finished outcome⟩ => some outcome
  | _ => none

end Resolver

/-- What is said about a version that is not supported. -/
def unknownVersionMessage (name : Text) : Text := "Unsupported version '" ++ name ++ "'"

end Conform
