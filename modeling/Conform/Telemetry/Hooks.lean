import Conform.Action
import Conform.Schema.Basic

/-!
# Hooks

Functions are registered under the names of events and called when such an event happens. A
registration is undone by closing its handle, which removes the first registration of the same
function under the same name.

## Main definitions

- `Event` — a name with a payload
- `Hooks` — the registered functions
- `HookBoard` — registered functions together with the handles of all registrations
- `dispatch` — calling the functions of an event
-/

namespace Conform

/-- Something that happened. -/
structure Event where
  name : Text
  payload : List (Text × Value)

/-- The registered functions by the name of their event, in the order of registration. No list is
empty. -/
abbrev Hooks (F : Type) := List (Text × List F)

/-- Why a registration is refused. -/
inductive HookFault
  | badName
  | notCallable
  deriving DecidableEq, Repr

/-- The wording of a fault. -/
def HookFault.message : HookFault → Text
  | .badName => "hook name must be a non-empty string"
  | .notCallable => "hook callback must be callable"

namespace Hooks

variable {F : Type} [DecidableEq F]

/-- The functions of an event. -/
def functions (hooks : Hooks F) (name : Text) : List F := (Fields.get? hooks name).getD []

/-- Adds a function to those of an event. -/
def add (hooks : Hooks F) (name : Text) (f : F) : Hooks F :=
  Fields.insert name (functions hooks name ++ [f]) hooks

/-- Removes the first registration of a function for an event, if there is one. -/
def remove (hooks : Hooks F) (name : Text) (f : F) : Hooks F :=
  match (functions hooks name).erase f with
  | [] => hooks.filter fun (key, _) => key != name
  | rest => Fields.insert name rest hooks

end Hooks

/-- The handle of a registration. -/
structure HookHandle (F : Type) where
  name : Text
  function : F
  closed : Bool := false

/-- Registered functions with the handles of all registrations, in the order of registration. -/
structure HookBoard (F : Type) where
  hooks : Hooks F := []
  handles : List (HookHandle F) := []

namespace HookBoard

variable {F : Type} [DecidableEq F]

/-- Registers a function. The name must be a text that is not empty, and the function must be one.
The number of its handle comes out with the new board. -/
def register (board : HookBoard F) (name : Option Text) (function : Option F) :
    Except HookFault (Nat × HookBoard F) :=
  match name, function with
  | some [], _ => .error .badName
  | none, _ => .error .badName
  | some _, none => .error .notCallable
  | some name, some f =>
    .ok (board.handles.length, ⟨board.hooks.add name f, board.handles ++ [⟨name, f, false⟩]⟩)

/-- Removes the first registration of a function for an event. -/
def unregister (board : HookBoard F) (name : Text) (f : F) : HookBoard F :=
  { board with hooks := board.hooks.remove name f }

/-- Closes a handle. Closing it again does nothing. -/
def close (board : HookBoard F) (number : Nat) : HookBoard F :=
  match board.handles[number]? with
  | some handle =>
    if handle.closed then board
    else
      ⟨board.hooks.remove handle.name handle.function,
        board.handles.set number { handle with closed := true }⟩
  | none => board

end HookBoard

/-- Calls functions with an event, one after another. The error of one does not keep the others from
being called. -/
def dispatch {W F : Type} (call : F → Event → Action W Unit) (functions : List F) (event : Event) :
    StateM W Unit :=
  functions.forM fun f => (call f event).settle

end Conform
