import Conform.Resolver.Basic
import Conform.Telemetry.Hooks

/-!
# Calls that run together

The usual course of several calls: they all begin, some may be cancelled then, the fetches of the
others end in the order in which they began, and at last the waiting calls go on.

## Main definitions

- `Declarations` — what fetches give
- `Resolver.together` — calls that run together
- `Resolver.alone` — one call that nothing disturbs
- `Binding.announcement` — the event that announces a binding
-/

namespace Conform

/-- What fetches give: text, or nothing when they fail. Prompt fetches end before anything else
happens. -/
structure Declarations where
  prompt : Bool
  text? : Version → Option Text

/-- What a call's fetch gives. -/
def Declarations.forCall (d : Declarations) (c : Call) : Option Text :=
  (Version.ofName? c.name).bind d.text?

/-- The event that announces a binding. -/
def Binding.announcement (b : Binding) : Event where
  name := "resolver.version.resolved"
  payload := Fields.named [("version", .text b.version.name),
    ("declaration_bytes", .int (Int.ofNat b.declarations.length))]

namespace Resolver

/-- Ends the fetch of a call, if it is in one. -/
def landCall (d : Declarations) (r : Resolver) (call : Nat) : Resolver :=
  match r.calls[call]? with
  | some c => r.step (.land call (d.forCall c))
  | none => r

/-- Begins a call; a prompt fetch ends at once. -/
def beginCall (d : Declarations) (r : Resolver) (name : Text) : Resolver :=
  let r' := r.step (.begin name none)
  if d.prompt then landCall d r' r.calls.length else r'

/-- Calls that run together, some of which are cancelled when all have begun. -/
def together (r : Resolver) (d : Declarations) (names : List Text) (cancelled : List Nat) :
    Resolver :=
  let calls := (List.range names.length).map (r.calls.length + ·)
  let begun := names.foldl (beginCall d) r
  let pruned := (cancelled.filterMap fun i => calls[i]?).foldl (fun r c => r.step (.cancel c)) begun
  let landed := calls.foldl (landCall d) pruned
  calls.foldl (fun r c => r.step (.wake c)) landed

/-- How the last calls ended. -/
def lastOutcomes (r : Resolver) (count : Nat) : List (Option CallOutcome) :=
  (List.range count).map fun i => r.outcome? (r.calls.length - count + i)

/-- One call that nothing disturbs. -/
def alone (r : Resolver) (d : Declarations) (name : Text) : Resolver := r.together d [name] []

end Resolver

end Conform
