import Conform.Text.Basic

/-!
# Actions

What a collaborator does changes a world and may fail with an error. Changes made before an error
remain.

## Main definitions

- `Raised` — an error, of which only the text matters
- `Action` — what changes a world and may fail
- `Action.settle` — an action whose errors are passed over
- `Action.outcome`, `Action.attempt` — an action that gives its error
-/

namespace Conform

/-- An error of a collaborator. -/
structure Raised where
  message : Text
  deriving DecidableEq, Repr

/-- What changes a world and may fail. -/
abbrev Action (W α : Type) := ExceptT Raised (StateM W) α

namespace Action

/-- An action whose error is passed over. -/
def settle {W : Type} (action : Action W Unit) : StateM W Unit := fun w => ((), (action w).2)

/-- What comes out of an action, be it an error. -/
def outcome {W α : Type} (action : Action W α) : StateM W (Except Raised α) := action

/-- An action that gives its error instead of failing. -/
def attempt {W α : Type} (action : Action W α) : Action W (Except Raised α) := fun w =>
  let (result, w) := action w
  (.ok result, w)

end Action

end Conform
