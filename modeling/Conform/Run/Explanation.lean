import Conform.Action
import Conform.Run.Result

/-!
# Explanations

A collaborator explains violations. Its answer is passed on as it is.

## Main definitions

- `explain` — the answer of a collaborator, or its failure
-/

namespace Conform

/-- What explains violations of a schema in some data. -/
abbrev Explainer (W : Type) := Text → List Issue → Value → Action W Value

/-- What stands for the answer of a collaborator that fails. -/
def failedExplanation (error : Raised) : Value :=
  .object (Fields.named [("success", .bool false), ("error", .text error.message)])

/-- The answer of a collaborator, or its failure. -/
def explain {W : Type} (explainer : Explainer W) (source : Text) (issues : List Issue)
    (data : Value) : StateM W Value := do
  match ← (explainer source issues data).outcome with
  | .ok answer => return answer
  | .error error => return failedExplanation error

end Conform
