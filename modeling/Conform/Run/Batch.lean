import Conform.Datum.Display
import Conform.Run.Basic

/-!
# Stored schemas

Stored schemas are run one after another, without a body.

## Main definitions

- `SchemaEntry` — a stored schema
- `SchemaEntry.ofEntries` — the schema that some entries store
- `runMany` — runs of stored schemas
-/

namespace Conform

/-- A stored schema. An address that is null is missing. -/
structure SchemaEntry where
  name : Text
  source : Text
  endpoint : Value
  headers : List (Text × Value)

namespace SchemaEntry

/-- What stands under the first of some keys under which something stands that is not empty. -/
def first? (entries : Entries) (keys : List Text) : Option Datum :=
  keys.findSome? fun key => (entries.at? key).filter Datum.truthy

/-- A datum as a text. -/
def textOf (d : Datum) : Except Raised Text :=
  match d.asText? with
  | some t => .ok t
  | none => .error ⟨Number.tooLongMessage⟩

/-- The schema that some entries store. Names and sources of other types are written as texts. -/
def ofEntries (entries : Entries) : Except Raised SchemaEntry := do
  let name ← textOf ((first? entries ["name"]).getD (.text "schema"))
  let source ← textOf ((first? entries ["source", "content"]).getD (.text []))
  let endpoint := (first? entries ["endpoint", "endpoint_url"]).getD .null
  let headers := ((entries.at? "headers").bind Datum.entries?).getD []
  return ⟨name, source, endpoint.toValue, headers.toFields⟩

/-- The fields of a stored schema. -/
def toFields (e : SchemaEntry) : List (Text × Value) :=
  Fields.named [("name", .text e.name), ("source", .text e.source), ("endpoint", e.endpoint),
    ("headers", .object e.headers)]

/-- What is run for a stored schema. -/
def input (e : SchemaEntry) (version : Option Text) : RunInput :=
  { source := e.source, version, endpoint := e.endpoint, method := "GET", headers := e.headers }

/-- The run of a stored schema. Without an address there is none. -/
def run {W : Type} (co : Collaborators W) (c : Config) (version : Option Text)
    (e : SchemaEntry) : Action W RunResult :=
  if e.endpoint.truthy then Conform.run co c (e.input version)
  else return { ending := .noEndpoint true }

end SchemaEntry

/-- The result of a stored schema. -/
structure BatchResult where
  name : Text
  result : RunResult

/-- The fields of a result with the name of its schema. -/
def BatchResult.toFields (r : BatchResult) : List (Text × Value) :=
  Fields.named [("name", .text r.name)] ++ r.result.toFields

/-- A stored schema as it comes: as a datum that should be a mapping, or already taken apart. -/
inductive StoredSchema
  | loose (d : Datum)
  | entry (e : SchemaEntry)

/-- A stored schema taken apart. -/
def StoredSchema.entry? : StoredSchema → Except Raised SchemaEntry
  | .loose (.mapping entries) => SchemaEntry.ofEntries entries
  | .loose d => .error ⟨"'" ++ d.className ++ "' object has no attribute 'get'"⟩
  | .entry e => .ok e

/-- Runs of stored schemas, one after another. -/
def runMany {W : Type} (co : Collaborators W) (c : Config) (version : Option Text)
    (schemas : List StoredSchema) : Action W (List BatchResult) :=
  schemas.mapM fun stored => do
    let e ← (stored.entry? : Except Raised SchemaEntry)
    return ⟨e.name, ← e.run co c version⟩

end Conform
