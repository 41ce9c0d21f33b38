import Conform.Run.Client
import Conform.Run.Result
import Conform.Telemetry.Hooks
import Conform.Telemetry.Metric

/-!
# Running a schema test

A run requests an address and checks the payload of the response against a schema. It works with
collaborators, each of which may fail at any of its calls.

## Main definitions

- `Collaborators` — what a run works with
- `RunInput` — what is to be run
- `runStages` — the stages of a run
- `run` — a run with what is reported about it
-/

namespace Conform

/-- What a run works with. -/
structure Collaborators (W : Type) where
  /-- The response to a call. -/
  execute : RequestCall → Action W (Except RequestFailure Response)
  /-- The version with a name; none if it is not supported. -/
  resolve : Text → Action W (Option Version)
  /-- Where observations go. -/
  record : MetricSample → Action W Unit
  /-- The functions that are called with events. -/
  observers : List (Event → Action W Unit)
  /-- What keeps bodies. -/
  save : Option (Text → Action W Unit)
  /-- The time in milliseconds. -/
  clock : StateM W Int

/-- What is to be run. The address should be a text. -/
structure RunInput where
  source : Text
  version : Option Text := none
  endpoint : Value
  method : Text := []
  headers : List (Text × Value) := []
  body : Option Text := none

namespace RunInput

/-- The method in capitals; without one it is `GET`. -/
def verb (i : RunInput) : Text := if i.method.isEmpty then "GET" else methodVerb i.method

/-- The name of the version: the one that is asked for, or the configured one. -/
def versionName (c : Config) (i : RunInput) : Text :=
  match i.version with
  | some name => if name.isEmpty then c.resolver.defaultVersion else name
  | none => c.resolver.defaultVersion

/-- The address without blanks around it; none if there is no address. What is no text has no
blanks, and fails. -/
def address (i : RunInput) : Except Raised (Option Text) :=
  match i.endpoint with
  | .scalar (.text t) => .ok (if t.strip.isEmpty then none else some t.strip)
  | v =>
    if v.truthy then .error ⟨"'" ++ v.classPath ++ "' object has no attribute 'strip'"⟩
    else .ok none

end RunInput

/-- Records an observation of a known metric. -/
def Collaborators.measure {W : Type} (co : Collaborators W) (m : Metric) (value : Double)
    (tags : List (Text × Text)) : Action W Unit :=
  co.record (MetricSample.of m value tags)

/-- Calls the observers with an event; their failures are passed over. -/
def Collaborators.notify {W : Type} (co : Collaborators W) (event : Event) : StateM W Unit :=
  dispatch (fun f e => f e) co.observers event

/-- Reports a compile error that has a position; the others fail. -/
def Collaborators.reportOf {W : Type} (co : Collaborators W) (e : CompileError) :
    Action W CompileReport :=
  match e.report with
  | .ok report => do
    co.measure .compileFailures (Double.nearestInt 1) [(Text.ofString "kind", report.kind.name)]
    return report
  | .error e => throw ⟨e.message⟩

/-- What is checked when a response has come. -/
def checkResponse {W : Type} (co : Collaborators W) (c : Config) (i : RunInput)
    (response : Response) (v : Version) : Action W RunEnd := do
  match compile v i.source with
  | .error e => return .uncompiled response (← co.reportOf e)
  | .ok s =>
    let issues := s.validate (some c.unknownKeys.name) response.data
    co.measure .validationErrors (Double.nearestInt (Int.ofNat issues.length)) []
    return .validated response issues

/-- The stages of a run. -/
def runStages {W : Type} (co : Collaborators W) (c : Config) (i : RunInput) :
    Action W RunEnd := do
  match ← (i.address : Except Raised (Option Text)) with
  | none => return .noEndpoint false
  | some address =>
    match RequestBody.read i.verb i.body with
    | .error (.integerTooLong digits) =>
      throw ⟨(Json.Failure.integerTooLong digits).message []⟩
    | .error failure => return .badBody (i.body.getD []) failure
    | .ok body =>
      let started ← co.clock
      match ← co.execute ⟨address, i.verb, i.headers, body⟩ with
      | .error .noResponse => return .noResponse
      | .error (.setup detail) => return .notSent detail
      | .ok response =>
        let elapsed := (← co.clock) - started
        co.measure .requestLatency (Double.nearestInt elapsed)
          [(Text.ofString "status", Text.ofNat response.status)]
        let name := i.versionName c
        match ← co.resolve name with
        | none => return .unknownVersion response name
        | some v => checkResponse co c i response v

/-- The event at the end of a run. -/
def runCompleted (i : RunInput) (r : RunResult) : Event where
  name := "orchestrator.run.completed"
  payload := Fields.named [("endpoint", i.endpoint), ("method", .text i.verb),
    ("outcome", .text r.ending.outcome), ("success", .bool r.ending.success),
    ("duration_ms", .int r.duration)]

/-- Keeps a body that was usable. -/
def saveBody {W : Type} (co : Collaborators W) (i : RunInput) (r : RunResult) : StateM W Unit :=
  match RequestBody.content? i.verb i.body, co.save with
  | some body, some save => if r.ending.keepsBody then (save body).settle else pure ()
  | _, _ => pure ()

/-- A run. An error inside a stage is a way to end; then the run is measured and announced, and its
body is kept. -/
def run {W : Type} (co : Collaborators W) (c : Config) (i : RunInput) : Action W RunResult := do
  let started ← co.clock
  let ending : RunEnd ←
    match ← (runStages co c i).attempt with
    | .ok ending => pure ending
    | .error error => pure (.unexpected error)
  let result : RunResult := ⟨ending, (← co.clock) - started⟩
  co.measure .runDuration (Double.nearestInt result.duration)
    [(Text.ofString "outcome", ending.outcome)]
  co.notify (runCompleted i result)
  saveBody co i result
  return result

end Conform
