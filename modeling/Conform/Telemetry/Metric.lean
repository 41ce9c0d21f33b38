import Conform.Datum.Display
import Conform.Json.Printing
import Conform.Number.Reading

/-!
# Metric samples

A sample is one observation of a metric. Some metrics are known in advance, with a kind, a
description and a unit.

## Main definitions

- `Metric` — the known metrics
- `MetricSample` — an observation
- `MetricSample.make` — an observation from loose parts
- `MetricSample.toFields`, `MetricSample.line` — its layout
-/

namespace Conform

/-- The metrics that are known in advance. -/
inductive Metric
  | fetches
  | compileFailures
  | requestLatency
  | validationErrors
  | runDuration
  | samplesGenerated
  deriving DecidableEq, Repr

namespace Metric

/-- All known metrics. -/
def all : List Metric :=
  [.fetches, .compileFailures, .requestLatency, .validationErrors, .runDuration, .samplesGenerated]

/-- The name of a metric. -/
def name : Metric → Text
  | .fetches => "schemaprobe.resolver.fetches"
  | .compileFailures => "schemaprobe.compile.failures"
  | .requestLatency => "schemaprobe.request.latency_ms"
  | .validationErrors => "schemaprobe.validation.errors"
  | .runDuration => "schemaprobe.run.duration_ms"
  | .samplesGenerated => "schemaprobe.samples.generated"

/-- Whether a metric counts events or reports a value. -/
def kind : Metric → Text
  | .fetches => "counter"
  | .compileFailures => "counter"
  | .samplesGenerated => "counter"
  | _ => "gauge"

/-- What a metric says. -/
def description : Metric → Text
  | .fetches => "Declaration fetches performed while resolving a version"
  | .compileFailures => "Schema sources rejected by the compiler"
  | .requestLatency => "Wall clock latency of the request under test"
  | .validationErrors => "Violations reported by the last validation"
  | .runDuration => "Wall clock latency of a full orchestrated run"
  | .samplesGenerated => "Sample payloads produced by the generator"

/-- What a metric is measured in. -/
def unit : Metric → Text
  | .requestLatency => "milliseconds"
  | .runDuration => "milliseconds"
  | _ => "count"

/-- The known metric with a name. -/
def ofName? (name : Text) : Option Metric := all.find? fun m => m.name == name

end Metric

/-- An observation of a metric. -/
structure MetricSample where
  name : Text
  value : Double
  kind : Text
  tags : List (Text × Text)
  deriving DecidableEq

/-- Why an observation is refused. -/
inductive MetricFault
  | badName
  | notNumeric (v : Value)
  | integerTooLarge

/-- The wording of a fault. -/
def MetricFault.message : MetricFault → Text
  | .badName => "metric name must be a non-empty string"
  | .notNumeric v => "metric value for " ++ (Datum.ofValue v).shown ++ " must be numeric"
  | .integerTooLarge => "int too large to convert to float"

namespace MetricSample

/-- An observation of a known metric. -/
def of (m : Metric) (value : Double) (tags : List (Text × Text)) : MetricSample :=
  ⟨m.name, value, m.kind, tags⟩

/-- The number that is observed; a text must read as one. -/
def valueOf : Value → Except MetricFault Double
  | .scalar (.bool b) => .ok (Double.nearestInt (if b then 1 else 0))
  | .scalar (.number n) =>
    match n.toDouble? with
    | some d => .ok d
    | none => .error .integerTooLarge
  | .scalar (.text t) =>
    match Number.double? t with
    | some d => .ok d
    | none => .error (.notNumeric (.text t))
  | v => .error (.notNumeric v)

/-- An observation from loose parts. Without a kind it has that of the known metric; others report a
value. -/
def make (name value : Value) (kind : Text) (tags : List (Text × Text)) :
    Except MetricFault MetricSample := do
  match name with
  | .scalar (.text name) =>
    if name.isEmpty then throw .badName
    let value ← valueOf value
    let standard := ((Metric.ofName? name).map Metric.kind).getD "gauge"
    return ⟨name, value, if kind.isEmpty then standard else kind, tags⟩
  | _ => throw .badName

/-- What is known about the metric. -/
def extra (s : MetricSample) : List (Text × Value) :=
  match Metric.ofName? s.name with
  | some m => Fields.named [("description", .text m.description), ("unit", .text m.unit)]
  | none => []

/-- The fields of an observation; empty groups are left out. -/
def toFields (s : MetricSample) : List (Text × Value) :=
  let tags : Value := .object (s.tags.map fun (k, v) => (k, .text v))
  Fields.named ([("name", .text s.name), ("value", .float s.value), ("kind", .text s.kind)]
    ++ (if s.tags.isEmpty then [] else [("tags", tags)])
    ++ (if s.extra.isEmpty then [] else [("extra", .object s.extra)]))

/-- The line of an observation in a file, with the time it was made. -/
def line (s : MetricSample) (time : Number) : Text :=
  Value.toJson Json.Style.spaced
    (.object (s.toFields ++ Fields.named [("timestamp", .number time)]))

end MetricSample

end Conform
