import Conform.Telemetry.Metric

/-!
# Kept metrics

Observations are kept by metric in a registry, and the last ones of all metrics in a log of limited
size.

## Main definitions

- `MetricSeries` — the observations of one metric, with total and summary
- `MetricRegistry` — the series by name
- `MetricLog` — the last observations
-/

namespace Conform

/-- The observations of one metric, in order. The kind is that of the first one. -/
structure MetricSeries where
  name : Text
  kind : Text
  samples : List MetricSample

namespace MetricSeries

/-- The observed values. -/
def values (s : MetricSeries) : List Double := s.samples.map (·.value)

/-- The sum of the values from left to right. -/
def sum (s : MetricSeries) : Double := s.values.foldl Double.add (Double.nearestInt 0)

/-- The total: an integer zero if there are no observations. -/
def total (s : MetricSeries) : Number := if s.samples.isEmpty then .int 0 else .float s.sum

/-- The value that no other is before; of several the first. -/
def extreme (before : Double → Double → Bool) (first : Double) (rest : List Double) : Double :=
  rest.foldl (fun found d => if before d found then d else found) first

/-- Whether a double is below another. -/
def below (d e : Double) : Bool := Number.below (.float d) (.float e)

/-- A summary: how many observations there are and, if there are any, their mean, extremes and last
one. -/
def summary (s : MetricSeries) : List (Text × Value) :=
  let head : List (Text × Value) := Fields.named
    [("name", .text s.name), ("kind", .text s.kind), ("count", .int (Int.ofNat s.samples.length))]
  match s.samples.getLast?, s.values with
  | some last, first :: rest =>
    let mean := s.sum.div (Double.nearestInt (Int.ofNat s.samples.length))
    head ++ Fields.named [("avg", .float mean), ("min", .float (extreme below first rest)),
      ("max", .float (extreme (fun d e => below e d) first rest)),
      ("last", .object last.toFields)] ++ last.extra
  | _, _ => head

end MetricSeries

/-- The series of all metrics, in the order of their first observations. -/
abbrev MetricRegistry := List (Text × MetricSeries)

namespace MetricRegistry

/-- The series of a metric. -/
def series? (r : MetricRegistry) (name : Text) : Option MetricSeries := Fields.get? r name

/-- A registry with one more observation. -/
def add (r : MetricRegistry) (s : MetricSample) : MetricRegistry :=
  let old := (series? r s.name).getD ⟨s.name, s.kind, []⟩
  Fields.insert s.name { old with samples := old.samples ++ [s] } r

/-- The summaries of all series. -/
def summaries (r : MetricRegistry) : List (Text × Value) :=
  r.map fun (name, s) => (name, .object s.summary)

end MetricRegistry

/-- The last observations, at most as many as the limit says. -/
structure MetricLog where
  limit : Nat
  limit_pos : 0 < limit := by decide
  samples : List MetricSample := []

namespace MetricLog

/-- An empty log. At least one observation is kept. -/
def ofLimit (limit : Int) : MetricLog :=
  ⟨max 1 limit.toNat, Nat.lt_of_lt_of_le Nat.zero_lt_one (Nat.le_max_left _ _), []⟩

/-- The limit that is used if none is given. -/
def standardLimit : Int := 1024

/-- A log with one more observation, without the oldest ones beyond the limit. -/
def add (log : MetricLog) (s : MetricSample) : MetricLog :=
  let samples := log.samples ++ [s]
  { log with samples := samples.drop (samples.length - log.limit) }

/-- The kept observations, of one metric or of all. -/
def kept (log : MetricLog) (name : Option Text) : List MetricSample :=
  match name with
  | some name => log.samples.filter fun s => s.name == name
  | none => log.samples

/-- The log without observations. -/
def clear (log : MetricLog) : MetricLog := { log with samples := [] }

end MetricLog

end Conform
