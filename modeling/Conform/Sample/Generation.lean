import Conform.Sample.Leaves
import Conform.Schema.Checking

/-!
# Generating samples

A sample is built along the schema, one value for each part. Schemas whose values cannot be built,
such as `never`, give null. The samples are checked afterwards, so a result is a success only if all
of them conform.

## Main definitions

- `Schema.sample` — one sample
- `Schema.samples` — some samples with the draws of one source
- `SampleResult` — samples with what is wrong with them
- `Schema.sampleResult` — the samples for given options
-/

namespace Conform

variable {S : Type}

/-- An absent value is null where a value must stand. -/
def Value.present : Value → Value
  | .scalar .undefined => .null
  | v => v

/-- The size of an array or a record. -/
def sampleSize (o : SampleOptions) (checks : List (Check LengthRule)) : Sampling S Nat := do
  let bounds := checks.foldl (fun b check => b.add check.rule) ({} : LengthBounds)
  return bounds.clamp (← Drawing.natBetween o.minArrayLength o.maxArrayLength)

/-- A value for each side of an intersection, joined if both are objects. -/
def Value.joined : (left right : Value) → Value
  | .object a, .object b => .object (Fields.merge a b)
  | left, _ => left

/-- Fields with keys and values that are drawn in turn; a key that is no text is left out. -/
def sampleEntries (key value : Sampling S Value) :
    (count : Nat) → (found : List (Text × Value)) → Sampling S (List (Text × Value))
  | 0, found => return found
  | count + 1, found => do
    match ← key with
    | .scalar (.text name) =>
      sampleEntries key value count (Fields.insert name (← value).present found)
    | _ => sampleEntries key value count found

/-- Whether a value conforms when undeclared keys are ignored. -/
def Schema.isMatch (s : Schema) (v : Value) : Sampling S Bool :=
  Sampling.lift <|
    match s.issues .strip v with
    | .ok issues => .ok issues.isEmpty
    | .error .integerTooLarge => .error .integerTooLarge

/-- Draws from one source after the other until a value is accepted; failing all, the last value. -/
def firstMatch (accepts : Value → Sampling S Bool) (last : Value) :
    List (Sampling S Value) → Sampling S Value
  | [] => return last
  | draw :: rest => do
    let v ← draw
    if ← accepts v then return v else firstMatch accepts v rest

mutual

/-- A value for a schema. -/
def Schema.sample (o : SampleOptions) : Schema → Sampling S Value
  | .mk _ form => form.sample o
termination_by structural s => s

/-- A value for a form. -/
def Form.sample (o : SampleOptions) : Form → Sampling S Value
  | .string checks => do return .text (← sampleText o checks)
  | .number checks => do return .number (← sampleNumber o checks)
  | .boolean => do return .bool (← Drawing.coin)
  | .null => return .null
  | .undefined => return .undefined
  | .nan => return .float .nan
  | .date => do return .date (← sampleDate)
  | .literal value => return .scalar value
  | .enum options => do
    match options with
    | [] => return .null
    | first :: rest => return .text (← Drawing.pick first rest)
  | .object shape _ _ _ => do return .object (← sampleFields o shape)
  | .array element checks => do
    let size ← sampleSize o checks
    return .array (← Drawing.times (do return (← element.sample o).present) size)
  | .tuple items _ => do return .array (← sampleItems o items)
  | .record key value => do
    let size ← sampleSize o []
    return .object (← sampleEntries (key.sample o) (value.sample o) size [])
  | .discriminatedUnion _ options => do
    match sampleOptions o options with
    | [] => return .null
    | first :: rest =>
      let draw ← Drawing.pick first rest
      draw
  | .union options => do
    let draws ← Drawing.shuffle (sampleOptions o options)
    firstMatch (Schema.plain (.union options)).isMatch .null draws
  | .intersection left right => do
    let a ← left.sample o
    let b ← right.sample o
    return a.joined b
  | .optional inner => inner.sample o
  | .nullable inner => do if o.includeNulls then return .null else inner.sample o
  | .default inner _ => inner.sample o
  | .void => return .undefined
  | .any => return .null
  | .unknown => return .null
  | .never => return .null
termination_by structural form => form

/-- The fields of an object; absent values are left out. -/
def sampleFields (o : SampleOptions) : List (Text × Schema) → Sampling S (List (Text × Value))
  | [] => return []
  | (key, s) :: shape => do
    match ← s.sample o with
    | .scalar .undefined => sampleFields o shape
    | v => return (key, v) :: (← sampleFields o shape)
termination_by structural shape => shape

/-- The items of a tuple. -/
def sampleItems (o : SampleOptions) : List Schema → Sampling S (List Value)
  | [] => return []
  | s :: items => do
    let v ← s.sample o
    return v.present :: (← sampleItems o items)
termination_by structural items => items

/-- How to draw a value for each option. -/
def sampleOptions (o : SampleOptions) : List Schema → List (Sampling S Value)
  | [] => []
  | s :: options => s.sample o :: sampleOptions o options
termination_by structural options => options

end

/-- As many samples as the options ask for. -/
def Schema.samples (s : Schema) (o : SampleOptions) : Sampling S (List Value) :=
  Drawing.times (s.sample o) o.count

/-- Samples with what is wrong with them. -/
structure SampleResult where
  data : Value
  issues : List Issue

/-- Whether all samples conform. -/
def SampleResult.success (r : SampleResult) : Bool := r.issues.isEmpty

/-- The summary of a failure. -/
def SampleResult.summary : Text := "Generated data failed schema validation"

/-- The violations of each of some samples, counted from an index. -/
def issuesOfEach (s : Schema) (policyName : Option Text) : (index : Nat) → List Value → List Issue
  | _, [] => []
  | index, v :: vs =>
    ((s.validate policyName v).map fun i => { i with path := .index index :: i.path })
      ++ issuesOfEach s policyName (index + 1) vs

/-- The result for some samples. A single sample stands for itself, others in an array. -/
def SampleResult.ofValues (s : Schema) (policyName : Option Text) : List Value → SampleResult
  | [v] => ⟨v, s.validate policyName v⟩
  | vs => ⟨.array vs, issuesOfEach s policyName 0 vs⟩

/-- Samples for a schema with the draws of a source. -/
def Schema.sampleWith (draws : Draws S) (state : S) (s : Schema) (o : SampleOptions)
    (policyName : Option Text) : Except ArithmeticFault SampleResult := do
  let (values, _) ← (s.samples o).run draws state
  return SampleResult.ofValues s policyName values

/-- The seed of those who give none. -/
def Seed.standard : Seed := .int 0

/-- Samples for a schema with the draws of a seeded generator. -/
def Schema.sampleResult (s : Schema) (o : SampleOptions) (policyName : Option Text) :
    Except ArithmeticFault SampleResult :=
  s.sampleWith Twister.draws (Twister.ofSeed (o.seed.getD Seed.standard)) o policyName

mutual

/-- A sample with dates as texts and absent values as null. -/
def Value.plainData : Value → Value
  | .scalar .undefined => .null
  | .date d => .text d.iso
  | .array items => .array (plainItems items)
  | .object fields => .object (plainFields fields)
  | v => v
termination_by structural v => v

/-- Items with dates as texts and absent values as null. -/
def plainItems : List Value → List Value
  | [] => []
  | v :: vs => v.plainData :: plainItems vs
termination_by structural vs => vs

/-- Fields with dates as texts and absent values as null. -/
def plainFields : List (Text × Value) → List (Text × Value)
  | [] => []
  | (key, v) :: rest => (key, v.plainData) :: plainFields rest
termination_by structural fields => fields

end

end Conform
