import Conform.Random.Twister
import Conform.Schema.Basic

/-!
# Options of samples

How many samples are wanted, which lengths and numbers they should prefer, and the seed of their
random draws.

## Main definitions

- `SampleSettings` — options as they are given
- `SampleOptions` — options that fit together
- `SampleSettings.check` — the step from the former to the latter
-/

namespace Conform

/-- Options as they are given. -/
structure SampleSettings where
  count : Int := 1
  includeNulls : Bool := false
  minArrayLength : Int := 1
  maxArrayLength : Int := 5
  minStringLength : Int := 3
  maxStringLength : Int := 10
  minNumber : Number := .int 0
  maxNumber : Number := .int 100
  seed : Option Seed := none
  deriving DecidableEq

/-- Why options do not fit together. -/
inductive SettingsFault
  | tooFew
  | negativeLength
  | arrayLengths
  | stringLengths
  | numbers
  deriving DecidableEq, Repr

/-- The wording of a fault. -/
def SettingsFault.message : SettingsFault → Text
  | .tooFew => "count must be at least 1"
  | .negativeLength => "minimum lengths must be non-negative"
  | .arrayLengths => "min_array_length must not exceed max_array_length"
  | .stringLengths => "min_string_length must not exceed max_string_length"
  | .numbers => "min_number must not exceed max_number"

/-- Options that fit together. -/
structure SampleOptions where
  count : Nat
  includeNulls : Bool
  minArrayLength : Nat
  maxArrayLength : Nat
  minStringLength : Nat
  maxStringLength : Nat
  minNumber : Number
  maxNumber : Number
  seed : Option Seed
  count_pos : 0 < count
  array_le : minArrayLength ≤ maxArrayLength
  string_le : minStringLength ≤ maxStringLength
  number_le : maxNumber.below minNumber = false

namespace SampleSettings

/-- The options, if they fit together; otherwise the first fault. -/
def check (s : SampleSettings) : Except SettingsFault SampleOptions :=
  if hc : s.count < 1 then .error .tooFew
  else if hn : s.minArrayLength < 0 ∨ s.minStringLength < 0 then .error .negativeLength
  else if ha : s.maxArrayLength < s.minArrayLength then .error .arrayLengths
  else if hs : s.maxStringLength < s.minStringLength then .error .stringLengths
  else if hm : s.maxNumber.below s.minNumber = true then .error .numbers
  else .ok {
    count := s.count.toNat
    includeNulls := s.includeNulls
    minArrayLength := s.minArrayLength.toNat
    maxArrayLength := s.maxArrayLength.toNat
    minStringLength := s.minStringLength.toNat
    maxStringLength := s.maxStringLength.toNat
    minNumber := s.minNumber
    maxNumber := s.maxNumber
    seed := s.seed
    count_pos := by omega
    array_le := by omega
    string_le := by omega
    number_le := by simpa using hm }

/-- Sets one option; other names and values of other types change nothing. -/
def set (s : SampleSettings) (name : Text) (value : Value) : SampleSettings :=
  match name.toString?.getD "", value with
  | "count", .scalar (.number (.int n)) => { s with count := n }
  | "include_nulls", .scalar (.bool b) => { s with includeNulls := b }
  | "min_array_length", .scalar (.number (.int n)) => { s with minArrayLength := n }
  | "max_array_length", .scalar (.number (.int n)) => { s with maxArrayLength := n }
  | "min_string_length", .scalar (.number (.int n)) => { s with minStringLength := n }
  | "max_string_length", .scalar (.number (.int n)) => { s with maxStringLength := n }
  | "min_number", .scalar (.number n) => { s with minNumber := n }
  | "max_number", .scalar (.number n) => { s with maxNumber := n }
  | "seed", .scalar (.number (.int n)) => { s with seed := some (.int n) }
  | "seed", .scalar (.text t) => { s with seed := some (.text t) }
  | _, _ => s

/-- The options that some fields give. -/
def ofFields (fields : List (Text × Value)) : SampleSettings :=
  fields.foldl (fun s (name, value) => s.set name value) {}

end SampleSettings

end Conform
