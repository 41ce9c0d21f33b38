import Conform.Json.Quoted
import Conform.Schema.Basic

/-!
# Comparing and writing scalars

Literal values are compared strictly: truth values are not numbers, while an integer and a double
with the same value are equal.

## Main definitions

- `Scalar.accepts` — whether a value is a given literal
- `Scalar.clashes` — whether two literals may not both be tags of a union
- `Scalar.rendered`, `Scalar.bare`, `Scalar.shown` — written forms in messages
-/

namespace Conform.Scalar

/-- Whether a value is the given literal. -/
def accepts (expected : Scalar) (value : Value) : Bool :=
  match expected, value with
  | .bool a, .scalar (.bool b) => a == b
  | .null, .scalar .null => true
  | .undefined, .scalar .undefined => true
  | .number a, .scalar (.number b) => a.same b
  | .text a, .scalar (.text b) => a == b
  | _, _ => false

/-- The number that a truth value counts as. -/
def ofBool (b : Bool) : Number := .int (if b then 1 else 0)

/-- Whether two literals count as the same tag. Here truth values count as numbers. -/
def clashes : Scalar → Scalar → Bool
  | .null, .null => true
  | .undefined, .undefined => true
  | .text a, .text b => a == b
  | .bool a, .bool b => a == b
  | .number a, .number b => a.same b
  | .bool a, .number b => (ofBool a).same b
  | .number a, .bool b => a.same (ofBool b)
  | _, _ => false

/-- A number in JSON. -/
def jsonNumber : Number → Text
  | .int n => Text.ofInt n
  | .float .nan => "NaN"
  | .float (.infinite negative) => if negative then "-Infinity" else "Infinity"
  | .float d => d.text

/-- A literal as a message about literals writes it. -/
def rendered : Scalar → Text
  | .undefined => "undefined"
  | .null => "null"
  | .bool b => if b then "true" else "false"
  | .number (.float d) => if d.isWhole then (Number.float d).display else jsonNumber (.float d)
  | .number n => jsonNumber n
  | .text t => Json.quoted .ascii t

/-- A literal without quotes. -/
def bare : Scalar → Text
  | .undefined => "undefined"
  | .null => "None"
  | .bool b => if b then "True" else "False"
  | .number n => n.text
  | .text t => t

/-- A literal with quotes around a string. -/
def shown : Scalar → Text
  | .text t => t.quoted
  | s => s.bare

end Conform.Scalar
