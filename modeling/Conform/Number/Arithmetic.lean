import Conform.Number.Basic

/-!
# Arithmetic on numbers

Integers are computed with exactly; as soon as a double takes part, an integer counts as the nearest
double. What doubles cannot hold is a fault.

## Main definitions

- `ArithmeticFault` — why an operation has no result
- `Number.add`, `Number.sub`, `Number.mul`, `Number.quotient` — operations
- `Number.floor`, `Number.ceil` — the integers next to a number
-/

namespace Conform

/-- Why an operation has no result. -/
inductive ArithmeticFault
  | integerTooLarge
  | quotientTooLarge
  | infinite
  | notANumber
  deriving DecidableEq, Repr

/-- The wording of a fault. -/
def ArithmeticFault.message : ArithmeticFault → Text
  | .integerTooLarge => "int too large to convert to float"
  | .quotientTooLarge => "integer division result too large for a float"
  | .infinite => "cannot convert float infinity to integer"
  | .notANumber => "cannot convert float NaN to integer"

namespace Number

/-- The nearest double. -/
def nearest (n : Number) : Except ArithmeticFault Double :=
  match n.toDouble? with
  | some d => .ok d
  | none => .error .integerTooLarge

/-- An operation on integers or on doubles. -/
def combine (onInts : Int → Int → Int) (onDoubles : Double → Double → Double) :
    Number → Number → Except ArithmeticFault Number
  | .int m, .int n => .ok (.int (onInts m n))
  | x, y => do return .float (onDoubles (← x.nearest) (← y.nearest))

/-- The sum. -/
def add : Number → Number → Except ArithmeticFault Number := combine (· + ·) Double.add

/-- The difference. -/
def sub : Number → Number → Except ArithmeticFault Number := combine (· - ·) Double.sub

/-- The product. -/
def mul : Number → Number → Except ArithmeticFault Number := combine (· * ·) Double.mul

/-- The quotient by a number that is not zero; it is a double even for integers. -/
def quotient : Number → Number → Except ArithmeticFault Double
  | .int m, .int n =>
    let d := Double.ofRatio (decide (m < 0) != decide (n < 0)) m.natAbs n.natAbs
    if d.isInfinite then .error .quotientTooLarge else .ok d
  | x, y => do return (← x.nearest).div (← y.nearest)

/-- The integer that a rounding of doubles gives. -/
def integral (round? : Double → Option Int) : Number → Except ArithmeticFault Int
  | .int n => .ok n
  | .float d =>
    match round? d with
    | some n => .ok n
    | none => .error (if d.isNaN then .notANumber else .infinite)

/-- The largest integer that is not above a number. -/
def floor : Number → Except ArithmeticFault Int := integral Double.floor?

/-- The smallest integer that is not below a number. -/
def ceil : Number → Except ArithmeticFault Int := integral Double.ceil?

/-- The integer part of a number. -/
def truncate : Number → Except ArithmeticFault Int := integral Double.truncate?

/-- The greater one of two numbers, the first if neither is. -/
def greater (x y : Number) : Number := if x.below y then y else x

/-- The lesser one of two numbers, the first if neither is. -/
def lesser (x y : Number) : Number := if y.below x then y else x

/-- Whether a number is infinite. -/
def isInfinite (n : Number) : Except ArithmeticFault Bool := do return (← n.nearest).isInfinite

end Number

end Conform
