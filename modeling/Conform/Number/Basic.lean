import Conform.Number.Decimal

/-!
# Numbers

A number is an integer of any size or a double. The two kinds are told apart, but they are compared
by exact value.

## Main definitions

- `Number` — integers and doubles
- `Number.order?`, `Number.same` — comparison
- `Number.text`, `Number.display` — written forms
- `Number.toDouble?` — the nearest double
-/

namespace Conform

/-- An integer or a double. -/
inductive Number
  | int (n : Int)
  | float (d : Double)
  deriving DecidableEq

namespace Number

/-- The order of two numbers by exact value; not-a-number has none. -/
def order? : Number → Number → Option Ordering
  | .int m, .int n => some (compare m n)
  | .int m, .float d => Double.orderInt? m d
  | .float d, .int n => (Double.orderInt? n d).map Ordering.swap
  | .float d, .float e => Double.order? d e

/-- Whether two numbers have the same value. -/
def same (x y : Number) : Bool := order? x y == some .eq

/-- Whether the first number is below the second. -/
def below (x y : Number) : Bool := order? x y == some .lt

/-- Whether the first number is not above the second. -/
def atMost (x y : Number) : Bool := x.below y || x.same y

/-- The nearest double; an integer can be out of range. -/
def toDouble? : Number → Option Double
  | .int n => Double.ofInt? n
  | .float d => some d

/-- Whether a number is not a number. -/
def isNaN : Number → Bool
  | .int _ => false
  | .float d => d.isNaN

/-- Whether a number is zero. -/
def isZero : Number → Bool
  | .int n => n == 0
  | .float d => d.isZero

/-- The number with the other sign. An integer zero has no sign. -/
def neg : Number → Number
  | .int n => .int (-n)
  | .float d => .float d.neg

/-- The written form: a double always shows that it is one. -/
def text : Number → Text
  | .int n => Text.ofInt n
  | .float d => d.text

/-- The form shown in messages: a whole double is shown as an integer. -/
def display : Number → Text
  | .int n => Text.ofInt n
  | .float d =>
    if d.isWhole then
      match d.truncate? with
      | some n => Text.ofInt n
      | none => d.text
    else d.text

end Number

/-- The longest decimal text of an integer that is read or written. -/
def Number.digitLimit : Nat := 4300

/-- Whether an integer is too long to be written in decimal. -/
def Number.isTooLong : Number → Bool
  | .int n => Nat.pow 10 Number.digitLimit ≤ n.natAbs
  | .float _ => false

/-- The complaint about a decimal text of an integer that is too long to be read. -/
def Number.tooManyDigitsMessage (digits : Nat) : Text :=
  "Exceeds the limit (4300 digits) for integer string conversion: value has "
    ++ Text.ofNat digits ++ " digits; use sys.set_int_max_str_digits() to increase the limit"

/-- The complaint about an integer that is too long to be written in decimal. -/
def Number.tooLongMessage : Text :=
  "Exceeds the limit (4300 digits) for integer string conversion; "
    ++ "use sys.set_int_max_str_digits() to increase the limit"

end Conform
