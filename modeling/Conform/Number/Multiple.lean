import Conform.Number.Basic

/-!
# Multiples of doubles

Whether a double is a multiple of another is decided on their decimal texts: both are scaled by the
power of ten that makes them whole and the rounded products are divided. Beyond the range of doubles
the exact remainder decides.

## Main definitions

- `Double.decimalPlaces` — the number of decimals of the written form
- `Double.isMultipleOf` — the test
-/

namespace Conform.Double

/-- The number of digits after the point, zeros at the end not counted. -/
def placesOf (t : Text) : Nat :=
  match Text.splitFirst? '.'.toNat t with
  | none => 0
  | some (_, decimals) => (Text.dropRightWhile (· == '0'.toNat) decimals).length

/-- Cuts a text at its first negative exponent. -/
def splitExponent? : Text → Option (Text × Text)
  | [] => none
  | c :: cs =>
    match Text.after? "e-" (c :: cs) with
    | some exponent => some ([], exponent)
    | none => (splitExponent? cs).map fun (a, b) => (c :: a, b)

/-- The number of decimals of the written form. A positive exponent counts as decimals as it is
written. -/
def decimalPlaces (d : Double) : Nat :=
  match splitExponent? d.text with
  | some (mantissa, exponent) => placesOf mantissa + Text.digitsValue exponent
  | none => placesOf d.text

/-- A double times a power of ten, rounded to an integer; none beyond the range of doubles. -/
def scaled? (d : Double) (places : Nat) : Option Int :=
  (ofInt? (Int.ofNat (Nat.pow 10 places))).bind fun power => (mul d power).round?

/-- Whether a finite double is a multiple of a positive one. -/
def isMultipleOf (value step : Double) : Bool :=
  let places := max value.decimalPlaces step.decimalPlaces
  match scaled? value places, scaled? step places with
  | some a, some b => a % b == 0
  | _, _ => (nearestRemainder value step).isZero

end Conform.Double
