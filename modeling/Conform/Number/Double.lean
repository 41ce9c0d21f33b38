/-!
# Double precision numbers

A finite double is `± s · 2^e` with a significand below `2^53`. The non-negative finite doubles are
counted upwards from zero, and a double is stored by its sign and its place in that row: the order
of the places is the order of the values, and the next double is the next place. Every operation
is exact arithmetic on whole numbers followed by one rounding to the nearest double, ties to the
even place.

## Main definitions

- `Double` — the numbers, with infinities and one not-a-number
- `Double.units` — the magnitude in units of `2^-1074`, the smallest positive double
- `Double.ofRatio` — the double nearest to a quotient of natural numbers
- `Double.ofInt?` — the double nearest to an integer, if it is in range
- `Double.add`, `Double.mul`, `Double.div` — arithmetic
- `Double.order?` — exact comparison
-/

namespace Conform

/-- How many finite doubles are at least zero. -/
abbrev Double.places : Nat := 2047 <<< 52

/-- A double precision number; `place` counts the magnitudes upwards from zero. -/
inductive Double
  | nan
  | infinite (negative : Bool)
  | finite (negative : Bool) (place : Fin Double.places)
  deriving DecidableEq

namespace Double

/-- How often the significand of the magnitude at a place is doubled. -/
def placeShift (place : Nat) : Nat := (place >>> 52) - 1

/-- The significand of the magnitude at a place. -/
def placeSignificand (place : Nat) : Nat := place - placeShift place <<< 52

/-- The magnitude at a place in units of `2^-1074`. -/
def placeUnits (place : Nat) : Nat := placeSignificand place <<< placeShift place

/-- The unit of magnitudes as a power of two in the denominator. -/
def unitScale : Nat := 1 <<< 1074

/-- The place of the magnitude nearest to `num / den`, ties to the even place. It may lie beyond
the finite ones. -/
def nearestPlace (num den : Nat) : Nat :=
  let scaled := num <<< 1074
  let shift := Nat.log2 (scaled / den) + 1 - 53
  let unit := den <<< shift
  let significand := scaled / unit
  let rest := 2 * (scaled % unit)
  let place := shift <<< 52 + significand
  if rest > unit || (rest == unit && place % 2 == 1) then place + 1 else place

/-- The double at a place, infinite beyond the last one. -/
def ofPlace (negative : Bool) (place : Nat) : Double :=
  if h : place < places then .finite negative ⟨place, h⟩ else .infinite negative

/-- The double nearest to `± num / den`. -/
def ofRatio (negative : Bool) (num den : Nat) : Double := ofPlace negative (nearestPlace num den)

/-- Zero with a sign. -/
def zero (negative : Bool) : Double := ofPlace negative 0

/-- The double nearest to an integer, infinite when the integer is out of range. -/
def nearestInt (n : Int) : Double := ofRatio (decide (n < 0)) n.natAbs 1

/-- Whether a number is an infinity. -/
def isInfinite : Double → Bool
  | .infinite _ => true
  | _ => false

/-- Whether a number is not a number. -/
def isNaN : Double → Bool
  | .nan => true
  | _ => false

/-- The double nearest to an integer, if it is in range. -/
def ofInt? (n : Int) : Option Double :=
  let d := nearestInt n
  if d.isInfinite then none else some d

/-- A finite number in units of `2^-1074`. -/
def units? : Double → Option Int
  | .finite negative place =>
    let n := placeUnits place
    some (if negative then -(Int.ofNat n) else Int.ofNat n)
  | _ => none

/-- The double nearest to a whole number of units over `den`; `negativeZero` signs a zero. -/
def ofUnits (negativeZero : Bool) (n : Int) (den : Nat) : Double :=
  ofRatio (if n = 0 then negativeZero else decide (n < 0)) n.natAbs den

/-- Whether the sign is negative. -/
def isNegative : Double → Bool
  | .nan => false
  | .infinite negative => negative
  | .finite negative _ => negative

/-- The number with the other sign. -/
def neg : Double → Double
  | .nan => .nan
  | .infinite negative => .infinite (!negative)
  | .finite negative place => .finite (!negative) place

/-- The number without its sign. -/
def abs : Double → Double
  | .nan => .nan
  | .infinite _ => .infinite false
  | .finite _ place => .finite false place

/-- The sum, rounded once. -/
def add : Double → Double → Double
  | .nan, _ => .nan
  | _, .nan => .nan
  | .infinite a, .infinite b => if a = b then .infinite a else .nan
  | .infinite a, _ => .infinite a
  | _, .infinite b => .infinite b
  | x@(.finite a _), y@(.finite b _) =>
    ofUnits (a && b) ((x.units?.getD 0) + (y.units?.getD 0)) unitScale

/-- The difference, rounded once. -/
def sub (x y : Double) : Double := add x y.neg

/-- Whether a number is a zero of either sign. -/
def isZero : Double → Bool
  | .finite _ place => place.val == 0
  | _ => false

/-- The product, rounded once. -/
def mul : Double → Double → Double
  | .nan, _ => .nan
  | _, .nan => .nan
  | .infinite a, y => if y.isZero then .nan else .infinite (a != y.isNegative)
  | x, .infinite b => if x.isZero then .nan else .infinite (x.isNegative != b)
  | .finite a p, .finite b q =>
    ofRatio (a != b) (placeUnits p * placeUnits q) (unitScale * unitScale)

/-- The quotient, rounded once. A division by zero gives an infinity or not-a-number; callers for
whom it is an error ask for it first. -/
def div : Double → Double → Double
  | .nan, _ => .nan
  | _, .nan => .nan
  | .infinite a, y => if y.isInfinite then .nan else .infinite (a != y.isNegative)
  | .finite a _, .infinite b => zero (a != b)
  | x@(.finite a p), y@(.finite b q) =>
    if y.isZero then (if x.isZero then .nan else .infinite (a != b))
    else ofRatio (a != b) (placeUnits p) (placeUnits q)

/-- The order of two numbers by value; not-a-number has none. -/
def order? : Double → Double → Option Ordering
  | .nan, _ => none
  | _, .nan => none
  | .infinite a, .infinite b => some (compare b a)
  | .infinite a, _ => some (if a then .lt else .gt)
  | _, .infinite b => some (if b then .gt else .lt)
  | x@(.finite _ _), y@(.finite _ _) => some (compare (x.units?.getD 0) (y.units?.getD 0))

/-- The order of an integer and a number, by exact value. -/
def orderInt? (n : Int) : Double → Option Ordering
  | .nan => none
  | .infinite b => some (if b then .gt else .lt)
  | x@(.finite _ _) => some (compare (n * Int.ofNat unitScale) (x.units?.getD 0))

/-- Whether the number is finite and whole. -/
def isWhole : Double → Bool
  | .finite _ place => placeUnits place % unitScale == 0
  | _ => false

/-- The greatest integer that is not above a finite number. -/
def floor? (x : Double) : Option Int := x.units?.map fun n => n.fdiv (Int.ofNat unitScale)

/-- The least integer that is not below a finite number. -/
def ceil? (x : Double) : Option Int := x.units?.map fun n => -((-n).fdiv (Int.ofNat unitScale))

/-- The whole part of a finite number. -/
def truncate? (x : Double) : Option Int := x.units?.map fun n => n.tdiv (Int.ofNat unitScale)

/-- The quotient of two natural numbers rounded to a natural number, ties to even. -/
def roundQuotient (num den : Nat) : Nat :=
  let q := num / den
  let rest := 2 * (num % den)
  if rest > den || (rest == den && q % 2 == 1) then q + 1 else q

/-- The integer nearest to a finite number, ties to even. -/
def round? : Double → Option Int
  | .finite negative place =>
    let n := roundQuotient (placeUnits place) unitScale
    some (if negative then -(Int.ofNat n) else Int.ofNat n)
  | _ => none

/-- A finite number rounded to some decimal places, ties to even in the last place, and read back
as a double. -/
def roundPlaces (places : Nat) : Double → Double
  | .finite negative place =>
    let n := roundQuotient (placeUnits place * Nat.pow 10 places) unitScale
    ofRatio negative n (Nat.pow 10 places)
  | x => x

/-- What is left of a finite number after taking away the multiple of `y` nearest to it, a tie
going to the even multiple. It is exact. -/
def nearestRemainder (x y : Double) : Double :=
  match x, y with
  | .nan, _ => .nan
  | _, .nan => .nan
  | .infinite _, _ => .nan
  | x, .infinite _ => x
  | .finite a p, y@(.finite _ q) =>
    if y.isZero then .nan
    else
      let n := roundQuotient (placeUnits p) (placeUnits q)
      let rest := Int.ofNat (placeUnits p) - Int.ofNat (n * placeUnits q)
      ofUnits a (if a then -rest else rest) unitScale

end Double

end Conform
