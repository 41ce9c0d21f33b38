import Conform.Number.Double
import Conform.Text.Basic

/-!
# Decimal text of doubles

A double is written with the fewest digits that read back as it, and of those the digits nearest
to it. Reading a decimal gives the nearest double.

## Main definitions

- `Double.ofDecimal` — the double nearest to `digits · 10^exponent`
- `Double.shortest` — the fewest digits of a positive double, with the place of the point
- `Double.text` — the written form
-/

namespace Conform.Double

/-- The double nearest to `± digits · 10^exponent`. Exponents far out of range are cut off before
any power is taken. -/
def ofDecimal (negative : Bool) (digits : Nat) (exponent : Int) : Double :=
  if digits = 0 then zero negative
  else
    let top := exponent + Int.ofNat (Text.ofNat digits).length
    if top > 400 then .infinite negative
    else if top < -400 then zero negative
    else if exponent ≥ 0 then ofRatio negative (digits * Nat.pow 10 exponent.toNat) 1
    else ofRatio negative digits (Nat.pow 10 (-exponent).toNat)

/-- The least `k` with `num / den < 10^k`, for a positive quotient. -/
def decimalMagnitude (num den : Nat) : Int :=
  if num ≥ den then Int.ofNat (Text.ofNat (num / den)).length
  else 1 - Int.ofNat (Text.ofNat ((den + num - 1) / num - 1)).length

/-- Decimal digits with the point before the first of them moved `point` places to the right. -/
structure Digits where
  digits : Nat
  point : Int
  deriving DecidableEq

/-- The decimal with `count` digits that reads back as the magnitude at a place, if there is one;
of two the nearer, and of two equally near the even. Bounds and value are in units of `2^-1075`. -/
def digitsOf? (place count : Nat) (magnitude : Int) : Option Nat :=
  let value := 2 * placeUnits place
  let low := placeUnits place + placeUnits (place - 1)
  let high := placeUnits place + placeUnits (place + 1)
  let exponent := magnitude - Int.ofNat count
  -- A candidate `n` stands for `n · step / den`, the bounds for themselves over `den`.
  let step := if exponent ≥ 0 then Nat.pow 10 exponent.toNat <<< 1075 else 1 <<< 1075
  let den := if exponent ≥ 0 then 1 else Nat.pow 10 (-exponent).toNat
  let fits (n : Nat) : Bool :=
    if place % 2 == 0 then low * den ≤ n * step && n * step ≤ high * den
    else low * den < n * step && n * step < high * den
  let below := value * den / step
  let rest := 2 * (value * den % step)
  let first := if rest > step || (rest == step && below % 2 == 1) then below + 1 else below
  let second := if first = below then below + 1 else below
  if fits first then some first else if fits second then some second else none

/-- The first digit count from `17 - fuel` on that reads back, with its digits. -/
def searchDigits (place : Nat) (magnitude : Int) : (fuel : Nat) → Nat × Nat
  | 0 => (17, (digitsOf? place 17 magnitude).getD 0)
  | fuel + 1 =>
    let count := 17 - (fuel + 1)
    match digitsOf? place count magnitude with
    | some n => (count, n)
    | none => searchDigits place magnitude fuel

/-- The fewest digits that read back as the positive magnitude at a place. -/
def shortest (place : Nat) : Digits :=
  let magnitude := decimalMagnitude (placeUnits place) unitScale
  let (count, n) := searchDigits place magnitude 16
  -- Rounding up to a power of ten adds a digit.
  let length := (Text.ofNat n).length
  ⟨n, magnitude + (Int.ofNat length - Int.ofNat count)⟩

/-- How the written form of a double is laid out. -/
structure Layout where
  /-- Positional notation is used for decimal exponents from this one on. -/
  lowest : Int
  /-- Positional notation is used for decimal exponents below this one. -/
  limit : Int
  /-- The least number of digits of a written exponent. -/
  exponentDigits : Nat

/-- Positional with at least one decimal for exponents from -4 to 15, else one digit before the
point and a signed exponent of at least two digits. -/
def layout : Layout := ⟨-4, 16, 2⟩

/-- Digits without the zeros at their end. -/
def significant (digits : Text) : Text :=
  match Text.dropRightWhile (· == '0'.toNat) digits with
  | [] => ['0'.toNat]
  | kept => kept

/-- Digits written out with a point and, where the layout asks for it, an exponent. -/
def Digits.text (d : Digits) : Text :=
  let digits := significant (Text.ofNat d.digits)
  let exponent := d.point - 1
  if layout.lowest ≤ exponent ∧ exponent < layout.limit then
    if d.point ≤ 0 then
      "0." ++ (List.replicate (-d.point).toNat '0'.toNat ++ digits)
    else
      let whole := d.point.toNat
      let filled := digits ++ List.replicate (whole - digits.length) '0'.toNat
      let decimals := filled.drop whole
      filled.take whole ++ "." ++ (if decimals.isEmpty then ("0" : Text) else decimals)
  else
    let tail := digits.drop 1
    let mark : Text := if exponent < 0 then "e-" else "e+"
    digits.take 1 ++ (if tail.isEmpty then [] else '.'.toNat :: tail) ++ mark
      ++ Text.padded layout.exponentDigits exponent.natAbs

/-- The written form of a double. -/
def text : Double → Text
  | .nan => "nan"
  | .infinite negative => if negative then "-inf" else "inf"
  | .finite negative place =>
    let sign : Text := if negative then "-" else []
    if place.val = 0 then sign ++ "0.0" else sign ++ (shortest place).text

end Conform.Double
