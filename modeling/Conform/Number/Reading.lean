import Conform.Number.Basic
import Conform.Text.Blank
import Conform.Text.Case
import Conform.Text.Letter

/-!
# Reading numbers

The lenient written forms of integers and doubles: blanks around the number, a sign, digits of any
script, and single underscores between digits. Doubles may also be written `inf`, `infinity` and
`nan` in any case.

## Main definitions

- `Number.integer?` — an integer in decimal
- `Number.anyInteger?` — an integer in a base up to sixteen
- `Number.double?` — a double
-/

namespace Conform.Number

/-- A blank that may stand around a number: the ASCII ones that move the print position, and all
others beyond ASCII. -/
def isOuterBlank (c : CodePoint) : Bool :=
  (9 ≤ c && c ≤ 13) || c == 32 || (127 ≤ c && Text.isBlank c)

/-- A number's text without blanks around it, with the digits of all scripts as ASCII digits. -/
def plain (t : Text) : Text :=
  (Text.dropRightWhile isOuterBlank (t.dropWhile isOuterBlank)).map fun c =>
    if c < 128 then c
    else match Text.decimalValue? c with
      | some d => 48 + d
      | none => if Text.isBlank c then 32 else c

/-- Splits off the sign of a number; true means negative. -/
def splitSign : Text → Bool × Text
  | [] => (false, [])
  | c :: cs =>
    if c = '-'.toNat then (true, cs) else if c = '+'.toNat then (false, cs) else (false, c :: cs)

/-- The value of a row of digits below `base`, with single underscores between digits; `fresh`
means that a digit must come next. -/
def digitRow? (base : Nat) : (fresh : Bool) → (total : Nat) → Text → Option Nat
  | fresh, total, [] => if fresh then none else some total
  | fresh, total, c :: cs =>
    if c = '_'.toNat then (if fresh then none else digitRow? base true total cs)
    else match Text.hexValue? c with
      | some d => if d < base then digitRow? base false (base * total + d) cs else none
      | none => none

/-- Drops the mark of a base: `0x` with an underscore allowed after it. -/
def dropBaseMark (base : Nat) : Text → Text
  | t@(z :: x :: rest) =>
    if base = 16 ∧ z = '0'.toNat ∧ (x = 'x'.toNat ∨ x = 'X'.toNat) then
      match rest with
      | c :: cs => if c = '_'.toNat then cs else rest
      | [] => rest
    else t
  | t => t

/-- The integer of any size that a text denotes in the given base. -/
def anyInteger? (base : Nat) (t : Text) : Option Int :=
  let (negative, digits) := splitSign (plain t)
  (digitRow? base true 0 (dropBaseMark base digits)).map fun n =>
    if negative then -(Int.ofNat n) else Int.ofNat n

/-- The integer that a text denotes in decimal, if it has not too many digits; zeros in front
count. -/
def integer? (t : Text) : Option Int :=
  if ((plain t).filter Text.isDigit).length > digitLimit then none else anyInteger? 10 t

/-- Removes single underscores between digits; none if one stands elsewhere. -/
def dropUnderscores? : (afterDigit : Bool) → Text → Option Text
  | _, [] => some []
  | afterDigit, c :: cs =>
    if c = '_'.toNat then
      match cs with
      | d :: _ => if afterDigit && Text.isDigit d then dropUnderscores? false cs else none
      | [] => none
    else (dropUnderscores? (Text.isDigit c) cs).map (c :: ·)

/-- The exponent part of a decimal: nothing, or a mark with a signed row of digits. -/
def exponentPart? : Text → Option Int
  | [] => some 0
  | c :: cs =>
    if c = 'e'.toNat ∨ c = 'E'.toNat then
      let (negative, digits) := splitSign cs
      if digits.isEmpty || !digits.all Text.isDigit then none
      else
        let n := Int.ofNat (Text.digitsValue digits)
        some (if negative then -n else n)
    else none

/-- An unsigned decimal with an optional point and exponent. -/
def decimal? (negative : Bool) (t : Text) : Option Double :=
  let whole := t.takeWhile Text.isDigit
  let rest := t.dropWhile Text.isDigit
  let (decimals, tail) :=
    match rest with
    | c :: cs =>
      if c = '.'.toNat then (cs.takeWhile Text.isDigit, cs.dropWhile Text.isDigit) else ([], rest)
    | [] => ([], [])
  if whole.isEmpty && decimals.isEmpty then none
  else (exponentPart? tail).map fun exponent =>
    Double.ofDecimal negative (Text.digitsValue (whole ++ decimals))
      (exponent - Int.ofNat decimals.length)

/-- The double that a text denotes. -/
def double? (t : Text) : Option Double :=
  (dropUnderscores? false (plain t)).bind fun compact =>
    let (negative, body) := splitSign compact
    let word := body.flatMap Text.lowerFull
    if word = Text.ofString "inf" ∨ word = Text.ofString "infinity" then some (.infinite negative)
    else if word = Text.ofString "nan" then some .nan
    else decimal? negative body

end Conform.Number
