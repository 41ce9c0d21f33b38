import Conform.Number.Reading

/-!
# Numerals

Numbers as literals write them: integers in four bases, doubles with a point or an exponent, and
imaginary numbers, which end in a letter. Single underscores may stand between digits.

## Main definitions

- `Literal.Numeral` — a number or an imaginary number
- `Literal.Numeral.ofText?` — the numeral that a text is
- `Literal.numeralLength` — how far a numeral extends
-/

namespace Conform.Literal

/-- A number without a sign. -/
inductive Numeral
  | real (n : Number)
  | imaginary (d : Double)
  deriving DecidableEq

/-- Whether a code point may stand in a word. -/
def isWordPart (c : CodePoint) : Bool := Text.isAlphanumeric c || c == '_'.toNat || 128 ≤ c

/-- The value of digits in a base with single underscores between them. -/
def digits? (base : Nat) (t : Text) : Option Nat := Number.digitRow? base true 0 t

/-- An integer with the mark of a base. -/
def markedInteger? (t : Text) : Option Nat :=
  match t with
  | z :: x :: rest =>
    let base :=
      if x = 'x'.toNat ∨ x = 'X'.toNat then 16
      else if x = 'o'.toNat ∨ x = 'O'.toNat then 8
      else if x = 'b'.toNat ∨ x = 'B'.toNat then 2
      else 0
    if z ≠ '0'.toNat ∨ base = 0 then none
    else if rest.head? = some '_'.toNat then digits? base (rest.drop 1)
    else digits? base rest
  | _ => none

/-- A decimal integer: it begins with a zero only if it is zero. -/
def decimalInteger? (t : Text) : Option Nat :=
  if t.all fun c => Text.isDigit c || c == '_'.toNat then
    match digits? 10 t with
    | some n =>
      let digits := t.filter Text.isDigit
      if digits.length > Number.digitLimit then none
      else if t.head? = some '0'.toNat ∧ n ≠ 0 then none
      else some n
    | none => none
  else none

/-- A decimal; it may have a point and an exponent. -/
def decimal? (t : Text) : Option Double :=
  (Number.dropUnderscores? false t).bind (Number.decimal? false)

/-- A number with a point or an exponent. -/
def fractional? (t : Text) : Option Double :=
  if t.any fun c => c == '.'.toNat || c == 'e'.toNat || c == 'E'.toNat then decimal? t else none

/-- A decimal with the letter of imaginary numbers behind it. -/
def imaginary? (t : Text) : Option Double :=
  if t.getLast? = some 'j'.toNat ∨ t.getLast? = some 'J'.toNat then decimal? t.dropLast else none

/-- The numeral that a text is. -/
def Numeral.ofText? (t : Text) : Option Numeral :=
  match markedInteger? t <|> decimalInteger? t with
  | some n => some (.real (.int (Int.ofNat n)))
  | none =>
    match fractional? t with
    | some d => some (.real (.float d))
    | none => (imaginary? t).map .imaginary

/-- The length of the numeral at the beginning of a text. A sign belongs to it behind the mark of an
exponent, unless the numeral has the mark of a base. -/
def numeralLengthFrom (marked : Bool) : (afterMark : Bool) → Text → Nat
  | _, [] => 0
  | afterMark, c :: cs =>
    let isSign := c == '+'.toNat || c == '-'.toNat
    let isMark := !marked && (c == 'e'.toNat || c == 'E'.toNat)
    if (afterMark && isSign) || isWordPart c || c == '.'.toNat then
      numeralLengthFrom marked isMark cs + 1
    else 0

/-- The length of the numeral at the beginning of a text. -/
def numeralLength (t : Text) : Nat :=
  match t with
  | z :: x :: _ =>
    let isMark := x != 'e'.toNat && x != 'E'.toNat && Text.isAsciiLetter x
    numeralLengthFrom (z == '0'.toNat && isMark) false t
  | t => numeralLengthFrom false false t

/-- Whether a numeral begins here. -/
def beginsNumeral : Text → Bool
  | [] => false
  | c :: cs => Text.isDigit c || (c == '.'.toNat && (cs.head?.map Text.isDigit).getD false)

end Conform.Literal
