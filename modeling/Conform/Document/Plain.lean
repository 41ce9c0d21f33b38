import Conform.Calendar
import Conform.Datum.Basic
import Conform.Number.Reading

/-!
# Plain scalars of documents

A scalar without quotes is null, a truth value, a number or a date if it looks like one, and a text
otherwise. It may look like a number or a date and be none.

## Main definitions

- `Document.Fault` — why a document has no content
- `Document.plainDatum` — the datum of a plain scalar
-/

namespace Conform.Document

/-- Why a document has no content. -/
inductive Fault
  | malformed
  | noSuchDay (fault : DateFault)
  | integerTooLong (digits : Nat)
  /-- A number has the mark of a base and no digits. -/
  | noDigits (base : Nat)
  deriving DecidableEq, Repr

/-- The wording of a fault. -/
def Fault.message : Fault → Text
  | .malformed => "malformed document"
  | .noSuchDay fault => fault.message
  | .integerTooLong digits => Number.tooManyDigitsMessage digits
  | .noDigits base => "invalid literal for int() with base " ++ Text.ofNat base ++ ": ''"

/-- The words for null. -/
def nullWords : List Text := ["~", "null", "Null", "NULL", ""].map Text.ofString

/-- The words for true. -/
def trueWords : List Text :=
  ["yes", "Yes", "YES", "true", "True", "TRUE", "on", "On", "ON"].map Text.ofString

/-- The words for false. -/
def falseWords : List Text :=
  ["no", "No", "NO", "false", "False", "FALSE", "off", "Off", "OFF"].map Text.ofString

/-- The words for infinity. -/
def infinityWords : List Text := [".inf", ".Inf", ".INF"].map Text.ofString

/-- The words for what is not a number. -/
def nanWords : List Text := [".nan", ".NaN", ".NAN"].map Text.ofString

/-- Whether a code point is an ASCII digit or an underscore. -/
def isDigitPart (c : CodePoint) : Bool := Text.isDigit c || c == '_'.toNat

/-- The number that digits in a base denote; underscores do not count. -/
def baseValue? (base : Nat) (t : Text) : Option Nat :=
  if t.isEmpty then none
  else (t.filter (· != '_'.toNat)).foldlM (fun n c =>
    match Text.hexValue? c with
    | some d => if d < base then some (base * n + d) else none
    | none => none) 0

/-- A row of at most two digits below sixty. -/
def sixtieth? (t : Text) : Option Nat :=
  if t.isEmpty || t.length > 2 || !t.all Text.isDigit then none
  else if Text.digitsValue t < 60 then some (Text.digitsValue t) else none

/-- The value of digits in base sixty, with colons between them. -/
def sixtiethsValue? (t : Text) : Option Nat :=
  match Text.splitAll ':'.toNat t with
  | first :: rest@(_ :: _) =>
    if !first.all isDigitPart then none
    else do
      let start ← baseValue? 10 first
      rest.foldlM (fun n part => do return 60 * n + (← sixtieth? part)) start
  | _ => none

/-- An integer without a sign: binary, octal, hexadecimal, decimal, or in base sixty. -/
def unsignedInteger? (t : Text) : Option Nat :=
  match t with
  | [] => none
  | c :: cs =>
    if c = '0'.toNat then
      match cs with
      | [] => some 0
      | x :: rest =>
        if x = 'b'.toNat then baseValue? 2 rest
        else if x = 'x'.toNat then baseValue? 16 rest
        else baseValue? 8 cs
    else if !Text.isDigit c then none
    else if t.all isDigitPart then baseValue? 10 t
    else sixtiethsValue? t

/-- A decimal without a sign: it has a point, and an exponent in it has a sign. -/
def unsignedDecimal? (negative : Bool) (t : Text) : Option Double :=
  let (mantissa, exponent) := t.span fun c => isDigitPart c || c == '.'.toNat
  let signed :=
    match exponent with
    | [] => true
    | e :: s :: _ => (e == 'e'.toNat || e == 'E'.toNat) && (s == '+'.toNat || s == '-'.toNat)
    | [_] => false
  let pointed := mantissa.countP (· == '.'.toNat) == 1
  let begins := (mantissa.head?.map (· != '_'.toNat)).getD false
    && !Text.startsWith mantissa "._"
  if signed && pointed && begins then
    Number.decimal? negative (t.filter (· != '_'.toNat))
  else none

/-- The double that digits in base sixty denote, the last of which have a point. -/
def sixtiethsDouble? (negative : Bool) (t : Text) : Option Double :=
  let (whole, decimals) := t.span (· != '.'.toNat)
  match Text.splitAll ':'.toNat whole with
  | first :: rest@(_ :: _) =>
    let begins := (first.head?.map Text.isDigit).getD false && first.all isDigitPart
    if begins && rest.all (fun part => (sixtieth? part).isSome) && !decimals.isEmpty
        && (decimals.drop 1).all isDigitPart then do
      let digits := (first :: rest.dropLast) ++ [rest.getLast?.getD [] ++ decimals]
      let values ← digits.mapM fun part =>
        Number.decimal? false (part.filter (· != '_'.toNat))
      let (total, _) := values.reverse.foldl (fun (total, unit) d =>
        (Double.add total (Double.mul d (Double.nearestInt unit)), 60 * unit))
        (Double.zero false, (1 : Int))
      return if negative then total.neg else total
    else none
  | _ => none

/-- A number, with a sign or without. -/
def number? (t : Text) : Option Number :=
  let (negative, body) := Number.splitSign t
  match unsignedInteger? body with
  | some n => some (.int (if negative then -(Int.ofNat n) else Int.ofNat n))
  | none =>
    if infinityWords.contains body then some (.float (.infinite negative))
    else if nanWords.contains t then some (.float .nan)
    else if body.head? = some '.'.toNat ∧ body ≠ t then none
    else (unsignedDecimal? negative body <|> sixtiethsDouble? negative body).map Number.float

/-- Why a text that looks like an integer is none. -/
def integerFault? (t : Text) : Option Fault :=
  let body := ((Number.splitSign t).2).filter (· != '_'.toNat)
  if body = Text.ofString "0b" then some (.noDigits 2)
  else if body = Text.ofString "0x" then some (.noDigits 16)
  else
    let digits := (body.takeWhile Text.isDigit).length
    if body.head? ≠ some '0'.toNat ∧ digits > Number.digitLimit then some (.integerTooLong digits)
    else none

/-- The datum of a plain scalar. A single equals sign and two signs for less have none. -/
def plainDatum (t : Text) : Except Fault Datum :=
  if nullWords.contains t then .ok .null
  else if trueWords.contains t then .ok (.bool true)
  else if falseWords.contains t then .ok (.bool false)
  else if t = Text.ofString "=" ∨ t = Text.ofString "<<" then .error .malformed
  else
    match number? t with
    | some (.int n) =>
      match integerFault? t with
      | some fault => .error fault
      | none => .ok (.int n)
    | some n => .ok (.number n)
    | none =>
      match Date.partsOfIso? t with
      | some d =>
        match d.fault? with
        | some fault => .error (.noSuchDay fault)
        | none => .ok (.date d)
      | none => .ok (.text t)

end Conform.Document
