import Conform.Text.Basic

/-!
# Dates

Days of the proleptic Gregorian calendar.

## Main definitions

- `Date` — a day
- `Date.iso`, `Date.ofIso?` — the form `YYYY-MM-DD`
- `Date.fault?` — why there is no such day
- `Date.addDays` — a later day
-/

namespace Conform

/-- Why there is no such day. -/
inductive DateFault
  | year (n : Nat)
  | month
  | day
  deriving DecidableEq, Repr

/-- The wording of a fault. -/
def DateFault.message : DateFault → Text
  | .year n => "year " ++ Text.ofNat n ++ " is out of range"
  | .month => "month must be in 1..12"
  | .day => "day is out of range for month"

/-- A day. -/
structure Date where
  year : Nat
  month : Nat
  day : Nat
  deriving DecidableEq, Repr

namespace Date

/-- Whether a year has a 29 February. -/
def isLeap (year : Nat) : Bool := year % 4 == 0 && (year % 100 != 0 || year % 400 == 0)

/-- The number of days of a month. -/
def monthLength (year month : Nat) : Nat :=
  if month = 2 then (if isLeap year then 29 else 28)
  else if month = 4 ∨ month = 6 ∨ month = 9 ∨ month = 11 then 30
  else 31

/-- The first part that fits no day of the calendar. -/
def fault? (d : Date) : Option DateFault :=
  if d.year < 1 || 9999 < d.year then some (.year d.year)
  else if d.month < 1 || 12 < d.month then some .month
  else if d.day < 1 || monthLength d.year d.month < d.day then some .day
  else none

/-- Whether the parts name a day of the calendar. -/
def isValid (d : Date) : Bool := d.fault?.isNone

/-- The form `YYYY-MM-DD`. -/
def iso (d : Date) : Text :=
  Text.padded 4 d.year ++ "-" ++ Text.padded 2 d.month ++ "-" ++ Text.padded 2 d.day

/-- The parts of a text in the form `YYYY-MM-DD`; there may be no such day. -/
def partsOfIso? (t : Text) : Option Date :=
  match t with
  | [a, b, c, d, h, m, n, k, x, y] =>
    if h = '-'.toNat ∧ k = '-'.toNat ∧ [a, b, c, d, m, n, x, y].all Text.isDigit then
      some ⟨Text.digitsValue [a, b, c, d], Text.digitsValue [m, n], Text.digitsValue [x, y]⟩
    else none
  | _ => none

/-- A day in the form `YYYY-MM-DD`. -/
def ofIso? (t : Text) : Option Date := (partsOfIso? t).filter isValid

/-- The day after. -/
def next (d : Date) : Date :=
  if d.day < monthLength d.year d.month then { d with day := d.day + 1 }
  else if d.month < 12 then ⟨d.year, d.month + 1, 1⟩
  else ⟨d.year + 1, 1, 1⟩

/-- The day some days later. -/
def addDays (d : Date) : Nat → Date
  | 0 => d
  | n + 1 => addDays d.next n

end Date

end Conform
