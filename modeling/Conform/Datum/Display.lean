import Conform.Datum.Basic

/-!
# Data as texts

How a datum reads where a text is wanted: a text stands for itself, and everything else is written
so that its kind can be told. Inside other data texts are quoted.

## Main definitions

- `Datum.shown` — a datum as it stands inside others
- `Datum.bare` — a datum as it stands alone
- `Datum.asText?` — the same, unless it would hold an integer that is too long
- `Datum.toValue` — the value that a datum comes nearest to
-/

namespace Conform

/-- A double inside a complex number; a whole one does not show that it is a double. -/
def Double.shortText (d : Double) : Text :=
  if d.text.endsWith ".0" then d.text.dropLast.dropLast else d.text

namespace Datum

/-- A complex number. A real part that is a plain zero is left out. -/
def complexText (real imaginary : Double) : Text :=
  let tail := imaginary.shortText ++ "j"
  if real.isZero && !real.isNegative then tail
  else
    let sign : Text := if imaginary.isNegative then [] else "+"
    "(" ++ real.shortText ++ sign ++ tail ++ ")"

/-- An octet as it stands between the given quotes. -/
def octetText (quote octet : Nat) : Text :=
  if octet < 127 then Text.quotedOne quote octet else Text.numericEscape octet

/-- A byte string. -/
def bytesText (octets : List Nat) : Text :=
  let quote := Text.quoteFor octets
  ("b" : Text) ++ quote :: (octets.flatMap (octetText quote) ++ [quote])

/-- A day with its parts named. -/
def dateText (d : Date) : Text :=
  "datetime.date(" ++ Text.ofNat d.year ++ ", " ++ Text.ofNat d.month ++ ", "
    ++ Text.ofNat d.day ++ ")"

/-- A row of items; a single item has a comma behind it. -/
def rowText : List Text → Text
  | [t] => "(" ++ t ++ ",)"
  | ts => "(" ++ Text.join ", " ts ++ ")"

/-- A set of items. -/
def setText : List Text → Text
  | [] => "set()"
  | ts => "\x7b" ++ Text.join ", " ts ++ "\x7d"

mutual

/-- A datum as it stands inside others. -/
def shown : Datum → Text
  | .scalar s => s.shown
  | .ellipsis => "Ellipsis"
  | .complex real imaginary => complexText real imaginary
  | .bytes octets => bytesText octets
  | .date d => dateText d
  | .list items => "[" ++ Text.join ", " (shownItems items) ++ "]"
  | .row items => rowText (shownItems items)
  | .set items => setText (shownItems items)
  | .mapping entries => "\x7b" ++ Text.join ", " (shownEntries entries) ++ "\x7d"
termination_by structural d => d

/-- Items as they stand inside others. -/
def shownItems : List Datum → List Text
  | [] => []
  | d :: ds => d.shown :: shownItems ds
termination_by structural ds => ds

/-- Entries as they stand inside others. -/
def shownEntries : List (Datum × Datum) → List Text
  | [] => []
  | (key, d) :: rest => (key.shown ++ ": " ++ d.shown) :: shownEntries rest
termination_by structural entries => entries

end

/-- A datum as it stands alone. -/
def bare : Datum → Text
  | .scalar s => s.bare
  | .date d => d.iso
  | d => d.shown

mutual

/-- Whether a datum holds an integer that is too long to be written. -/
def holdsLongInteger : Datum → Bool
  | .scalar (.number n) => n.isTooLong
  | .list items => anyLongInteger items
  | .row items => anyLongInteger items
  | .set items => anyLongInteger items
  | .mapping entries => anyLongEntry entries
  | _ => false
termination_by structural d => d

/-- Whether an item holds an integer that is too long. -/
def anyLongInteger : List Datum → Bool
  | [] => false
  | d :: ds => d.holdsLongInteger || anyLongInteger ds
termination_by structural ds => ds

/-- Whether an entry holds an integer that is too long. -/
def anyLongEntry : List (Datum × Datum) → Bool
  | [] => false
  | (key, d) :: rest => key.holdsLongInteger || d.holdsLongInteger || anyLongEntry rest
termination_by structural entries => entries

end

/-- A datum as a text, unless it would hold an integer that is too long. -/
def asText? (d : Datum) : Option Text := if d.holdsLongInteger then none else some d.bare

mutual

/-- The value that a datum comes nearest to: items are an array whatever they are in, keys are
texts, and what no value can be is a text. -/
def toValue : Datum → Value
  | .scalar s => .scalar s
  | .ellipsis => .text (shown .ellipsis)
  | .complex real imaginary => .text (complexText real imaginary)
  | .bytes octets => .text (bytesText octets)
  | .date d => .date d
  | .list items => .array (toValues items)
  | .row items => .array (toValues items)
  | .set items => .array (toValues items)
  | .mapping entries => .object (Fields.ofList (toFields entries))
termination_by structural d => d

/-- The values that data come nearest to. -/
def toValues : List Datum → List Value
  | [] => []
  | d :: ds => d.toValue :: toValues ds
termination_by structural ds => ds

/-- Entries with keys as texts, which may make keys equal. -/
def toFields : List (Datum × Datum) → List (Text × Value)
  | [] => []
  | (key, d) :: rest => (key.bare, d.toValue) :: toFields rest
termination_by structural entries => entries

end

end Datum

/-- The fields that entries come nearest to. Of keys that become equal the first place and the last
value count. -/
def Entries.toFields (entries : Entries) : List (Text × Value) :=
  Fields.ofList (Datum.toFields entries)

end Conform
