import Conform.Text.Basic

/-!
# Strings in JSON

A string between double quotes, with escapes for quotes, backslashes and controls. Beyond ASCII the
code points stand as they are, or are escaped by their UTF-16 units.

## Main definitions

- `Json.quoted` — the written form
-/

namespace Conform.Json

/-- Which code points are escaped besides quotes, backslashes and controls. -/
inductive Escaping
  | raw
  | ascii
  deriving DecidableEq, Repr

/-- The escape of one UTF-16 unit. -/
def unitEscape (unit : Nat) : Text := "\\u" ++ Text.hex 4 unit

/-- The escapes of the UTF-16 units of a code point. -/
def unitEscapes (c : CodePoint) : Text :=
  if c < 0x10000 then unitEscape c
  else
    let rest := c - 0x10000
    unitEscape (0xD800 + rest / 0x400) ++ unitEscape (0xDC00 + rest % 0x400)

/-- A code point as it stands in a string. -/
def quotedOne (escaping : Escaping) (c : CodePoint) : Text :=
  if c = '"'.toNat then "\\\""
  else if c = '\\'.toNat then "\\\\"
  else if c = 10 then "\\n"
  else if c = 13 then "\\r"
  else if c = 9 then "\\t"
  else if c = 12 then "\\f"
  else if c = 8 then "\\b"
  else if c < 32 then unitEscape c
  else if escaping = .ascii ∧ 126 < c then unitEscapes c
  else [c]

/-- A string between quotes. -/
def quoted (escaping : Escaping) (t : Text) : Text :=
  '"'.toNat :: (t.flatMap (quotedOne escaping) ++ ['"'.toNat])

end Conform.Json
