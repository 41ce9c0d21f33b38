import Conform.Text.Printable

/-!
# Quoted text

A text between quotes, readable on one line: single quotes unless the text holds single quotes and
no double ones, a backslash before the quote in use and before itself, and numeric escapes for
everything that is not printable.
-/

namespace Conform.Text

/-- The numeric escape of a code point: two, four or eight hexadecimal digits. -/
def numericEscape (c : CodePoint) : Text :=
  if c < 0x100 then "\\x" ++ hex 2 c
  else if c < 0x10000 then "\\u" ++ hex 4 c
  else "\\U" ++ hex 8 c

/-- A code point as it stands between the given quotes. -/
def quotedOne (quote c : CodePoint) : Text :=
  if c = quote ∨ c = '\\'.toNat then ['\\'.toNat, c]
  else if c = 9 then "\\t"
  else if c = 10 then "\\n"
  else if c = 13 then "\\r"
  else if isPrintable c then [c]
  else numericEscape c

/-- The quote for a text: double if it holds single quotes and no double ones. -/
def quoteFor (t : Text) : CodePoint :=
  if '\''.toNat ∈ t ∧ '"'.toNat ∉ t then '"'.toNat else '\''.toNat

/-- A text between quotes. -/
def quoted (t : Text) : Text :=
  quoteFor t :: (t.flatMap (quotedOne (quoteFor t)) ++ [quoteFor t])

end Conform.Text
