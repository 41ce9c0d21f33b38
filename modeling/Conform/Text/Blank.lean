import Conform.Text.Basic

/-!
# Blanks

The code points that count as white space: the Unicode separators and the control characters that
end or structure lines.

## Main definitions

- `Text.isBlank` — the class
- `Text.strip` — removing it from both ends
-/

namespace Conform.Text

/-- The white space code points as closed ranges. -/
def blankRanges : List (Nat × Nat) := [
  (9, 13), (28, 32), (133, 133), (160, 160), (5760, 5760), (8192, 8202), (8232, 8233),
  (8239, 8239), (8287, 8287), (12288, 12288)]

/-- Whether a code point is white space. -/
def isBlank (c : CodePoint) : Bool := inRanges blankRanges c

/-- A text without the white space at its two ends. -/
def strip (t : Text) : Text := dropRightWhile isBlank (t.dropWhile isBlank)

/-- Whether a text holds white space only. -/
def allBlank (t : Text) : Bool := t.all isBlank

end Conform.Text
