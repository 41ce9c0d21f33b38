import Conform.Text.Basic

/-!
# Positions in a source text

Lines and columns are counted from one; a line feed ends its line. A span runs from the position of
its first code point to the position after its last one.
-/

namespace Conform

/-- A line and a column. -/
structure Position where
  line : Nat
  column : Nat
  deriving DecidableEq, Repr

namespace Position

/-- The position of the first code point of a text. -/
def start : Position := ⟨1, 1⟩

/-- The position after a code point. -/
def next (p : Position) (c : CodePoint) : Position :=
  if c = Text.newline then ⟨p.line + 1, 1⟩ else ⟨p.line, p.column + 1⟩

/-- The position after a text. -/
def after (p : Position) (t : Text) : Position := t.foldl next p

end Position

/-- A stretch of source text. -/
structure Span where
  first : Position
  stop : Position
  deriving DecidableEq, Repr

end Conform
