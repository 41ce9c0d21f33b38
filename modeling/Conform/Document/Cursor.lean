import Conform.Source.Position
import Conform.Text.Blank

/-!
# Places in documents

A cursor is a place in a document with the text behind it. Between the parts of a document stand
spaces, line ends and comments, which do not count; three hyphens or points in the first column mark
the beginning or the end of a document.

## Main definitions

- `Document.Cursor` — a place
- `Document.Cursor.advance`, `Document.Cursor.pastGap` — later places
- `Document.Cursor.isEnd` — whether nothing more belongs to the document
-/

namespace Conform.Document

/-- A place in a document. -/
structure Cursor where
  position : Position
  rest : Text

namespace Cursor

/-- The place before a text. -/
def ofText (t : Text) : Cursor := ⟨Position.start, t⟩

/-- The place some code points later. -/
def advance (c : Cursor) (count : Nat) : Cursor :=
  ⟨c.position.after (c.rest.take count), c.rest.drop count⟩

/-- The column of the place. -/
def column (c : Cursor) : Nat := c.position.column

/-- The line of the place. -/
def line (c : Cursor) : Nat := c.position.line

/-- The next code point. -/
def next? (c : Cursor) : Option CodePoint := c.rest.head?

end Cursor

/-- Whether a code point ends a word: a blank or the end of the text. -/
def isBreak : Option CodePoint → Bool
  | none => true
  | some c => c == 32 || c == 9 || c == 10

/-- Whether a text begins with a mark of three code points that stands alone. -/
def isMarked (mark : Text) (t : Text) : Bool :=
  match Text.after? mark t with
  | some behind => isBreak behind.head?
  | none => false

/-- Whether a line begins or ends a document. -/
def isBoundary (t : Text) : Bool := isMarked "---" t || isMarked "..." t

/-- The length of the spaces, line ends and comments at the beginning of a text. -/
def gapLength : (inComment : Bool) → Text → Nat
  | _, [] => 0
  | inComment, c :: cs =>
    if c = Text.newline then gapLength false cs + 1
    else if inComment then gapLength true cs + 1
    else if c = '#'.toNat then gapLength true cs + 1
    else if c = 32 then gapLength false cs + 1
    else 0

namespace Cursor

/-- The place behind spaces, line ends and comments. -/
def pastGap (c : Cursor) : Cursor := c.advance (gapLength false c.rest)

/-- The place behind spaces. -/
def pastSpaces (c : Cursor) : Cursor := c.advance (c.rest.takeWhile (· == 32)).length

/-- Whether nothing more belongs to the document. -/
def isEnd (c : Cursor) : Bool := c.rest.isEmpty || (c.column == 1 && isBoundary c.rest)

/-- Whether a mark stands here with a blank behind it. -/
def isAtMark (c : Cursor) (mark : CodePoint) : Bool :=
  match c.rest with
  | m :: behind => m == mark && isBreak behind.head?
  | [] => false

end Cursor

end Conform.Document
