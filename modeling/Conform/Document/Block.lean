import Conform.Document.Cursor

/-!
# Block scalars

A block scalar is a header on one line and the indented lines below it. Its lines are kept, or
folded into longer ones.

## Main definitions

- `Document.BlockHeader` — what a header says
- `Document.BlockHeader.scan` — the content of the lines below
-/

namespace Conform.Document

/-- What happens to the line ends at the end of a block scalar. -/
inductive Chomping
  | clip
  | strip
  | keep
  deriving DecidableEq, Repr

/-- The header of a block scalar. -/
structure BlockHeader where
  folded : Bool
  chomping : Chomping
  /-- How far the lines are indented, if the header says so. -/
  indent : Option Nat
  deriving DecidableEq, Repr

/-- The header that a line begins with behind its first mark: an indentation and a treatment of the
last line ends, in either order, and perhaps a comment. -/
def BlockHeader.ofLine? (folded : Bool) (line : Text) : Option BlockHeader :=
  let marks := line.takeWhile (· != 32)
  let behind := (line.drop marks.length).dropWhile (· == 32)
  let chomping? (c : CodePoint) : Option Chomping :=
    if c = '+'.toNat then some .keep else if c = '-'.toNat then some .strip else none
  let indent? (c : CodePoint) : Option Nat := if 49 ≤ c ∧ c ≤ 57 then some (c - 48) else none
  if !behind.isEmpty && behind.head? != some '#'.toNat then none
  else
    match marks with
    | [] => some ⟨folded, .clip, none⟩
    | [c] =>
      match chomping? c, indent? c with
      | some chomping, _ => some ⟨folded, chomping, none⟩
      | none, some n => some ⟨folded, .clip, some n⟩
      | none, none => none
    | [c, d] =>
      match chomping? c <|> chomping? d, indent? c <|> indent? d with
      | some chomping, some n => some ⟨folded, chomping, some n⟩
      | _, _ => none
    | _ => none

/-- The number of spaces at the beginning of a line. -/
def indentOf (line : Text) : Nat := (line.takeWhile (· == 32)).length

/-- Whether a line holds only spaces. -/
def isSpaces (line : Text) : Bool := line.all (· == 32)

/-- The indentation of a block scalar that is at least `least`: that of its first line that holds
more than spaces, unless an empty line before it is indented further. -/
def BlockHeader.indentIn (header : BlockHeader) (least : Nat) (lines : List Text) : Nat :=
  match header.indent with
  | some n => least + n - 1
  | none =>
    let leading := (lines.takeWhile isSpaces) ++ (lines.dropWhile isSpaces).take 1
    leading.foldl (fun n line => max n (indentOf line)) least

/-- Whether the line end between two lines of a folded scalar counts as a space. -/
def foldsBetween (first second : Text) : Bool :=
  let isFlush (line : Text) : Bool := (line.head?.map fun c => c != 32 && c != 9).getD false
  isFlush first && isFlush second

/-- Lines with the line ends between them; `empty` counts the empty lines since `last`. -/
def joinLines (folded : Bool) : (last : Text) → (empty : Nat) → List Text → Text
  | last, _, [] => last
  | last, empty, line :: rest =>
    if line.isEmpty then joinLines folded last (empty + 1) rest
    else
      let between :=
        if folded && foldsBetween last line then
          (if empty = 0 then [32] else List.replicate empty Text.newline)
        else List.replicate (empty + 1) Text.newline
      last ++ between ++ joinLines folded line 0 rest

/-- The text of lines without the line ends behind them. Each empty line at the beginning is a line
end. -/
def bodyText (folded : Bool) (lines : List Text) : Text :=
  let leading := (lines.takeWhile (·.isEmpty)).length
  match lines.drop leading with
  | [] => []
  | line :: rest => List.replicate leading Text.newline ++ joinLines folded line 0 rest

/-- How many of the line ends behind a body are kept. -/
def Chomping.kept (chomping : Chomping) (ends : Nat) : Nat :=
  match chomping with
  | .clip => min 1 ends
  | .strip => 0
  | .keep => ends

/-- Scans the lines of a block scalar below its header: the content and the length. Lines belong to
it as long as they are indented far enough or hold only spaces. -/
def BlockHeader.scan (header : BlockHeader) (least : Nat) (t : Text) : Text × Nat :=
  let lines := Text.splitAll Text.newline t
  let indent := header.indentIn least lines
  let taken := lines.takeWhile fun line => indent ≤ indentOf line || isSpaces line
  let closed := if taken.length < lines.length then 1 else 0
  let content := (taken.map (·.drop indent)).reverse.dropWhile (·.isEmpty)
  let ends := taken.length - content.length + closed
  let ends :=
    match content, header.chomping with
    | [], .keep => ends - 1
    | [], _ => 0
    | _, chomping => chomping.kept ends
  let length := taken.foldl (fun n line => n + line.length + 1) 0 - (1 - closed)
  (bodyText header.folded content.reverse ++ List.replicate ends Text.newline, length)

end Conform.Document
