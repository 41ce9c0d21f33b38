import Conform.Document.Cursor

/-!
# Scalars in documents

Scalars may run over several lines. A line end inside one counts as a space, or, if empty lines
follow it, as those. Scalars with quotes may hold everything; those without end at a mark.

## Main definitions

- `Document.Gap` — blanks and line ends inside a scalar
- `Document.plainScan` — a scalar without quotes
- `Document.quotedScan?` — a scalar in quotes
-/

namespace Conform.Document

/-- Blanks inside a scalar that may turn out to be its end. -/
inductive Gap
  /-- Blanks on one line, the last one first. -/
  | blanks (t : Text)
  /-- Line ends: whether the first one counts as a space, and how many follow it. -/
  | lines (space : Bool) (more : Nat)
  deriving DecidableEq, Repr

/-- What a gap inside a scalar stands for, the last code point first. -/
def Gap.text : Gap → Text
  | .blanks t => t
  | .lines space more =>
    if more = 0 then (if space then [32] else []) else List.replicate more Text.newline

/-- No gap. -/
def Gap.none : Gap := .blanks []

/-- A gap with one more blank. -/
def Gap.addBlank (c : CodePoint) : Gap → Gap
  | .blanks t => .blanks (c :: t)
  | gap => gap

/-- A gap with one more line end. -/
def Gap.addLine : Gap → Gap
  | .blanks _ => .lines true 0
  | .lines space more => .lines space (more + 1)

/-- Whether a code point separates the items of a flow collection. -/
def isFlowMark (c : CodePoint) : Bool :=
  [',', '[', ']', '{', '}'].any fun (m : Char) => c == m.toNat

/-- Whether a scalar without quotes ends before a code point that is no space and no line end. -/
def endsPlain (inFlow : Bool) (c : CodePoint) (next : Option CodePoint) : Bool :=
  c == 9 || (c == ':'.toNat && (isBreak next || (inFlow && (next.map isFlowMark).getD false)))
    || (inFlow && (isFlowMark c || c == '?'.toNat))

/-- Scans a scalar without quotes: its content and its length. Further lines of it outside of flow
collections are at least as far right as `indent`. The gap is that before the text, and `pending`
its length. -/
def plainFrom (inFlow : Bool) (indent : Nat) :
    (column : Nat) → Gap → (pending length : Nat) → (content : Text) → Text → Text × Nat
  | _, _, _, length, content, [] => (content.reverse, length)
  | column, gap, pending, length, content, c :: cs =>
    if c = 32 then
      plainFrom inFlow indent (column + 1) (gap.addBlank c) (pending + 1) length content cs
    else if c = Text.newline then
      if isBoundary cs then (content.reverse, length)
      else plainFrom inFlow indent 1 gap.addLine (pending + 1) length content cs
    else
      let isOutside :=
        match gap with
        | .lines _ _ => !inFlow && column < indent
        | .blanks _ => false
      let isComment := c == '#'.toNat && pending != 0
      if isOutside || isComment || endsPlain inFlow c cs.head? then (content.reverse, length)
      else
        plainFrom inFlow indent (column + 1) Gap.none 0 (length + pending + 1)
          (c :: (gap.text ++ content)) cs

/-- Scans a scalar without quotes at some column. -/
def plainScan (inFlow : Bool) (indent column : Nat) (t : Text) : Text × Nat :=
  plainFrom inFlow indent column Gap.none 0 0 [] t

/-- The marks that begin no scalar without quotes. -/
def plainExceptions : Text := "-?:,[]\x7b\x7d#&*!|>'\"%@`"

/-- Whether a scalar without quotes may begin here. -/
def beginsPlain (inFlow : Bool) : Text → Bool
  | [] => false
  | c :: cs =>
    (!isBreak (some c) && !plainExceptions.contains c)
      || (!isBreak cs.head?
        && (c == '-'.toNat || (!inFlow && (c == '?'.toNat || c == ':'.toNat))))

/-- The code point of an escape of one letter. -/
def letterEscape? (c : CodePoint) : Option CodePoint :=
  ([('0', 0), ('a', 7), ('b', 8), ('t', 9), ('\t', 9), ('n', 10), ('v', 11), ('f', 12), ('r', 13),
    ('e', 27), (' ', 32), ('"', 34), ('\\', 92), ('/', 47), ('N', 0x85), ('_', 0xA0), ('L', 0x2028),
    ('P', 0x2029)] : List (Char × CodePoint)).findSome? fun (m, point) =>
      if c = m.toNat then some point else none

/-- How many hexadecimal digits follow the letter of an escape. -/
def escapeDigits (c : CodePoint) : Nat :=
  if c = 'x'.toNat then 2 else if c = 'u'.toNat then 4 else if c = 'U'.toNat then 8 else 0

/-- The code point of the escape behind a backslash, and its length. -/
def escape? : Text → Option (CodePoint × Nat)
  | [] => none
  | c :: cs =>
    match letterEscape? c with
    | some point => some (point, 1)
    | none =>
      let digits := cs.take (escapeDigits c)
      if digits.isEmpty || digits.length < escapeDigits c then none
      else do
        let point ← digits.foldlM (fun n d => do return 16 * n + (← Text.hexValue? d)) 0
        if point ≤ 0x10FFFF then some (point, 1 + digits.length) else none

/-- Scans a scalar behind its opening quote: its content and its length, closing quote included. A
backslash is an escape only in double quotes; in single ones a quote is written twice. `skip`
counts code points that belong to the last escape. -/
def quotedFrom? (quote : CodePoint) :
    (skip : Nat) → Gap → (length : Nat) → (content : Text) → Text → Option (Text × Nat)
  | _, _, _, _, [] => none
  | skip + 1, gap, length, content, _ :: cs => quotedFrom? quote skip gap (length + 1) content cs
  | 0, gap, length, content, c :: cs =>
    if c = 32 ∨ c = 9 then quotedFrom? quote 0 (gap.addBlank c) (length + 1) content cs
    else if c = Text.newline then
      if isBoundary cs then none else quotedFrom? quote 0 gap.addLine (length + 1) content cs
    else
      let content := gap.text ++ content
      if c = quote then
        if quote = '\''.toNat ∧ cs.head? = some quote then
          quotedFrom? quote 1 Gap.none (length + 1) (c :: content) cs
        else some (content.reverse, length + 1)
      else if c = '\\'.toNat ∧ quote = '"'.toNat then
        if cs.head? = some Text.newline then
          quotedFrom? quote 1 (.lines false 0) (length + 1) content cs
        else
          match escape? cs with
          | some (point, n) => quotedFrom? quote n Gap.none (length + 1) (point :: content) cs
          | none => none
      else quotedFrom? quote 0 Gap.none (length + 1) (c :: content) cs

/-- Scans a scalar in quotes. -/
def quotedScan? : Text → Option (Text × Nat)
  | [] => none
  | quote :: cs => (quotedFrom? quote 0 Gap.none 0 [] cs).map fun (t, n) => (t, n + 1)

end Conform.Document
