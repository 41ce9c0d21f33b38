import Conform.Document.Block
import Conform.Document.Node
import Conform.Document.Scalar

/-!
# Reading documents

A document is a node written with indentation, or with brackets as in JSON, or both. What belongs to
a sequence or a mapping stands in one column; what is deeper belongs to one of its items.

## Main definitions

- `Document.Reading` — a step of reading, which moves a cursor
- `Datum.ofDocument` — the datum of a document
-/

namespace Conform.Document

/-- A step of reading. -/
abbrev Reading := StateT Cursor Option

/-- Refuses the document. -/
def refuse {α : Type} : Reading α := fun _ => none

/-- Moves some code points further. -/
def move (count : Nat) : Reading Unit := modify (·.advance count)

/-- Moves to the next part of the document and returns its place. -/
def gap : Reading Cursor := do
  modify Cursor.pastGap
  get

/-- Reads a mark if it comes next. -/
def accept (mark : CodePoint) : Reading Bool := do
  let c ← gap
  if c.next? = some mark then
    move 1
    return true
  else return false

/-- Reads a scalar without quotes or in quotes. -/
def scalar (inFlow : Bool) (indent : Nat) : Reading Node := do
  let c ← get
  if c.next? = some '"'.toNat ∨ c.next? = some '\''.toNat then
    match quotedScan? c.rest with
    | some (t, length) =>
      move length
      return .text t
    | none => refuse
  else if beginsPlain inFlow c.rest then
    let (t, length) := plainScan inFlow indent c.column c.rest
    move length
    return .plain t
  else refuse

/-- Whether the cursor is at a colon that ends a key, on the line that the key began on. -/
def atColon (inFlow : Bool) (line : Nat) : Reading Bool := do
  let c := (← get).pastSpaces
  return c.line == line && (c.isAtMark ':'.toNat || (inFlow && c.next? == some ':'.toNat))

mutual

/-- Reads a value inside a flow collection. -/
def flowValue (fuel : Nat) : Reading Node :=
  match fuel with
  | 0 => refuse
  | fuel + 1 => do
    let c ← gap
    if c.isEnd then refuse
    else if c.next? = some '['.toNat then
      move 1
      return .sequence (← flowItems fuel)
    else if c.next? = some '{'.toNat then
      move 1
      return .mapping (← flowFields fuel)
    else scalar true 0

/-- Reads what follows a colon inside a flow collection; nothing means null. -/
def flowFieldValue (fuel : Nat) : Reading Node :=
  match fuel with
  | 0 => refuse
  | fuel + 1 => do
    let c ← gap
    if c.next? = some ','.toNat ∨ c.next? = some '}'.toNat ∨ c.next? = some ']'.toNat then
      return Node.empty
    else flowValue fuel

/-- Reads items between commas up to the closing bracket. A key with its value is an item. -/
def flowItems (fuel : Nat) : Reading (List Node) :=
  match fuel with
  | 0 => refuse
  | fuel + 1 => do
    if ← accept ']'.toNat then return []
    let line := (← gap).line
    let v ← flowValue fuel
    let item ←
      if ← atColon true line then do
        let _ ← accept ':'.toNat
        pure (Node.mapping [(v, ← flowFieldValue fuel)])
      else pure v
    if ← accept ','.toNat then return item :: (← flowItems fuel)
    if ← accept ']'.toNat then return [item]
    refuse

/-- Reads fields between commas up to the closing brace. A key alone has the value null. -/
def flowFields (fuel : Nat) : Reading (List (Node × Node)) :=
  match fuel with
  | 0 => refuse
  | fuel + 1 => do
    if ← accept '}'.toNat then return []
    let line := (← gap).line
    let key ← flowValue fuel
    let v ←
      if ← atColon true line then do
        let _ ← accept ':'.toNat
        flowFieldValue fuel
      else pure Node.empty
    if ← accept ','.toNat then return (key, v) :: (← flowFields fuel)
    if ← accept '}'.toNat then return [(key, v)]
    refuse

end

/-- Reads a block scalar. -/
def blockScalar (parent : Nat) (folded : Bool) : Reading Node := do
  move 1
  let line := (← get).rest.takeWhile (· != Text.newline)
  match BlockHeader.ofLine? folded line with
  | none => refuse
  | some header =>
    move (line.length + 1)
    let (t, length) := header.scan (max 1 parent) (← get).rest
    move length
    return .text t

/-- Reads a value that is no block collection; further lines of it are deeper than `parent`. -/
def leaf (fuel parent : Nat) : Reading Node := do
  let c ← get
  if c.next? = some '|'.toNat then blockScalar parent false
  else if c.next? = some '>'.toNat then blockScalar parent true
  else if c.next? = some '['.toNat ∨ c.next? = some '{'.toNat then flowValue fuel
  else scalar false (parent + 1)

/-- Reads a scalar in one line and the colon behind it, if this is what comes next. -/
def key? : Reading (Option Node) := do
  let start ← get
  let line := start.rest.takeWhile (· != Text.newline)
  match (scalar false start.column).run { start with rest := line } with
  | none => return none
  | some (v, after) =>
    let after := after.pastSpaces
    if after.isAtMark ':'.toNat then
      set (start.advance (start.rest.length.min
        (after.position.column - start.position.column + 1)))
      return some v
    else return none

mutual

/-- Reads a value deeper than the column `parent`; null if nothing is deeper. Block collections may
begin in the line of their parent only behind a hyphen. -/
def block (fuel parent : Nat) (mayNest : Bool) : Reading Node :=
  match fuel with
  | 0 => refuse
  | fuel + 1 => do
    let start ← get
    let c ← gap
    let mayNest := mayNest || c.line != start.line
    if c.isEnd || c.column ≤ parent then return Node.empty
    else if c.isAtMark '-'.toNat then
      if mayNest then return .sequence (← sequence fuel c.column false) else refuse
    else
      match ← key? with
      | some key =>
        if mayNest then return .mapping (← mapping fuel c.column key) else refuse
      | none => leaf fuel parent

/-- Reads the items of a sequence in a column. A sequence in the column of a mapping may be followed
by more keys of it. -/
def sequence (fuel column : Nat) (inMapping : Bool) : Reading (List Node) :=
  match fuel with
  | 0 => refuse
  | fuel + 1 => do
    move 1
    let v ← block fuel column true
    let c ← gap
    if c.isEnd || c.column < column then return [v]
    else if c.column = column then
      if c.isAtMark '-'.toNat then return v :: (← sequence fuel column inMapping)
      else if inMapping then return [v] else refuse
    else refuse

/-- Reads the fields of a mapping in a column behind its first key. -/
def mapping (fuel column : Nat) (key : Node) : Reading (List (Node × Node)) :=
  match fuel with
  | 0 => refuse
  | fuel + 1 => do
    let start ← get
    let c := start.pastGap
    let v ←
      if c.line != start.line && !c.isEnd && c.column == column && c.isAtMark '-'.toNat then do
        set c
        pure (Node.sequence (← sequence fuel column true))
      else block fuel column false
    let c ← gap
    if c.isEnd || c.column < column then return [(key, v)]
    else if c.column = column then
      match ← key? with
      | some next => return (key, v) :: (← mapping fuel column next)
      | none => refuse
    else refuse

end

/-- Whether a code point may stand in a document. -/
def isAllowed (c : CodePoint) : Bool :=
  c == 9 || c == 10 || c == 13 || (32 ≤ c && c ≤ 126) || c == 0x85
    || (0xA0 ≤ c && c ≤ 0xD7FF) || (0xE000 ≤ c && c ≤ 0xFFFD) || 0x10000 ≤ c

/-- Reads a whole document: nothing, or a value with perhaps a mark before and behind it. -/
def whole (fuel : Nat) : Reading Node := do
  let c ← gap
  let marked := c.column == 1 && isMarked "---" c.rest
  if marked then move 3
  let v ← block fuel 0 (!marked)
  let c ← gap
  if c.column == 1 && isMarked "..." c.rest then move 3
  if (← gap).rest.isEmpty then return v else refuse

end Conform.Document

namespace Conform

/-- The node of a document. -/
def Document.Node.ofText? (t : Text) : Option Document.Node :=
  if t.all Document.isAllowed then
    let body := if t.head? = some 0xFEFF then t.drop 1 else t
    (Document.whole (4 * body.length + 8)).run' (Document.Cursor.ofText body)
  else none

/-- The datum of a document. -/
def Datum.ofDocument (t : Text) : Except Document.Fault Datum :=
  match Document.Node.ofText? t with
  | some node => node.datum
  | none => .error .malformed

end Conform
