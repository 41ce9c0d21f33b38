import Conform.Document.Plain

/-!
# Nodes of documents

A document consists of scalars, sequences and mappings. What a scalar without quotes denotes, and
which keys are the same, is said only when the whole document has been read.

## Main definitions

- `Document.Node` — nodes
- `Document.Node.datum` — what a node denotes
-/

namespace Conform.Document

/-- A node. -/
inductive Node
  /-- A scalar in quotes or in lines of its own. -/
  | text (t : Text)
  /-- A scalar without quotes. -/
  | plain (t : Text)
  | sequence (items : List Node)
  | mapping (entries : List (Node × Node))

/-- Nothing, which stands for null. -/
def Node.empty : Node := .plain []

/-- Whether a key asks for the entries of its value to be merged. -/
def Node.isMerge : Node → Bool
  | .plain t => t == Text.ofString "<<"
  | _ => false

/-- The entries to be merged for a value: those of a mapping, or of a sequence of mappings the first
of which win. -/
def mergedEntries : Datum → Except Fault Entries
  | .mapping entries => .ok entries
  | .list items => do
    let merged ← items.mapM fun
      | .mapping entries => .ok entries
      | _ => .error .malformed
    return merged.reverse.flatten
  | _ => .error .malformed

/-- A key. A single equals sign is one. -/
def keyOf (node : Node) (d : Except Fault Datum) : Except Fault Datum :=
  match node with
  | .plain t => if t = Text.ofString "=" then .ok (.text t) else d
  | _ => do
    let key ← d
    if key.mutablePart?.isSome then throw .malformed
    return key

mutual

/-- What a node denotes. -/
def Node.datum : Node → Except Fault Datum
  | .text t => .ok (.text t)
  | .plain t => plainDatum t
  | .sequence nodes => return .list (← Node.data nodes)
  | .mapping nodes => do
    let (merged, own) ← Node.entries nodes
    return .mapping (Entries.ofList (merged ++ own))
termination_by structural node => node

/-- What nodes denote. -/
def Node.data : List Node → Except Fault (List Datum)
  | [] => .ok []
  | node :: rest => do
    let d ← node.datum
    return d :: (← Node.data rest)
termination_by structural nodes => nodes

/-- What the entries of a mapping denote, those that are merged first. -/
def Node.entries : List (Node × Node) → Except Fault (Entries × Entries)
  | [] => .ok ([], [])
  | (key, node) :: rest => do
    if key.isMerge then
      let found ← mergedEntries (← node.datum)
      let (merged, own) ← Node.entries rest
      return (found ++ merged, own)
    else
      let k ← keyOf key key.datum
      let d ← node.datum
      let (merged, own) ← Node.entries rest
      return (merged, (k, d) :: own)
termination_by structural nodes => nodes

end

end Conform.Document
