import Conform.Literal.Tree
import Conform.Number.Arithmetic

/-!
# Literals

Data written in a notation of literals: numbers with an optional sign, complex numbers as sums,
quoted texts and byte strings, the words `None`, `True` and `False`, three points, lists in
brackets, mappings and sets in braces, and rows of literals between commas, with or without
parentheses.

## Main definitions

- `Literal.Tree.datum` — what a tree denotes
- `Literal.read` — the datum of a text
- `Literal.Failure` — why a text has none
-/

namespace Conform.Literal

/-- Why a text has no datum. -/
inductive Failure
  /-- The text is no literal. -/
  | malformed
  /-- A datum is used as a key, or as an item of a set, that can be changed. -/
  | notAKey (className : Text)
  /-- An integer is added to an imaginary number and does not fit in a double. -/
  | integerTooLarge
  deriving DecidableEq, Repr

/-- The wording of a failure that is reported. -/
def Failure.message : Failure → Text
  | .malformed => "malformed literal"
  | .notAKey className => "unhashable type: '" ++ className ++ "'"
  | .integerTooLarge => ArithmeticFault.integerTooLarge.message

/-- What a numeral with a sign denotes. The sign of an imaginary number applies to both parts. -/
def signedNumeral (negative : Bool) : Numeral → Datum
  | .real n => .number (if negative then n.neg else n)
  | .imaginary d =>
    if negative then .complex (Double.zero true) d.neg else .complex (Double.zero false) d

/-- The real number that a tree is, with perhaps a sign. -/
def Tree.real? : Tree → Option Number
  | .numeral (.real n) => some n
  | .signed negative (.numeral (.real n)) => some (if negative then n.neg else n)
  | _ => none

/-- A real number and an imaginary one together. -/
def complexSum (negative : Bool) (n : Number) (imaginary : Double) : Except Failure Datum :=
  match n.toDouble? with
  | none => .error .integerTooLarge
  | some real =>
    let combine := if negative then Double.sub else Double.add
    .ok (.complex (combine real (Double.zero false)) (combine (Double.zero false) imaginary))

/-- Refuses what cannot be a key. -/
def checkKey (d : Datum) : Except Failure Unit :=
  match d.mutablePart? with
  | some part => .error (.notAKey part.className)
  | none => .ok ()

/-- Puts an item into its place among items of a set: integers stand in ascending order, all else in
the order in which it comes. Equal items are there once. -/
def insertItem (d : Datum) : List Datum → List Datum
  | [] => [d]
  | other :: rest =>
    if other.same d then other :: rest
    else
      match d, other with
      | .scalar (.number (.int m)), .scalar (.number (.int n)) =>
        if m < n then d :: other :: rest else other :: insertItem d rest
      | _, _ => other :: insertItem d rest

mutual

/-- What a tree denotes. -/
def Tree.datum : Tree → Except Failure Datum
  | .numeral n => .ok (signedNumeral false n)
  | .constant d => .ok d
  | .name _ => .error .malformed
  | .call t => if t = Text.ofString "set" then .ok (.set []) else .error .malformed
  | .signed negative (.numeral n) => .ok (signedNumeral negative n)
  | .signed _ _ => .error .malformed
  | .sum negative left (.numeral (.imaginary d)) =>
    match left.real? with
    | some n => complexSum negative n d
    | none => .error .malformed
  | .sum _ _ _ => .error .malformed
  | .list trees => return .list (← Tree.data trees)
  | .row trees => return .row (← Tree.data trees)
  | .set trees => return .set (← Tree.members [] trees)
  | .mapping trees => return .mapping (← Tree.entries [] trees)
termination_by structural tree => tree

/-- What trees denote. -/
def Tree.data : List Tree → Except Failure (List Datum)
  | [] => .ok []
  | tree :: rest => do
    let d ← tree.datum
    return d :: (← Tree.data rest)
termination_by structural trees => trees

/-- What trees denote together with items of a set. -/
def Tree.members : List Datum → List Tree → Except Failure (List Datum)
  | items, [] => .ok items
  | items, tree :: rest => do
    let d ← tree.datum
    checkKey d
    Tree.members (insertItem d items) rest
termination_by structural _ trees => trees

/-- What entries denote on top of others. -/
def Tree.entries : Entries → List (Tree × Tree) → Except Failure Entries
  | found, [] => .ok found
  | found, (keyTree, tree) :: rest => do
    let key ← keyTree.datum
    let d ← tree.datum
    checkKey key
    Tree.entries (found.insert key d) rest
termination_by structural _ trees => trees

end

/-- The datum of a text. -/
def read (t : Text) : Except Failure Datum :=
  match (tokens? (t.dropWhile fun c => c == 32 || c == 9)).bind Tree.ofTokens? with
  | none => .error .malformed
  | some tree => tree.datum

end Conform.Literal
