import Conform.Literal.Token
import Conform.Datum.Basic

/-!
# Trees of literals

What a literal consists of, before it is said what it denotes. Brackets and commas must fit, while
it does not matter whether keys can be keys and whether names mean something.

## Main definitions

- `Literal.Tree` — trees
- `Literal.Tree.ofTokens?` — the tree of a row of tokens
-/

namespace Conform.Literal

/-- A literal as it is written. -/
inductive Tree
  | numeral (n : Numeral)
  | constant (d : Datum)
  | name (t : Text)
  /-- A name with empty parentheses behind it. -/
  | call (name : Text)
  | signed (negative : Bool) (operand : Tree)
  | sum (negative : Bool) (left right : Tree)
  | list (items : List Tree)
  | row (items : List Tree)
  | set (items : List Tree)
  | mapping (entries : List (Tree × Tree))

/-- The tree of a name; three names are constants. -/
def Tree.ofName (t : Text) : Tree :=
  if t = Text.ofString "None" then .constant .null
  else if t = Text.ofString "True" then .constant (.bool true)
  else if t = Text.ofString "False" then .constant (.bool false)
  else .name t

/-- A reading step over the rest of the tokens. -/
abbrev Reading := StateT (List Token) Option

/-- Refuses the text. -/
def refuse {α : Type} : Reading α := fun _ => none

/-- Moves past a token if it is next. -/
def accept (t : Token) : Reading Bool := do
  if (← get).head? = some t then
    modify (·.drop 1)
    return true
  else return false

/-- The sign that is next, if one is; true means negative. -/
def sign? : Reading (Option Bool) := do
  if ← accept .minus then return some true
  if ← accept .plus then return some false
  return none

/-- The texts that follow a text and belong to it. -/
def moreTexts (first : Text) : List Token → Text × List Token
  | .text t :: rest => moreTexts (first ++ t) rest
  | rest => (first, rest)

/-- The byte strings that follow a byte string and belong to it. -/
def moreBytes (first : List Nat) : List Token → List Nat × List Token
  | .bytes t :: rest => moreBytes (first ++ t) rest
  | rest => (first, rest)

mutual

/-- Reads numbers with signs between them, or another literal. -/
def literal (fuel : Nat) : Reading Tree :=
  match fuel with
  | 0 => refuse
  | fuel + 1 => do sums fuel (← operand fuel)

/-- Reads what is added to a tree. -/
def sums (fuel : Nat) (left : Tree) : Reading Tree :=
  match fuel with
  | 0 => refuse
  | fuel + 1 => do
    match ← sign? with
    | none => return left
    | some negative => sums fuel (.sum negative left (← operand fuel))

/-- Reads a literal with perhaps a sign. -/
def operand (fuel : Nat) : Reading Tree :=
  match fuel with
  | 0 => refuse
  | fuel + 1 => do
    match ← sign? with
    | some negative => return .signed negative (← operand fuel)
    | none => atom fuel

/-- Reads a literal without a sign. -/
def atom (fuel : Nat) : Reading Tree :=
  match fuel with
  | 0 => refuse
  | fuel + 1 => do
    match ← get with
    | .numeral n :: rest =>
      set rest
      return .numeral n
    | .text t :: rest =>
      let (t, rest) := moreTexts t rest
      set rest
      return .constant (.text t)
    | .bytes t :: rest =>
      let (t, rest) := moreBytes t rest
      set rest
      return .constant (.bytes t)
    | .ellipsis :: rest =>
      set rest
      return .constant .ellipsis
    | .name t :: .opening .round :: .closing .round :: rest =>
      set rest
      return .call t
    | .name t :: rest =>
      set rest
      return Tree.ofName t
    | .opening .round :: rest =>
      set rest
      if ← accept (.closing .round) then return .row []
      let first ← literal fuel
      if ← accept (.closing .round) then return first
      if ← accept .comma then return .row (first :: (← items fuel .round))
      refuse
    | .opening .square :: rest =>
      set rest
      return .list (← items fuel .square)
    | .opening .curly :: rest =>
      set rest
      if ← accept (.closing .curly) then return .mapping []
      let first ← literal fuel
      if ← accept .colon then
        let d ← literal fuel
        if ← accept .comma then return .mapping ((first, d) :: (← entries fuel))
        if ← accept (.closing .curly) then return .mapping [(first, d)]
        refuse
      if ← accept .comma then return .set (first :: (← items fuel .curly))
      if ← accept (.closing .curly) then return .set [first]
      refuse
    | _ => refuse

/-- Reads literals between commas up to a closing bracket. -/
def items (fuel : Nat) (bracket : Bracket) : Reading (List Tree) :=
  match fuel with
  | 0 => refuse
  | fuel + 1 => do
    if ← accept (.closing bracket) then return []
    let first ← literal fuel
    if ← accept .comma then return first :: (← items fuel bracket)
    if ← accept (.closing bracket) then return [first]
    refuse

/-- Reads entries between commas up to the closing brace. -/
def entries (fuel : Nat) : Reading (List (Tree × Tree)) :=
  match fuel with
  | 0 => refuse
  | fuel + 1 => do
    if ← accept (.closing .curly) then return []
    let key ← literal fuel
    if !(← accept .colon) then refuse
    let d ← literal fuel
    if ← accept .comma then return (key, d) :: (← entries fuel)
    if ← accept (.closing .curly) then return [(key, d)]
    refuse

end

/-- Reads literals between commas to the end of the line. -/
def openItems (fuel : Nat) : Reading (List Tree) :=
  match fuel with
  | 0 => refuse
  | fuel + 1 => do
    match ← get with
    | [] => return []
    | .lineEnd :: _ => return []
    | _ =>
      let first ← literal (fuel + 1)
      if ← accept .comma then return first :: (← openItems fuel)
      return [first]

/-- Reads a whole text: one literal, or several between commas. -/
def whole (fuel : Nat) : Reading Tree := do
  modify fun ts => ts.dropWhile (· == .lineEnd)
  let first ← literal fuel
  let tree ←
    if ← accept .comma then do pure (Tree.row (first :: (← openItems fuel))) else pure first
  if (← get).all (· == .lineEnd) then return tree else refuse

/-- The tree of a row of tokens. -/
def Tree.ofTokens? (ts : List Token) : Option Tree := (whole (4 * ts.length + 4)).run' ts

end Conform.Literal
