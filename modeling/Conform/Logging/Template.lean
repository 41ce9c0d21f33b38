import Conform.Pattern.Basic
import Conform.Text.Name

/-!
# Templates of messages

A template is a text with places for the parts of a message. There are three styles of writing
places, and a template needs at least one.

## Main definitions

- `Logging.Style` — the styles
- `Logging.Style.accepts` — whether a text is a template in a style
-/

namespace Conform.Logging

/-- How places in templates are written. -/
inductive Style
  /-- Behind a percent sign, with a name in parentheses. -/
  | percent
  /-- In braces. -/
  | brace
  /-- Behind a dollar sign. -/
  | dollar
  deriving DecidableEq, Repr

/-- The style with a mark. -/
def Style.ofMark? (t : Text) : Option Style :=
  if t = Text.ofString "%" then some .percent
  else if t = Text.ofString "\x7b" then some .brace
  else if t = Text.ofString "$" then some .dollar
  else none

/-- Whether a text has a match of an expression that ignores case. -/
def fits (expression : Text) (t : Text) : Bool :=
  match Regex.read expression [.ignoreCase] with
  | .ok parsed => (parsed.regex.search? parsed.least t).isSome
  | .error _ => false

/-- A place behind a percent sign. -/
def percentPlace : Text :=
  "%\\(\\w+\\)[#0+ -]*(\\*|\\d+)?(\\.(\\*|\\d+))?[diouxefgcrsa%]"

/-- The name of a place in braces, with parts of what is named. -/
def bracePath : Text := "^(\\d+|\\w+)(\\.\\w+|\\[[^]]+\\])*$"

/-- How the part of a message is written in a place in braces. -/
def braceSpec : Text :=
  "^(.?[<=>^])?[+ -]?#?0?(\\d+|\x7b\\w+\x7d)?[,_]?(\\.(\\d+|\x7b\\w+\x7d))?[bcdefgnosx%]?$"

/-- A place in braces: its name, the letter of a conversion, and how the part is written. -/
structure BracePlace where
  path : Text
  conversion : Option CodePoint := none
  spec : Text := []

/-- Whether a place is written as it should be. -/
def BracePlace.isValid (p : BracePlace) : Bool :=
  (p.path.isEmpty || fits bracePath p.path)
    && (p.conversion.all fun c => Text.includes "rsa" [c])
    && (p.spec.isEmpty || fits braceSpec p.spec)

/-- The length of the name of a place, up to the mark that ends it. What stands in square brackets
belongs to it; an opening brace may not. -/
def pathLength? : (bracketed : Bool) → Text → Option Nat
  | _, [] => none
  | true, c :: cs => (pathLength? (c != ']'.toNat) cs).map (· + 1)
  | false, c :: cs =>
    if c = '{'.toNat then none
    else if c = '}'.toNat ∨ c = ':'.toNat ∨ c = '!'.toNat then some 0
    else (pathLength? (c == '['.toNat) cs).map (· + 1)

/-- The length of a text up to the brace that closes it; `depth` counts the open ones. -/
def closedLength? : (depth : Nat) → Text → Option Nat
  | _, [] => none
  | depth, c :: cs =>
    if c = '{'.toNat then (closedLength? (depth + 1) cs).map (· + 1)
    else if c = '}'.toNat then
      if depth ≤ 1 then some 0 else (closedLength? (depth - 1) cs).map (· + 1)
    else (closedLength? depth cs).map (· + 1)

/-- The rest of a place behind the colon in front of how the part is written, and its length. -/
def specPlace? (p : BracePlace) (t : Text) : Option (BracePlace × Nat) :=
  (closedLength? 1 t).map fun n => ({ p with spec := t.take n }, n + 1)

/-- A place behind its opening brace, and its length. -/
def bracePlace? (t : Text) : Option (BracePlace × Nat) := do
  let n ← pathLength? false t
  let p : BracePlace := { path := t.take n }
  match t.drop n with
  | mark :: rest =>
    if mark = '}'.toNat then return (p, n + 1)
    else if mark = ':'.toNat then
      let (p, m) ← specPlace? p rest
      return (p, n + 1 + m)
    else
      match rest with
      | conversion :: behind :: rest =>
        let p := { p with conversion := some conversion }
        if behind = '}'.toNat then return (p, n + 3)
        else if behind = ':'.toNat then
          let (p, m) ← specPlace? p rest
          return (p, n + 3 + m)
        else none
      | _ => none
  | [] => none

/-- The places of a template in braces; braces written twice are no places. `skip` counts the code
points of the last place. -/
def bracePlaces? : (skip : Nat) → Text → Option (List BracePlace)
  | _, [] => some []
  | skip + 1, _ :: cs => bracePlaces? skip cs
  | 0, c :: cs =>
    if (c = '{'.toNat ∨ c = '}'.toNat) ∧ cs.head? = some c then bracePlaces? 1 cs
    else if c = '}'.toNat then none
    else if c = '{'.toNat then do
      let (p, n) ← bracePlace? cs
      return p :: (← bracePlaces? n cs)
    else bracePlaces? 0 cs

/-- An ASCII letter or an underscore. -/
def isPlaceStart (c : CodePoint) : Bool := Text.isAsciiLetter c || c == '_'.toNat

/-- The length of the name that a place behind a dollar sign begins with; zero if there is none. -/
def dollarNameLength (t : Text) : Nat :=
  if (t.head?.map isPlaceStart).getD false then
    (t.takeWhile fun c => isPlaceStart c || Text.isDigit c).length
  else 0

/-- How many places behind dollar signs a template has; a dollar sign written twice is no place.
None if there is a dollar sign that is neither. -/
def dollarPlaces? : (skip : Nat) → Text → Option Nat
  | _, [] => some 0
  | skip + 1, _ :: cs => dollarPlaces? skip cs
  | 0, c :: cs =>
    if c ≠ '$'.toNat then dollarPlaces? 0 cs
    else if cs.head? = some c then dollarPlaces? 1 cs
    else if dollarNameLength cs > 0 then (dollarPlaces? (dollarNameLength cs) cs).map (· + 1)
    else
      let n := dollarNameLength (cs.drop 1)
      if cs.head? = some '{'.toNat ∧ n > 0 ∧ cs[n + 1]? = some '}'.toNat then
        (dollarPlaces? (n + 2) cs).map (· + 1)
      else none

/-- Whether a text is a template in a style. -/
def Style.accepts (style : Style) (t : Text) : Bool :=
  match style with
  | .percent => fits percentPlace t
  | .brace =>
    match bracePlaces? 0 t with
    | some places => places.all BracePlace.isValid && places.any fun p => !p.path.isEmpty
    | none => false
  | .dollar => ((dollarPlaces? 0 t).map fun n => decide (n > 0)).getD false

end Conform.Logging
