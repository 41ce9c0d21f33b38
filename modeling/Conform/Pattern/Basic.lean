import Conform.Pattern.Match
import Conform.Pattern.Reader

/-!
# Patterns

A regular expression literal, as schema expressions write it, names its groups `(?<name>…)` and
refers to them by `\k<name>`; the expressions read by `Regex.read` write `(?P<name>…)` and
`(?P=name)`. A literal is respelled by replacement in its text.

## Main definitions

- `Pattern` — a respelled and read literal
- `Pattern.respell` — the replacement
- `Pattern.ofLiteral` — the pattern of a literal with its flags
-/

namespace Conform

/-- A regular expression with its respelled text and the least length of what it matches. -/
structure Pattern where
  text : Text
  regex : Regex
  least : Nat
  groups : Nat
  names : List (Text × Nat)

namespace Pattern

/-- An ASCII letter or an underscore. -/
def isReferenceStart (c : CodePoint) : Bool := Text.isAsciiLetter c || c == '_'.toNat

/-- What follows a name and its closing angle bracket. -/
def referenceName? (t : Text) : Option Text :=
  match t with
  | [] => none
  | c :: _ =>
    if isReferenceStart c then
      let isPart (d : CodePoint) : Bool := isReferenceStart d || Text.isDigit d
      match t.dropWhile isPart with
      | d :: _ => if d = '>'.toNat then some (t.takeWhile isPart) else none
      | [] => none
    else none

/-- Writes each back-reference `\k<name>` as `(?P=name)`; `skip` counts the code points of the last
one that are still to be dropped. -/
def respellReferences : (skip : Nat) → Text → Text
  | _, [] => []
  | skip + 1, _ :: cs => respellReferences skip cs
  | 0, c :: cs =>
    match (Text.after? "\\k<" (c :: cs)).bind referenceName? with
    | some name => "(?P=" ++ name ++ ")" ++ respellReferences (name.length + 3) cs
    | none => c :: respellReferences 0 cs

/-- The respelled text of a literal. Group openers are marked everywhere, and the mark is taken
back from look-behinds. -/
def respell (source : Text) : Text :=
  let marked := Text.replace "(?<" "(?P<" source
  let looks := Text.replace "(?P<!" "(?<!" (Text.replace "(?P<=" "(?<=" marked)
  respellReferences 0 looks

/-- The flags of a literal that matter for matching. -/
def flagsOf (letters : Text) : List Regex.Flag :=
  letters.filterMap fun c =>
    if c = 'i'.toNat then some .ignoreCase
    else if c = 'm'.toNat then some .multiline
    else if c = 's'.toNat then some .dotAll
    else none

/-- The pattern of a literal. -/
def ofLiteral (source letters : Text) : Except Regex.Failure Pattern := do
  let text := respell source
  let parsed ← Regex.read text (flagsOf letters)
  return ⟨text, parsed.regex, parsed.least, parsed.groups, parsed.names⟩

/-- The first match in a text. -/
def search? (p : Pattern) (t : Text) : Option Regex.Found := p.regex.search? p.least t

/-- Whether a match, or a group of it, ends before it begins, so that it cannot be told. -/
def isCrossed (p : Pattern) (m : Regex.Found) : Bool := m.isCrossed p.groups

/-- What is said about a match that cannot be told. -/
def crossedMessage : Text :=
  "The span of capturing group is wrong, please report a bug for the re module."

end Pattern

end Conform
