import Conform.Literal.Reading
import Conform.Text.Blank

/-!
# Overrides and headers from a command line

An override names an option by a path with dots and gives it a literal, or a text where the value is
no literal. A header is a name and a value with a colon between them.

## Main definitions

- `Override.read` — the path and the value of an override
- `Override.collect` — the nested entries that overrides give
- `Header.read`, `Header.collect` — headers
-/

namespace Conform

/-- Why arguments of a command line are refused. -/
inductive ArgumentFault
  | missingEquals (item : Text)
  | emptyKey
  | conflict (key : Text)
  | badHeader (item : Text)
  | literal (failure : Literal.Failure)
  deriving DecidableEq, Repr

/-- The wording of a fault. -/
def ArgumentFault.message : ArgumentFault → Text
  | .missingEquals item => "override '" ++ item ++ "' is missing '='"
  | .emptyKey => "override key must not be empty"
  | .conflict key => "override '" ++ key ++ "' conflicts with an existing value"
  | .badHeader item => "header '" ++ item ++ "' must look like NAME:VALUE"
  | .literal failure => failure.message

/-- An override: the written key, its path, and a value. -/
structure Override where
  key : Text
  first : Text
  rest : List Text
  value : Datum

namespace Override

/-- The value of a text: the literal it is, or the text itself. -/
def valueOf (t : Text) : Except ArgumentFault Datum :=
  match Literal.read t with
  | .ok d => .ok d
  | .error .malformed => .ok (.text t)
  | .error failure => .error (.literal failure)

/-- An override as it is written. -/
def read (item : Text) : Except ArgumentFault Override :=
  match Text.splitFirst? '='.toNat item with
  | none => .error (.missingEquals item)
  | some (key, written) =>
    match (Text.splitAll '.'.toNat key).filter fun part => !part.isEmpty with
    | [] => .error .emptyKey
    | first :: rest => do return ⟨key, first, rest, ← valueOf written⟩

/-- Puts a value under a path. -/
def put (key : Text) (value : Datum) :
    (rest : List Text) → (first : Text) → Entries → Except ArgumentFault Entries
  | [], first, entries => .ok (entries.insert (.text first) value)
  | next :: rest, first, entries =>
    match (entries.at? first).getD (.mapping []) with
    | .mapping nested => do
      return entries.insert (.text first) (.mapping (← put key value rest next nested))
    | _ => .error (.conflict key)

/-- The nested entries that overrides give, the later ones on top of the earlier ones. -/
def collect (items : List Text) : Except ArgumentFault Entries :=
  items.foldlM (fun entries item => do
    let o ← read item
    put o.key o.value o.rest o.first entries) []

end Override

namespace Header

/-- The name and the value of a header as it is written. -/
def read (item : Text) : Except ArgumentFault (Text × Text) :=
  match Text.splitFirst? ':'.toNat item with
  | none => .error (.badHeader item)
  | some (name, value) =>
    if name.strip.isEmpty then .error (.badHeader item) else .ok (name.strip, value.strip)

/-- The headers of a list, the later ones on top of the earlier ones. -/
def collect (items : List Text) : Except ArgumentFault (List (Text × Text)) :=
  items.foldlM (fun headers item => do
    let (name, value) ← read item
    return Fields.insert name value headers) []

end Header

end Conform
