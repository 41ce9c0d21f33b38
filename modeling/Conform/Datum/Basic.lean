import Conform.Schema.Building
import Conform.Schema.Checking

/-!
# Data

What configuration files and literals on a command line hold. Beyond the values that schemas are
checked against there are rows, sets, byte strings and complex numbers, and the keys of a mapping
need not be texts.

Keys are told apart by what they are equal to, not by how they are written: a truth value is the
same key as the number it counts as, and an integer the same as a double of its value.

## Main definitions

- `Datum` — data
- `Datum.identity`, `Datum.same` — when two data are the same key
- `Datum.mutablePart?` — why a datum cannot be a key
- `Entries.get?`, `Entries.insert`, `Entries.ofList` — the entries of mappings
-/

namespace Conform

/-- A datum. -/
inductive Datum
  | scalar (s : Scalar)
  | ellipsis
  | complex (real imaginary : Double)
  | bytes (octets : List Nat)
  | date (d : Date)
  | list (items : List Datum)
  /-- Items that cannot be changed, so that they may serve as a key. -/
  | row (items : List Datum)
  | set (items : List Datum)
  | mapping (entries : List (Datum × Datum))

/-- The entries of a mapping: keys with what stands under them. -/
abbrev Entries := List (Datum × Datum)

namespace Datum

/-- The null datum. -/
abbrev null : Datum := .scalar .null

/-- A truth value. -/
abbrev bool (b : Bool) : Datum := .scalar (.bool b)

/-- A number. -/
abbrev number (n : Number) : Datum := .scalar (.number n)

/-- An integer. -/
abbrev int (n : Int) : Datum := .scalar (.number (.int n))

/-- A double. -/
abbrev float (d : Double) : Datum := .scalar (.number (.float d))

/-- A text. -/
abbrev text (t : Text) : Datum := .scalar (.text t)

instance : Inhabited Datum := ⟨.null⟩

/-- Whether a datum counts as true. -/
def truthy : Datum → Bool
  | .scalar s => s.truthy
  | .ellipsis => true
  | .complex real imaginary => !(real.isZero && imaginary.isZero)
  | .bytes octets => !octets.isEmpty
  | .date _ => true
  | .list items => !items.isEmpty
  | .row items => !items.isEmpty
  | .set items => !items.isEmpty
  | .mapping entries => !entries.isEmpty

/-- The name of the class of a datum. -/
def className : Datum → Text
  | .scalar s => (Value.scalar s).classPath
  | .ellipsis => "ellipsis"
  | .complex _ _ => "complex"
  | .bytes _ => "bytes"
  | .date d => (Value.date d).classPath
  | .list _ => "list"
  | .row _ => "tuple"
  | .set _ => "set"
  | .mapping _ => "dict"

/-- A code that two numbers share exactly when they are equal. Not-a-number is taken for equal to
itself. -/
def numberIdentity : Number → List Nat
  | .int n => [0, if n < 0 then 1 else 0, n.natAbs]
  | .float .nan => [1]
  | .float (.infinite negative) => [2, if negative then 1 else 0]
  | .float d@(.finite negative place) =>
    if d.isWhole then
      let n := d.truncate?.getD 0
      [0, if n < 0 then 1 else 0, n.natAbs]
    else [3, if negative then 1 else 0, place.val]

/-- A code that two scalars share exactly when they are equal. -/
def scalarIdentity : Scalar → List Nat
  | .undefined => [10]
  | .null => [11]
  | .bool b => numberIdentity (Scalar.ofBool b)
  | .number n => numberIdentity n
  | .text t => 12 :: t.length :: t

mutual

/-- A code that two data share exactly when they are equal. -/
def identity : Datum → List Nat
  | .scalar s => scalarIdentity s
  | .ellipsis => [13]
  | .complex real imaginary =>
    if imaginary.isZero then numberIdentity (.float real)
    else 14 :: numberIdentity (.float real) ++ numberIdentity (.float imaginary)
  | .bytes octets => 15 :: octets.length :: octets
  | .date d => [16, d.year, d.month, d.day]
  | .list items => 17 :: items.length :: identities items
  | .row items => 18 :: items.length :: identities items
  | .set items => 19 :: items.length :: identities items
  | .mapping entries => 20 :: entries.length :: entryIdentities entries
termination_by structural d => d

/-- The codes of items, one after another. -/
def identities : List Datum → List Nat
  | [] => []
  | d :: ds => d.identity ++ identities ds
termination_by structural ds => ds

/-- The codes of entries, one after another. -/
def entryIdentities : List (Datum × Datum) → List Nat
  | [] => []
  | (key, d) :: rest => key.identity ++ d.identity ++ entryIdentities rest
termination_by structural entries => entries

end

/-- Whether two data are the same key. -/
def same (a b : Datum) : Bool := a.identity == b.identity

mutual

/-- The first part of a datum that can be changed; what has one cannot be a key. -/
def mutablePart? : Datum → Option Datum
  | .list items => some (.list items)
  | .set items => some (.set items)
  | .mapping entries => some (.mapping entries)
  | .row items => mutableItem? items
  | _ => none
termination_by structural d => d

/-- The first part of items that can be changed. -/
def mutableItem? : List Datum → Option Datum
  | [] => none
  | d :: ds => d.mutablePart? <|> mutableItem? ds
termination_by structural ds => ds

end

mutual

/-- The datum that a value is. Schemas and patterns are texts here. -/
def ofValue : Value → Datum
  | .scalar s => .scalar s
  | .date d => .date d
  | .array items => .list (ofValues items)
  | .object fields => .mapping (ofFields fields)
  | .schema s => .text s.kind.name
  | .pattern p => .text p.text
termination_by structural v => v

/-- The data that values are. -/
def ofValues : List Value → List Datum
  | [] => []
  | v :: vs => ofValue v :: ofValues vs
termination_by structural vs => vs

/-- The entries that fields are. -/
def ofFields : List (Text × Value) → List (Datum × Datum)
  | [] => []
  | (key, v) :: rest => (.text key, ofValue v) :: ofFields rest
termination_by structural fields => fields

end

/-- The entries of a datum that is a mapping. -/
def entries? : Datum → Option Entries
  | .mapping entries => some entries
  | _ => none

end Datum

namespace Entries

/-- What stands under a key. -/
def get? (entries : Entries) (key : Datum) : Option Datum :=
  match entries with
  | [] => none
  | (k, d) :: rest => if k.same key then some d else get? rest key

/-- Whether a key is among the entries. -/
def has (entries : Entries) (key : Datum) : Bool := entries.any fun (k, _) => k.same key

/-- Puts a datum under a key. A key that is there keeps its place and its form; a new one goes
behind the others. -/
def insert (key : Datum) (d : Datum) : Entries → Entries
  | [] => [(key, d)]
  | (k, old) :: rest => if k.same key then (k, d) :: rest else (k, old) :: insert key d rest

/-- Entries with others put among them one after another. -/
def merge (first second : Entries) : Entries :=
  second.foldl (fun found (key, d) => found.insert key d) first

/-- The entries of a list in which keys may occur again: the first place and the last datum of a key
count. -/
def ofList (entries : Entries) : Entries := merge [] entries

/-- What stands under a key that is a text. -/
def at? (entries : Entries) (key : Text) : Option Datum := entries.get? (.text key)

/-- Entries with keys that are written as strings. -/
def named (entries : List (String × Datum)) : Entries :=
  entries.map fun (key, d) => (.text (Text.ofString key), d)

end Entries

/-- A mapping with keys that are written as strings. -/
def Datum.named (entries : List (String × Datum)) : Datum := .mapping (Entries.named entries)

end Conform
