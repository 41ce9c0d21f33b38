import Conform.Text.Basic

/-!
# Names of files

A name is a row of parts between slashes. Empty parts and single points change nothing and are left
out.

## Main definitions

- `FileName.normal` — a name without parts that change nothing
- `FileName.parent` — the name of what holds a file
-/

namespace Conform.FileName

/-- The parts of a name that count. -/
def parts (name : Text) : List Text :=
  (Text.splitAll '/'.toNat name).filter fun part => !part.isEmpty && part != Text.ofString "."

/-- What stands before the parts: nothing, a slash, or two slashes; more of them count as one. -/
def root (name : Text) : Text :=
  let slashes := name.takeWhile (· == '/'.toNat)
  if slashes.length = 2 then slashes else slashes.take 1

/-- A name without parts that change nothing. The name of the current place is a point. -/
def normal (name : Text) : Text :=
  let t := root name ++ Text.join "/" (parts name)
  if t.isEmpty then "." else t

/-- The name of what holds a file: all but its last part. -/
def parent (name : Text) : Text := normal (root name ++ Text.join "/" (parts name).dropLast)

end Conform.FileName
