import Conform.Internet.Location
import Conform.Schema.Building

/-!
# Remote declarations

The declarations of a version are published at a location that is written as a template: a name in
braces stands for the version, and doubled braces for single ones.

## Main definitions

- `Template.fill?` — a template with a version in it
- `declarationLocation?` — where declarations are published
- `declarationsOfReply?` — the declarations in a reply
-/

namespace Conform

namespace Template

/-- The name that stands for the version in a template. -/
def versionName : Text := "version"

/-- A template with a version in it; none if a brace is single or a name unknown. `skip` counts the
code points that belong to the last piece. -/
def fillFrom? (version : Text) : (skip : Nat) → Text → Option Text
  | _, [] => some []
  | skip + 1, _ :: cs => fillFrom? version skip cs
  | 0, c :: cs =>
    if c = '{'.toNat then
      if cs.head? = some '{'.toNat then (fillFrom? version 1 cs).map (c :: ·)
      else
        match Text.splitFirst? '}'.toNat cs with
        | some (name, _) =>
          if name = versionName then
            (fillFrom? version (name.length + 1) cs).map (version ++ ·)
          else none
        | none => none
    else if c = '}'.toNat then
      if cs.head? = some '}'.toNat then (fillFrom? version 1 cs).map (c :: ·) else none
    else (fillFrom? version 0 cs).map (c :: ·)

/-- A template with a version in it. -/
def fill? (template version : Text) : Option Text := fillFrom? version 0 template

end Template

/-- Where the declarations of a version are published, if the template is well formed. -/
def declarationLocation? (template : Text) (v : Version) : Option Location :=
  match (Template.fill? template v.name).map Location.ofReference with
  | some (.ok l) => some l
  | _ => none

/-- The declarations in a reply; a reply that reports no success has none. -/
def declarationsOfReply? (status : Nat) (body : Text) : Option Text :=
  if 200 ≤ status ∧ status < 300 then some body else none

end Conform
