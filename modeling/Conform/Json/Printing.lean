import Conform.Json.Quoted
import Conform.Schema.Scalar

/-!
# Writing JSON

Values are written on one line or with a line for each item, and the keys of objects in their own
order or sorted. Values that JSON does not have are written as strings.

## Main definitions

- `Json.Style` — the choices of a writer, with `compact`, `spaced` and `indented`
- `Value.toJson` — the JSON text of a value
- `Value.isFinite` — whether a value holds no infinite or undefined number
-/

namespace Conform.Json

/-- The choices of a writer. -/
structure Style where
  escaping : Escaping
  /-- Whether the keys of objects are sorted. -/
  sorted : Bool
  /-- What stands between items on one line. -/
  comma : Text
  colon : Text
  /-- How far each level is indented, if each item has a line of its own. -/
  indent : Option Nat

/-- No blanks, and the keys in their own order. -/
def Style.compact : Style := ⟨.raw, false, ",", ":", none⟩

/-- One line with blanks behind separators, and sorted keys. -/
def Style.spaced : Style := ⟨.raw, true, ", ", ": ", none⟩

/-- A line for each item, and sorted keys. -/
def Style.indented : Style := ⟨.ascii, true, ",", ": ", some 2⟩

/-- The beginning of a line at some depth. -/
def Style.line (style : Style) (depth : Nat) : Text :=
  match style.indent with
  | some width => Text.newline :: List.replicate (width * depth) ' '.toNat
  | none => []

/-- Items between brackets; `depth` is that of the brackets. -/
def Style.block (style : Style) (depth : Nat) (opening closing : CodePoint) :
    List Text → Text
  | [] => [opening, closing]
  | items =>
    let line := style.line (depth + 1)
    opening :: (line ++ Text.join (style.comma ++ line) items ++ style.line depth ++ [closing])

/-- The written fields in the order of a style. -/
def Style.ordered (style : Style) (fields : List (Text × Text)) : List (Text × Text) :=
  if style.sorted then fields.mergeSort fun a b => !Text.before b.1 a.1 else fields

/-- A scalar in JSON. -/
def scalarText (style : Style) : Scalar → Text
  | .undefined => quoted style.escaping "undefined"
  | .null => "null"
  | .bool b => if b then "true" else "false"
  | .number n => Scalar.jsonNumber n
  | .text t => quoted style.escaping t

mutual

/-- The text of a value at some depth. -/
def valueText (style : Style) (depth : Nat) : Value → Text
  | .scalar s => scalarText style s
  | .date d => quoted style.escaping d.iso
  | .array items => style.block depth '['.toNat ']'.toNat (itemTexts style (depth + 1) items)
  | .object fields =>
    style.block depth '{'.toNat '}'.toNat
      ((style.ordered (fieldTexts style (depth + 1) fields)).map fun (key, text) =>
        quoted style.escaping key ++ style.colon ++ text)
  | .schema s => quoted style.escaping s.kind.name
  | .pattern p => quoted style.escaping p.text
termination_by structural v => v

/-- The texts of items. -/
def itemTexts (style : Style) (depth : Nat) : List Value → List Text
  | [] => []
  | v :: vs => valueText style depth v :: itemTexts style depth vs
termination_by structural vs => vs

/-- The texts of fields, with their keys. -/
def fieldTexts (style : Style) (depth : Nat) : List (Text × Value) → List (Text × Text)
  | [] => []
  | (key, v) :: rest => (key, valueText style depth v) :: fieldTexts style depth rest
termination_by structural fields => fields

end

mutual

/-- Whether a value holds no infinite and no undefined number. -/
def isFinite : Value → Bool
  | .scalar (.number (.float d)) => !d.isNaN && !d.isInfinite
  | .array items => areFinite items
  | .object fields => fieldsAreFinite fields
  | _ => true
termination_by structural v => v

/-- Whether no item holds an infinite or undefined number. -/
def areFinite : List Value → Bool
  | [] => true
  | v :: vs => isFinite v && areFinite vs
termination_by structural vs => vs

/-- Whether no field holds an infinite or undefined number. -/
def fieldsAreFinite : List (Text × Value) → Bool
  | [] => true
  | (_, v) :: rest => isFinite v && fieldsAreFinite rest
termination_by structural fields => fields

end

end Conform.Json

namespace Conform

/-- The JSON text of a value. -/
def Value.toJson (style : Json.Style) (v : Value) : Text := Json.valueText style 0 v

/-- Whether a value holds no infinite and no undefined number. -/
def Value.isFinite (v : Value) : Bool := Json.isFinite v

end Conform
