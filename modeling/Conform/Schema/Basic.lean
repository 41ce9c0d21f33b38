import Conform.Calendar
import Conform.Pattern.Basic
import Conform.Source.Tree

/-!
# Values and schemas

Values are what schemas are checked against: the values of a data format, dates, and the marker of
an absent value. A schema may itself be a value, because a default can be any value that a schema
expression denotes.

## Main definitions

- `Value` — values
- `Schema`, `Form` — schemas: a form with an optional description
- `StringRule`, `NumberRule`, `LengthRule` — refinements, held in `Check`
- `Kind`, `Schema.kind` — the name of a form
-/

namespace Conform

/-- A refinement with a message that replaces its own. -/
structure Check (Rule : Type) where
  rule : Rule
  message : Option Text

/-- The formats of strings that are given by one fixed pattern. -/
inductive TextFormat
  | uuid
  | email
  | cuid
  | cuid2
  | ulid
  | nanoid
  | emoji
  | base64
  | date
  | duration
  deriving DecidableEq, Repr

/-- The versions of internet addresses. -/
inductive IpVersion
  | v4
  | v6
  deriving DecidableEq, Repr

/-- The fraction of a second in a point of time. -/
inductive Fraction
  /-- Any number of digits, or none and no point. -/
  | optional
  | absent
  | digits (count : Nat)
  deriving DecidableEq, Repr

/-- The form of a date with a time of day. -/
structure TimestampForm where
  fraction : Fraction
  /-- Whether an offset may stand for the final letter. -/
  offset : Bool
  /-- Whether letter and offset may be left out. -/
  isLocal : Bool
  deriving DecidableEq, Repr

/-- Refinements and transformations of strings. -/
inductive StringRule
  | min (length : Nat)
  | max (length : Nat)
  | length (length : Nat)
  | format (format : TextFormat)
  | url
  | ip (version : Option IpVersion)
  | datetime (form : TimestampForm)
  | time (fraction : Fraction)
  | regex (pattern : Pattern)
  | startsWith (start : Text)
  | endsWith (tail : Text)
  | includes (needle : Text) (position : Nat)
  | trim
  | toLowerCase
  | toUpperCase

/-- Refinements of numbers. -/
inductive NumberRule
  | gte (bound : Number)
  | gt (bound : Number)
  | lte (bound : Number)
  | lt (bound : Number)
  | int
  | multipleOf (step : Number)
  | finite
  deriving DecidableEq

/-- Refinements of array lengths. -/
inductive LengthRule
  | min (length : Nat)
  | max (length : Nat)
  | length (length : Nat)
  deriving DecidableEq, Repr

/-- What happens to undeclared keys of an object. -/
inductive Policy
  | strip
  | strict
  | passthrough
  deriving DecidableEq, Repr

mutual

/-- A value. -/
inductive Value
  | scalar (s : Scalar)
  | date (d : Date)
  | array (items : List Value)
  | object (fields : List (Text × Value))
  | schema (s : Schema)
  | pattern (p : Pattern)

/-- A schema: what it accepts, and a description that plays no part in checking. -/
inductive Schema
  | mk (description : Option Text) (form : Form)

/-- What a schema accepts. -/
inductive Form
  | string (checks : List (Check StringRule))
  | number (checks : List (Check NumberRule))
  | boolean
  | null
  | undefined
  | void
  | nan
  | date
  | any
  | unknown
  | never
  | literal (value : Scalar)
  | enum (options : List Text)
  | object (shape : List (Text × Schema)) (unknownKeys : Option Policy)
      (catchall : Option Schema) (strictMessage : Option Text)
  | array (element : Schema) (checks : List (Check LengthRule))
  | tuple (items : List Schema) (rest : Option Schema)
  | record (key value : Schema)
  | union (options : List Schema)
  | discriminatedUnion (discriminator : Text) (options : List Schema)
  | intersection (left right : Schema)
  | optional (inner : Schema)
  | nullable (inner : Schema)
  | default (inner : Schema) (value : Value)

end

/-- The marker of an absent value. -/
abbrev Value.undefined : Value := .scalar .undefined

/-- The null value. -/
abbrev Value.null : Value := .scalar .null

/-- A truth value. -/
abbrev Value.bool (b : Bool) : Value := .scalar (.bool b)

/-- A number. -/
abbrev Value.number (n : Number) : Value := .scalar (.number n)

/-- An integer. -/
abbrev Value.int (n : Int) : Value := .scalar (.number (.int n))

/-- A double. -/
abbrev Value.float (d : Double) : Value := .scalar (.number (.float d))

/-- A string. -/
abbrev Value.text (t : Text) : Value := .scalar (.text t)

instance : Inhabited Value := ⟨.null⟩
instance : Inhabited Schema := ⟨.mk none .any⟩

/-- The kinds of schemas. -/
inductive Kind
  | string
  | number
  | boolean
  | null
  | undefined
  | void
  | nan
  | date
  | any
  | unknown
  | never
  | literal
  | enum
  | object
  | array
  | tuple
  | record
  | union
  | discriminatedUnion
  | intersection
  | optional
  | nullable
  | default
  deriving DecidableEq, Repr

/-- The name of a kind. -/
def Kind.name : Kind → Text
  | .string => "string"
  | .number => "number"
  | .boolean => "boolean"
  | .null => "null"
  | .undefined => "undefined"
  | .void => "void"
  | .nan => "nan"
  | .date => "date"
  | .any => "any"
  | .unknown => "unknown"
  | .never => "never"
  | .literal => "literal"
  | .enum => "enum"
  | .object => "object"
  | .array => "array"
  | .tuple => "tuple"
  | .record => "record"
  | .union => "union"
  | .discriminatedUnion => "discriminatedUnion"
  | .intersection => "intersection"
  | .optional => "optional"
  | .nullable => "nullable"
  | .default => "default"

/-- The kind of a form. -/
def Form.kind : Form → Kind
  | .string _ => .string
  | .number _ => .number
  | .boolean => .boolean
  | .null => .null
  | .undefined => .undefined
  | .void => .void
  | .nan => .nan
  | .date => .date
  | .any => .any
  | .unknown => .unknown
  | .never => .never
  | .literal _ => .literal
  | .enum _ => .enum
  | .object _ _ _ _ => .object
  | .array _ _ => .array
  | .tuple _ _ => .tuple
  | .record _ _ => .record
  | .union _ => .union
  | .discriminatedUnion _ _ => .discriminatedUnion
  | .intersection _ _ => .intersection
  | .optional _ => .optional
  | .nullable _ => .nullable
  | .default _ _ => .default

namespace Schema

/-- A schema without a description. -/
def plain (form : Form) : Schema := .mk none form

/-- What the schema accepts. -/
def form : Schema → Form
  | .mk _ form => form

/-- The description, if there is one. -/
def description : Schema → Option Text
  | .mk description _ => description

/-- The kind of the schema. -/
def kind (s : Schema) : Kind := s.form.kind

/-- The schema with a description. -/
def describe (s : Schema) (text : Text) : Schema := .mk (some text) s.form

/-- The schema with another form. -/
def withForm (s : Schema) (form : Form) : Schema := .mk s.description form

/-- The schema or an absent value. -/
def optional (s : Schema) : Schema := plain (.optional s)

/-- The schema or null. -/
def nullable (s : Schema) : Schema := plain (.nullable s)

end Schema

/-- How messages name the type of a value. -/
def Value.typeName : Value → Text
  | .scalar .undefined => "undefined"
  | .scalar .null => "null"
  | .scalar (.bool _) => "boolean"
  | .scalar (.number n) => if n.isNaN then "nan" else "number"
  | .scalar (.text _) => "string"
  | .date _ => "date"
  | .array _ => "array"
  | .object _ => "object"
  | .schema _ => "object"
  | .pattern _ => "object"

/-- The value of the first field with a key. -/
def Fields.get? {α : Type} (fields : List (Text × α)) (key : Text) : Option α := fields.lookup key

/-- Puts a field in place of the one with its key, or behind all fields if there is none. -/
def Fields.insert {α : Type} (key : Text) (value : α) : List (Text × α) → List (Text × α)
  | [] => [(key, value)]
  | (k, v) :: rest => if k = key then (k, value) :: rest else (k, v) :: insert key value rest

/-- The fields of a list of fields in which a key may occur again: its first place and its last
value count. -/
def Fields.ofList {α : Type} (fields : List (Text × α)) : List (Text × α) :=
  fields.foldl (fun found (k, v) => insert k v found) []

/-- The fields of two lists, the second of which wins. -/
def Fields.merge {α : Type} (first second : List (Text × α)) : List (Text × α) :=
  second.foldl (fun found (k, v) => insert k v found) first

/-- Fields with keys that are written as strings. -/
def Fields.named {α : Type} (fields : List (String × α)) : List (Text × α) :=
  fields.map fun (key, v) => (Text.ofString key, v)

/-- Whether a key is among the fields. -/
def Fields.has {α : Type} (fields : List (Text × α)) (key : Text) : Bool :=
  fields.any fun (k, _) => k == key

end Conform
