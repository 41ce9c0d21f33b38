import Conform.Schema.Basic

/-!
# The vocabulary of schema expressions

The names of constructors and of the methods of schemas, each with the version that brought it in.
What one version has, all later ones have.

## Main definitions

- `Version` — the supported versions, `Version.includes` their order
- `Constructor` — the constructors
- `CommonMethod`, `StringMethod`, … — the methods of all schemas and of those of one kind
- `Version.vocabulary` — the sorted names of a version
-/

namespace Conform

/-- The supported versions. -/
inductive Version
  | v3_18_0
  | v3_20_0
  | v3_22_0
  | v3_24_2
  deriving DecidableEq, Repr

namespace Version

/-- The versions, the newest first. -/
def all : List Version := [.v3_24_2, .v3_22_0, .v3_20_0, .v3_18_0]

/-- The place of a version among them, the oldest first. -/
def rank : Version → Nat
  | .v3_18_0 => 0
  | .v3_20_0 => 1
  | .v3_22_0 => 2
  | .v3_24_2 => 3

/-- Whether a version has what came with another one. -/
def includes (v since : Version) : Bool := since.rank ≤ v.rank

/-- The name of a version. -/
def name : Version → Text
  | .v3_18_0 => "3.18.0"
  | .v3_20_0 => "3.20.0"
  | .v3_22_0 => "3.22.0"
  | .v3_24_2 => "3.24.2"

/-- The version with a name. -/
def ofName? (t : Text) : Option Version := all.find? fun v => v.name == t

/-- The version that is used where none is asked for. -/
def standard : Version := .v3_24_2

end Version

/-- The constructors. -/
inductive Constructor
  | string
  | number
  | boolean
  | null
  | undefined
  | void
  | nan
  | date
  | any
  | unknown
  | never
  | literal
  | enum
  | object
  | array
  | tuple
  | record
  | union
  | discriminatedUnion
  | intersection
  | optional
  | nullable
  deriving DecidableEq, Repr

namespace Constructor

/-- All constructors. -/
def all : List Constructor :=
  [.string, .number, .boolean, .null, .undefined, .void, .nan, .date, .any, .unknown, .never,
    .literal, .enum, .object, .array, .tuple, .record, .union, .discriminatedUnion, .intersection,
    .optional, .nullable]

/-- The name of a constructor. -/
def name : Constructor → Text
  | .string => "string"
  | .number => "number"
  | .boolean => "boolean"
  | .null => "null"
  | .undefined => "undefined"
  | .void => "void"
  | .nan => "nan"
  | .date => "date"
  | .any => "any"
  | .unknown => "unknown"
  | .never => "never"
  | .literal => "literal"
  | .enum => "enum"
  | .object => "object"
  | .array => "array"
  | .tuple => "tuple"
  | .record => "record"
  | .union => "union"
  | .discriminatedUnion => "discriminatedUnion"
  | .intersection => "intersection"
  | .optional => "optional"
  | .nullable => "nullable"

/-- The version that brought a constructor in. -/
def since : Constructor → Version
  | .nan => .v3_20_0
  | _ => .v3_18_0

end Constructor

/-- The methods of every schema. -/
inductive CommonMethod
  | optional
  | nullable
  | nullish
  | default
  | array
  | or
  | and
  | describe
  | readonly
  deriving DecidableEq, Repr

namespace CommonMethod

/-- All methods of every schema. -/
def all : List CommonMethod :=
  [.optional, .nullable, .nullish, .default, .array, .or, .and, .describe, .readonly]

/-- The name of a method. -/
def name : CommonMethod → Text
  | .optional => "optional"
  | .nullable => "nullable"
  | .nullish => "nullish"
  | .default => "default"
  | .array => "array"
  | .or => "or"
  | .and => "and"
  | .describe => "describe"
  | .readonly => "readonly"

/-- The version that brought a method in. -/
def since : CommonMethod → Version
  | .readonly => .v3_22_0
  | _ => .v3_18_0

end CommonMethod

/-- The methods of string schemas. -/
inductive StringMethod
  | min
  | max
  | length
  | nonempty
  | format (format : TextFormat)
  | url
  | ip
  | datetime
  | time
  | regex
  | startsWith
  | endsWith
  | includes
  | trim
  | toLowerCase
  | toUpperCase
  deriving DecidableEq, Repr

namespace StringMethod

/-- All methods of string schemas. -/
def all : List StringMethod :=
  [.min, .max, .length, .nonempty, .format .uuid, .format .email, .format .cuid, .format .cuid2,
    .format .ulid, .format .nanoid, .format .emoji, .format .base64, .format .date,
    .format .duration, .url, .ip, .datetime, .time, .regex, .startsWith, .endsWith, .includes,
    .trim, .toLowerCase, .toUpperCase]

/-- The name of a method. -/
def name : StringMethod → Text
  | .min => "min"
  | .max => "max"
  | .length => "length"
  | .nonempty => "nonempty"
  | .format .uuid => "uuid"
  | .format .email => "email"
  | .format .cuid => "cuid"
  | .format .cuid2 => "cuid2"
  | .format .ulid => "ulid"
  | .format .nanoid => "nanoid"
  | .format .emoji => "emoji"
  | .format .base64 => "base64"
  | .format .date => "date"
  | .format .duration => "duration"
  | .url => "url"
  | .ip => "ip"
  | .datetime => "datetime"
  | .time => "time"
  | .regex => "regex"
  | .startsWith => "startsWith"
  | .endsWith => "endsWith"
  | .includes => "includes"
  | .trim => "trim"
  | .toLowerCase => "toLowerCase"
  | .toUpperCase => "toUpperCase"

/-- The version that brought a method in. -/
def since : StringMethod → Version
  | .format .emoji | .format .cuid2 | .datetime => .v3_20_0
  | .ip | .format .ulid | .includes | .toLowerCase | .toUpperCase => .v3_22_0
  | .format .base64 | .format .date | .time | .format .duration | .format .nanoid => .v3_24_2
  | _ => .v3_18_0

end StringMethod

/-- The methods of number schemas. -/
inductive NumberMethod
  | min
  | max
  | gt
  | gte
  | lt
  | lte
  | int
  | positive
  | negative
  | nonpositive
  | nonnegative
  | multipleOf
  | step
  | finite
  | safe
  deriving DecidableEq, Repr

namespace NumberMethod

/-- All methods of number schemas. -/
def all : List NumberMethod :=
  [.min, .max, .gt, .gte, .lt, .lte, .int, .positive, .negative, .nonpositive, .nonnegative,
    .multipleOf, .step, .finite, .safe]

/-- The name of a method. -/
def name : NumberMethod → Text
  | .min => "min"
  | .max => "max"
  | .gt => "gt"
  | .gte => "gte"
  | .lt => "lt"
  | .lte => "lte"
  | .int => "int"
  | .positive => "positive"
  | .negative => "negative"
  | .nonpositive => "nonpositive"
  | .nonnegative => "nonnegative"
  | .multipleOf => "multipleOf"
  | .step => "step"
  | .finite => "finite"
  | .safe => "safe"

/-- The version that brought a method in. -/
def since : NumberMethod → Version
  | .step | .finite => .v3_20_0
  | .safe => .v3_22_0
  | _ => .v3_18_0

end NumberMethod

/-- The methods of array schemas. -/
inductive ArrayMethod
  | min
  | max
  | length
  | nonempty
  deriving DecidableEq, Repr

namespace ArrayMethod

/-- All methods of array schemas. -/
def all : List ArrayMethod := [.min, .max, .length, .nonempty]

/-- The name of a method. -/
def name : ArrayMethod → Text
  | .min => "min"
  | .max => "max"
  | .length => "length"
  | .nonempty => "nonempty"

end ArrayMethod

/-- The methods of object schemas. -/
inductive ObjectMethod
  | strict
  | passthrough
  | strip
  | catchall
  | extend
  | merge
  | pickFields
  | omitFields
  | partialFields
  | requiredFields
  | keyof
  deriving DecidableEq, Repr

namespace ObjectMethod

/-- All methods of object schemas. -/
def all : List ObjectMethod :=
  [.strict, .passthrough, .strip, .catchall, .extend, .merge, .pickFields, .omitFields,
    .partialFields, .requiredFields, .keyof]

/-- The name of a method. -/
def name : ObjectMethod → Text
  | .strict => "strict"
  | .passthrough => "passthrough"
  | .strip => "strip"
  | .catchall => "catchall"
  | .extend => "extend"
  | .merge => "merge"
  | .pickFields => "pick"
  | .omitFields => "omit"
  | .partialFields => "partial"
  | .requiredFields => "required"
  | .keyof => "keyof"

end ObjectMethod

/-- The methods of enumerations. -/
inductive EnumMethod
  | extract
  | exclude
  deriving DecidableEq, Repr

namespace EnumMethod

/-- All methods of enumerations. -/
def all : List EnumMethod := [.extract, .exclude]

/-- The name of a method. -/
def name : EnumMethod → Text
  | .extract => "extract"
  | .exclude => "exclude"

/-- The version that brought a method in. -/
def since : EnumMethod → Version
  | _ => .v3_22_0

end EnumMethod

/-- The name of the only method of tuples. -/
def restName : Text := "rest"

/-- The name of the only method of optional and nullable schemas. -/
def unwrapName : Text := "unwrap"

/-- The name of the only method of schemas with a default. -/
def removeDefaultName : Text := "removeDefault"

namespace Version

/-- The constructor with a name that a version has. -/
def constructor? (v : Version) (name : Text) : Option Constructor :=
  Constructor.all.find? fun c => c.name == name && v.includes c.since

/-- The method of every schema with a name that a version has. -/
def commonMethod? (v : Version) (name : Text) : Option CommonMethod :=
  CommonMethod.all.find? fun m => m.name == name && v.includes m.since

/-- The string method with a name that a version has. -/
def stringMethod? (v : Version) (name : Text) : Option StringMethod :=
  StringMethod.all.find? fun m => m.name == name && v.includes m.since

/-- The number method with a name that a version has. -/
def numberMethod? (v : Version) (name : Text) : Option NumberMethod :=
  NumberMethod.all.find? fun m => m.name == name && v.includes m.since

/-- The array method with a name, which every version has. -/
def arrayMethod? (name : Text) : Option ArrayMethod :=
  ArrayMethod.all.find? fun m => m.name == name

/-- The object method with a name, which every version has. -/
def objectMethod? (name : Text) : Option ObjectMethod :=
  ObjectMethod.all.find? fun m => m.name == name

/-- The enumeration method with a name that a version has. -/
def enumMethod? (v : Version) (name : Text) : Option EnumMethod :=
  EnumMethod.all.find? fun m => m.name == name && v.includes m.since

/-- Puts a text before the first one that is not before it. -/
def insertSorted (t : Text) : List Text → List Text
  | [] => [t]
  | u :: rest => if u.before t then u :: insertSorted t rest else t :: u :: rest

/-- Texts in lexicographic order. -/
def sorted (texts : List Text) : List Text := texts.foldr insertSorted []

/-- The sorted names of those things that a version has. -/
def namesOf {α : Type} (v : Version) (all : List α) (name : α → Text) (since : α → Version) :
    List Text :=
  sorted ((all.filter fun x => v.includes (since x)).map name)

/-- The names of a version by heading. -/
def headings (v : Version) : List (Text × List Text) :=
  let first (_ : Text) : Version := .v3_18_0
  [(Text.ofString "constructors", namesOf v Constructor.all Constructor.name Constructor.since),
    (Text.ofString "common", namesOf v CommonMethod.all CommonMethod.name CommonMethod.since),
    (Kind.name .array, sorted (ArrayMethod.all.map ArrayMethod.name)),
    (Kind.name .default, namesOf v [removeDefaultName] id first),
    (Kind.name .enum, namesOf v EnumMethod.all EnumMethod.name EnumMethod.since),
    (Kind.name .nullable, namesOf v [unwrapName] id first),
    (Kind.name .number, namesOf v NumberMethod.all NumberMethod.name NumberMethod.since),
    (Kind.name .object, sorted (ObjectMethod.all.map ObjectMethod.name)),
    (Kind.name .optional, namesOf v [unwrapName] id first),
    (Kind.name .string, namesOf v StringMethod.all StringMethod.name StringMethod.since),
    (Kind.name .tuple, namesOf v [restName] id first)]

/-- The names of a version by heading. Headings without names are left out. -/
def vocabulary (v : Version) : List (Text × List Text) :=
  v.headings.filter fun (_, names) => !names.isEmpty

end Version

end Conform
