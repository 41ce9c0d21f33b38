import Conform.Schema.Checking
import Conform.Schema.Vocabulary

/-!
# Building schemas

What constructors and methods do with their arguments. Arguments are values; a missing one counts as
absent or as null. The arguments of a call are checked in order, and the first fault is reported.

## Main definitions

- `DefinitionFault`, `BuildError` — why a call is refused
- `Constructor.build` — the schema of a constructor call
- `Method`, `Schema.method?`, `Method.call` — methods bound to a schema, and their calls
-/

namespace Conform

/-- What is wrong with an argument. -/
inductive DefinitionFault
  | badMessage
  | expectsNumber (name received : Text)
  | expectsSchema (name received : Text)
  | expectsOptions (name : Text)
  | expectsLength (name : Text)
  | badIpVersion
  | expectsRegex
  | expectsString (name : Text)
  | stepNotPositive
  | badLiteral (received : Text)
  | enumEmpty
  | enumNotStrings
  | expectsStrings (name : Text)
  | expectsShape (name : Text)
  | fieldNotSchema (name key received : Text)
  | expectsMask (name : Text)
  | expectsSchemas (name : Text)
  | tooFewSchemas (name : Text) (least : Nat)
  | expectsObjectSchema
  | badDiscriminator
  | optionNotObject
  | missingTag (discriminator : Text)
  | duplicateTag (tag : Scalar)
  deriving DecidableEq

/-- The wording of a fault. -/
def DefinitionFault.message : DefinitionFault → Text
  | .badMessage => "error message must be a string or \x7b message: string \x7d"
  | .expectsNumber name received => name ++ "() expects a number, received " ++ received
  | .expectsSchema name received => name ++ "() expects a schema, received " ++ received
  | .expectsOptions name => name ++ "() expects an options object"
  | .expectsLength name => name ++ "() expects a non-negative integer"
  | .badIpVersion => "ip() version must be \"v4\" or \"v6\""
  | .expectsRegex => "regex() expects a regular expression literal"
  | .expectsString name => name ++ "() expects a string"
  | .stepNotPositive => "multipleOf() expects a positive number"
  | .badLiteral received =>
    "literal() expects a string, number, boolean or null, received " ++ received
  | .enumEmpty => "enum() expects a non-empty array of strings"
  | .enumNotStrings => "enum() values must all be strings"
  | .expectsStrings name => name ++ "() expects an array of strings"
  | .expectsShape name => name ++ "() expects an object of schemas"
  | .fieldNotSchema name key received =>
    name ++ "() field '" ++ key ++ "' must be a schema, received " ++ received
  | .expectsMask name => name ++ "() expects an object such as \x7b field: true \x7d"
  | .expectsSchemas name => name ++ "() expects an array of schemas"
  | .tooFewSchemas name least =>
    name ++ "() expects at least " ++ Text.ofNat least ++ " schema(s)"
  | .expectsObjectSchema => "merge() expects an object schema"
  | .badDiscriminator => "discriminatedUnion() expects a discriminator key string"
  | .optionNotObject => "discriminatedUnion() options must be object schemas"
  | .missingTag discriminator =>
    "discriminatedUnion() option is missing a literal '" ++ discriminator ++ "' field"
  | .duplicateTag tag => "discriminatedUnion() has duplicate discriminator value " ++ tag.shown

/-- How many arguments a function takes. A method counts its receiver. -/
structure Arity where
  function : Text
  least : Nat
  most : Nat
  /-- The name of the argument that must be given. -/
  needed : Text
  deriving DecidableEq, Repr

/-- Why a call is refused. -/
inductive BuildError
  | definition (fault : DefinitionFault)
  | tooManyArguments (arity : Arity) (given : Nat)
  | missingArgument (arity : Arity)
  | integerTooLarge
  | repetitionTooLarge
  deriving DecidableEq

/-- A count of arguments in words. -/
def Arity.range (a : Arity) : Text :=
  if a.least = a.most then
    Text.ofNat a.most ++ (if a.most = 1 then " positional argument" else " positional arguments")
  else "from " ++ Text.ofNat a.least ++ " to " ++ Text.ofNat a.most ++ " positional arguments"

/-- The wording of a refusal. -/
def BuildError.message : BuildError → Text
  | .definition fault => fault.message
  | .tooManyArguments a given =>
    a.function ++ "() takes " ++ a.range ++ " but " ++ Text.ofNat given
      ++ (if given = 1 then " was given" else " were given")
  | .missingArgument a =>
    a.function ++ "() missing 1 required positional argument: '" ++ a.needed ++ "'"
  | .integerTooLarge => Abort.integerTooLarge.message
  | .repetitionTooLarge => Regex.Failure.repetitionTooLarge.message []

/-- Building, which can be refused. -/
abbrev Build := Except BuildError

/-- Refuses an argument. -/
def refuse {α : Type} (fault : DefinitionFault) : Build α := .error (.definition fault)

/-- Refuses a call with a wrong number of arguments, of which some are given. -/
def Arity.check (a : Arity) (given : Nat) : Build PUnit :=
  if given > a.most then .error (.tooManyArguments a given)
  else if given < a.least then .error (.missingArgument a)
  else .ok ()

/-- The argument at an index, absent if it is not given. -/
def argument (arguments : List Value) (index : Nat) : Value :=
  (arguments[index]?).getD .undefined

/-- The argument at an index, null if it is not given. -/
def argumentOrNull (arguments : List Value) (index : Nat) : Value :=
  (arguments[index]?).getD .null

/-- Whether a scalar counts as true. -/
def Scalar.truthy : Scalar → Bool
  | .undefined => false
  | .null => false
  | .bool b => b
  | .number n => !n.isZero
  | .text t => !t.isEmpty

/-- Whether a value counts as true. -/
def Value.truthy : Value → Bool
  | .scalar s => s.truthy
  | .array items => !items.isEmpty
  | .object fields => !fields.isEmpty
  | _ => true

/-- A message of its own, given as a string or in an object. -/
def messageArgument (v : Value) : Build (Option Text) :=
  match v with
  | .scalar .null => .ok none
  | .scalar .undefined => .ok none
  | .scalar (.text t) => .ok (some t)
  | .object fields =>
    match Fields.get? fields "message" with
    | some (.scalar (.text t)) => .ok (some t)
    | _ => refuse .badMessage
  | _ => refuse .badMessage

/-- An argument that must be a number. -/
def numberArgument (name : Text) (v : Value) : Build Number :=
  match v with
  | .scalar (.number n) => .ok n
  | _ => refuse (.expectsNumber name v.typeName)

/-- An argument that must be a schema. -/
def schemaArgument (name : Text) (v : Value) : Build Schema :=
  match v with
  | .schema s => .ok s
  | _ => refuse (.expectsSchema name v.typeName)

/-- An argument that must be a string. -/
def textArgument (name : Text) (v : Value) : Build Text :=
  match v with
  | .scalar (.text t) => .ok t
  | _ => refuse (.expectsString name)

/-- The fields of an options object, none if it is not given. -/
def optionsArgument (name : Text) (v : Value) : Build (List (Text × Value)) :=
  match v with
  | .scalar .null => .ok []
  | .scalar .undefined => .ok []
  | .object fields => .ok fields
  | _ => refuse (.expectsOptions name)

/-- An argument that must be a whole number, not below zero and in the range of doubles. -/
def lengthArgument (name : Text) (v : Value) : Build Nat := do
  let n ← numberArgument name v
  if n.below (.int 0) then refuse (.expectsLength name)
  else
    match n.toDouble? with
    | none => .error .integerTooLarge
    | some d =>
      if !d.isWhole then refuse (.expectsLength name)
      else
        match n with
        | .int k => .ok k.toNat
        | .float d => .ok (d.truncate?.getD 0).toNat

/-- The fraction of a second that a precision asks for. -/
def fractionArgument (options : List (Text × Value)) : Build Fraction :=
  match (Fields.get? options "precision").getD .null with
  | .scalar .null => .ok .optional
  | .scalar .undefined => .ok .optional
  | v => do
    let digits ← lengthArgument "precision" v
    if digits = 0 then .ok .absent
    else if digits ≥ Regex.countLimit then .error .repetitionTooLarge
    else .ok (.digits digits)

/-- Whether an option is set. -/
def isSet (options : List (Text × Value)) (key : Text) : Bool :=
  ((Fields.get? options key).map Value.truthy).getD false

/-- The message in an options object. -/
def messageOption (options : List (Text × Value)) : Build (Option Text) :=
  messageArgument ((Fields.get? options "message").getD .null)

/-- A rule with its message. -/
def ruleWith {Rule : Type} (rule : Rule) (message : Value) : Build (Check Rule) := do
  return ⟨rule, ← messageArgument message⟩

/-- The version of internet addresses in an options object. -/
def ipVersionOption (options : List (Text × Value)) : Build (Option IpVersion) :=
  match (Fields.get? options "version").getD .null with
  | .scalar .null => .ok none
  | .scalar (.text t) =>
    if t = Text.ofString "v4" then .ok (some .v4)
    else if t = Text.ofString "v6" then .ok (some .v6)
    else refuse .badIpVersion
  | _ => refuse .badIpVersion

/-- The rule that a call of a string method adds. -/
def StringMethod.rule (m : StringMethod) (args : List Value) : Build (Check StringRule) :=
  match m with
  | .min => do ruleWith (.min (← lengthArgument "min" (argument args 0))) (argumentOrNull args 1)
  | .max => do ruleWith (.max (← lengthArgument "max" (argument args 0))) (argumentOrNull args 1)
  | .length => do
    ruleWith (.length (← lengthArgument "length" (argument args 0))) (argumentOrNull args 1)
  | .nonempty => ruleWith (.min 1) (argumentOrNull args 0)
  | .format f => ruleWith (.format f) (argumentOrNull args 0)
  | .url => ruleWith .url (argumentOrNull args 0)
  | .ip => do
    let options ← optionsArgument "ip" (argumentOrNull args 0)
    let version ← ipVersionOption options
    return ⟨.ip version, ← messageOption options⟩
  | .datetime => do
    let options ← optionsArgument "datetime" (argumentOrNull args 0)
    let fraction ← fractionArgument options
    return ⟨.datetime ⟨fraction, isSet options "offset", isSet options "local"⟩,
      ← messageOption options⟩
  | .time => do
    let options ← optionsArgument "time" (argumentOrNull args 0)
    let fraction ← fractionArgument options
    return ⟨.time fraction, ← messageOption options⟩
  | .regex =>
    match argument args 0 with
    | .pattern p => ruleWith (.regex p) (argumentOrNull args 1)
    | _ => refuse .expectsRegex
  | .startsWith => do
    ruleWith (.startsWith (← textArgument "startsWith" (argument args 0))) (argumentOrNull args 1)
  | .endsWith => do
    ruleWith (.endsWith (← textArgument "endsWith" (argument args 0))) (argumentOrNull args 1)
  | .includes => do
    let needle ← textArgument "includes" (argument args 0)
    let options ← optionsArgument "includes" (argumentOrNull args 1)
    let position := (Fields.get? options "position").getD (.int 0)
    let start ← (if position.truthy then lengthArgument "position" position else pure 0)
    return ⟨.includes needle start, ← messageOption options⟩
  | .trim => .ok ⟨.trim, none⟩
  | .toLowerCase => .ok ⟨.toLowerCase, none⟩
  | .toUpperCase => .ok ⟨.toUpperCase, none⟩

/-- The greatest integer below which every integer is a double. -/
def maxSafeInteger : Int := 0x1FFFFFFFFFFFFF

/-- The rules that a call of a number method adds. -/
def NumberMethod.rules (m : NumberMethod) (args : List Value) : Build (List (Check NumberRule)) :=
  let bound (rule : Number → NumberRule) (name : Text) : Build (List (Check NumberRule)) := do
    let n ← numberArgument name (argument args 0)
    return [← ruleWith (rule n) (argumentOrNull args 1)]
  let fixed (rule : NumberRule) : Build (List (Check NumberRule)) := do
    return [← ruleWith rule (argumentOrNull args 0)]
  match m with
  | .min => bound .gte "min"
  | .max => bound .lte "max"
  | .gt => bound .gt "gt"
  | .gte => bound .gte "gte"
  | .lt => bound .lt "lt"
  | .lte => bound .lte "lte"
  | .int => fixed .int
  | .positive => fixed (.gt (.int 0))
  | .negative => fixed (.lt (.int 0))
  | .nonpositive => fixed (.lte (.int 0))
  | .nonnegative => fixed (.gte (.int 0))
  | .multipleOf | .step => do
    let step ← numberArgument "multipleOf" (argument args 0)
    if step.atMost (.int 0) then refuse .stepNotPositive
    else return [← ruleWith (.multipleOf step) (argumentOrNull args 1)]
  | .finite => fixed .finite
  | .safe => do
    let message ← messageArgument (argumentOrNull args 0)
    return [⟨.gte (.int (-maxSafeInteger)), message⟩, ⟨.lte (.int maxSafeInteger), message⟩]

/-- The rule that a call of an array method adds. -/
def ArrayMethod.rule (m : ArrayMethod) (args : List Value) : Build (Check LengthRule) :=
  match m with
  | .min => do ruleWith (.min (← lengthArgument "min" (argument args 0))) (argumentOrNull args 1)
  | .max => do ruleWith (.max (← lengthArgument "max" (argument args 0))) (argumentOrNull args 1)
  | .length => do
    ruleWith (.length (← lengthArgument "length" (argument args 0))) (argumentOrNull args 1)
  | .nonempty => ruleWith (.min 1) (argumentOrNull args 0)

/-- The fields of an object of schemas. -/
def shapeFields (name : Text) : List (Text × Value) → Build (List (Text × Schema))
  | [] => .ok []
  | (key, .schema s) :: rest => do return (key, s) :: (← shapeFields name rest)
  | (key, v) :: _ => refuse (.fieldNotSchema name key v.typeName)

/-- An argument that must be an object of schemas. -/
def shapeArgument (name : Text) (v : Value) : Build (List (Text × Schema)) :=
  match v with
  | .object fields => shapeFields name fields
  | _ => refuse (.expectsShape name)

/-- The keys that an object marks with true. -/
def maskArgument (name : Text) (v : Value) : Build (List Text) :=
  match v with
  | .object fields =>
    .ok (fields.filterMap fun (key, flag) =>
      match flag with
      | .scalar (.bool true) => some key
      | _ => none)
  | _ => refuse (.expectsMask name)

/-- The keys that an object marks with true; null stands for all the given keys. -/
def maskOrAll (name : Text) (all : List Text) (v : Value) : Build (List Text) :=
  match v with
  | .scalar .null => .ok all
  | v => maskArgument name v

/-- An argument that must be an array of at least some schemas. -/
def schemasArgument (name : Text) (least : Nat) (v : Value) : Build (List Schema) :=
  match v with
  | .array items => do
    let schemas ← items.mapM (schemaArgument name)
    if schemas.length < least then refuse (.tooFewSchemas name least) else return schemas
  | _ => refuse (.expectsSchemas name)

/-- An enumeration of at least one string. -/
def enumOf (options : List Text) : Build Schema :=
  if options.isEmpty then refuse .enumEmpty else .ok (.plain (.enum options))

/-- The strings of an array that holds nothing else. -/
def stringsOnly? (items : List Value) : Option (List Text) :=
  items.mapM fun
    | .scalar (.text t) => some t
    | _ => none

/-- The strings among the items of an array. -/
def stringsAmong (items : List Value) : List Text :=
  items.filterMap fun
    | .scalar (.text t) => some t
    | _ => none

/-- A schema without the optional wrappers around it. -/
def Schema.required : Schema → Schema
  | .mk _ (.optional inner) => inner.required
  | s => s
termination_by structural s => s

/-- The parts of an object schema. -/
structure ObjectParts where
  description : Option Text
  shape : List (Text × Schema)
  unknownKeys : Option Policy
  catchall : Option Schema
  strictMessage : Option Text

namespace ObjectParts

/-- The schema with these parts. -/
def toSchema (o : ObjectParts) : Schema :=
  .mk o.description (.object o.shape o.unknownKeys o.catchall o.strictMessage)

/-- The parts of a schema, if it is an object schema. -/
def ofSchema? : Schema → Option ObjectParts
  | .mk description (.object shape unknownKeys catchall strictMessage) =>
    some ⟨description, shape, unknownKeys, catchall, strictMessage⟩
  | _ => none

/-- The declared keys. -/
def keys (o : ObjectParts) : List Text := o.shape.map (·.1)

/-- The object with further fields, which replace those of the same key. -/
def extend (o : ObjectParts) (shape : List (Text × Schema)) : ObjectParts :=
  { o with shape := Fields.merge o.shape shape }

/-- The fields of two objects; all else but the description comes from the second. -/
def merge (o other : ObjectParts) : ObjectParts :=
  { other with description := o.description, shape := Fields.merge o.shape other.shape }

/-- The object with the listed fields only. -/
def pick (o : ObjectParts) (keys : List Text) : ObjectParts :=
  { o with shape := o.shape.filter fun (key, _) => keys.contains key }

/-- The object without the listed fields. -/
def dropFields (o : ObjectParts) (keys : List Text) : ObjectParts :=
  { o with shape := o.shape.filter fun (key, _) => !keys.contains key }

/-- The object with the listed fields made optional. -/
def makeOptional (o : ObjectParts) (keys : List Text) : ObjectParts :=
  { o with shape := o.shape.map fun (key, s) => (key, if keys.contains key then s.optional else s) }

/-- The object with the listed fields no longer optional. -/
def makeRequired (o : ObjectParts) (keys : List Text) : ObjectParts :=
  { o with shape := o.shape.map fun (key, s) => (key, if keys.contains key then s.required else s) }

end ObjectParts

/-- The schema that a call of an object method gives. -/
def ObjectMethod.call (m : ObjectMethod) (o : ObjectParts) (args : List Value) : Build Schema :=
  match m with
  | .strict => do
    let message ← messageArgument (argumentOrNull args 0)
    return { o with unknownKeys := some .strict, strictMessage := message }.toSchema
  | .passthrough => .ok { o with unknownKeys := some .passthrough }.toSchema
  | .strip => .ok { o with unknownKeys := some .strip }.toSchema
  | .catchall => do
    let s ← schemaArgument "catchall" (argument args 0)
    return { o with catchall := some s }.toSchema
  | .extend => do return (o.extend (← shapeArgument "extend" (argument args 0))).toSchema
  | .merge =>
    match argument args 0 with
    | .schema s =>
      match ObjectParts.ofSchema? s with
      | some other => .ok (o.merge other).toSchema
      | none => refuse .expectsObjectSchema
    | _ => refuse .expectsObjectSchema
  | .pickFields => do return (o.pick (← maskArgument "pick" (argument args 0))).toSchema
  | .omitFields => do return (o.dropFields (← maskArgument "omit" (argument args 0))).toSchema
  | .partialFields => do
    return (o.makeOptional (← maskOrAll "partial" o.keys (argumentOrNull args 0))).toSchema
  | .requiredFields => do
    return (o.makeRequired (← maskOrAll "required" o.keys (argumentOrNull args 0))).toSchema
  | .keyof => enumOf o.keys

/-- The enumeration that a call of an enumeration method gives. -/
def EnumMethod.call (m : EnumMethod) (options : List Text) (args : List Value) : Build Schema :=
  match argument args 0 with
  | .array items =>
    let selected := stringsAmong items
    match m with
    | .extract => enumOf (options.filter selected.contains)
    | .exclude => enumOf (options.filter fun option => !selected.contains option)
  | _ => refuse (.expectsStrings m.name)

/-- The schema that a call of a method of every schema gives. -/
def CommonMethod.call (m : CommonMethod) (s : Schema) (args : List Value) : Build Schema :=
  match m with
  | .optional => .ok s.optional
  | .nullable => .ok s.nullable
  | .nullish => .ok s.nullable.optional
  | .default => .ok (.plain (.default s (argument args 0)))
  | .array => .ok (.plain (.array s []))
  | .or => do return .plain (.union [s, ← schemaArgument "or" (argument args 0)])
  | .and => do return .plain (.intersection s (← schemaArgument "and" (argument args 0)))
  | .describe => do return s.describe (← textArgument "describe" (argument args 0))
  | .readonly => .ok s

/-- A method of a schema, with what it needs of the schema. -/
inductive Method
  | common (receiver : Schema) (m : CommonMethod)
  | string (description : Option Text) (checks : List (Check StringRule)) (m : StringMethod)
  | number (description : Option Text) (checks : List (Check NumberRule)) (m : NumberMethod)
  | array (description : Option Text) (element : Schema) (checks : List (Check LengthRule))
      (m : ArrayMethod)
  | object (parts : ObjectParts) (m : ObjectMethod)
  | enum (options : List Text) (m : EnumMethod)
  | rest (items : List Schema)
  | unwrapOptional (inner : Schema)
  | unwrapNullable (inner : Schema)
  | removeDefault (inner : Schema)

/-- The method with a name that the kind of a schema has in a version. -/
def Schema.ownMethod? (v : Version) (s : Schema) (name : Text) : Option Method :=
  match s with
  | .mk description (.string checks) => (v.stringMethod? name).map (.string description checks)
  | .mk description (.number checks) => (v.numberMethod? name).map (.number description checks)
  | .mk description (.array element checks) =>
    (Version.arrayMethod? name).map (.array description element checks)
  | .mk description (.object shape unknownKeys catchall strictMessage) =>
    (Version.objectMethod? name).map
      (.object ⟨description, shape, unknownKeys, catchall, strictMessage⟩)
  | .mk _ (.enum options) => (v.enumMethod? name).map (.enum options)
  | .mk _ (.tuple items _) => if name = restName then some (.rest items) else none
  | .mk _ (.optional inner) => if name = unwrapName then some (.unwrapOptional inner) else none
  | .mk _ (.nullable inner) => if name = unwrapName then some (.unwrapNullable inner) else none
  | .mk _ (.default inner _) =>
    if name = removeDefaultName then some (.removeDefault inner) else none
  | _ => none

/-- The method with a name that a schema has in a version. -/
def Schema.method? (v : Version) (s : Schema) (name : Text) : Option Method :=
  match v.commonMethod? name with
  | some m => some (.common s m)
  | none => s.ownMethod? v name

namespace Method

/-- The arity of a method of every schema. -/
def commonArity : CommonMethod → Arity
  | .default => ⟨"Schema.default", 1, 2, []⟩
  | .or => ⟨"Schema.or_", 2, 2, "other"⟩
  | .and => ⟨"Schema.and_", 2, 2, "other"⟩
  | .describe => ⟨"Schema.describe", 2, 2, "text"⟩
  | m => ⟨"Schema." ++ m.name, 1, 1, []⟩

/-- How many arguments a string method takes at most, its receiver counted. -/
def stringMost : StringMethod → Nat
  | .min | .max | .length | .regex | .startsWith | .endsWith | .includes => 3
  | .trim | .toLowerCase | .toUpperCase => 1
  | _ => 2

/-- How many arguments a number method takes at most, its receiver counted. -/
def numberMost : NumberMethod → Nat
  | .min | .max | .gt | .gte | .lt | .lte | .multipleOf | .step => 3
  | _ => 2

/-- How many arguments an object method takes at most, its receiver counted. -/
def objectMost : ObjectMethod → Nat
  | .passthrough | .strip | .keyof => 1
  | _ => 2

/-- The arity of a method. -/
def arity : Method → Arity
  | .common _ m => commonArity m
  | .string _ _ m => ⟨"StringSchema." ++ m.name, 1, stringMost m, []⟩
  | .number _ _ m => ⟨"NumberSchema." ++ m.name, 1, numberMost m, []⟩
  | .array _ _ _ m => ⟨"ArraySchema." ++ m.name, 1, if m = .nonempty then 2 else 3, []⟩
  | .object _ m => ⟨"ObjectSchema." ++ m.name, 1, objectMost m, []⟩
  | .enum _ m => ⟨"EnumSchema." ++ m.name, 1, 2, []⟩
  | .rest _ => ⟨"TupleSchema.rest", 1, 2, []⟩
  | .unwrapOptional _ => ⟨"OptionalSchema.unwrap", 1, 1, []⟩
  | .unwrapNullable _ => ⟨"NullableSchema.unwrap", 1, 1, []⟩
  | .removeDefault _ => ⟨"DefaultSchema.remove_default", 1, 1, []⟩

/-- The schema that a call gives, whatever the number of arguments. -/
def apply (m : Method) (args : List Value) : Build Schema :=
  match m with
  | .common s m => m.call s args
  | .string description checks m => do
    return .mk description (.string (checks ++ [← m.rule args]))
  | .number description checks m => do
    return .mk description (.number (checks ++ (← m.rules args)))
  | .array description element checks m => do
    return .mk description (.array element (checks ++ [← m.rule args]))
  | .object o m => m.call o args
  | .enum options m => m.call options args
  | .rest items => do
    return .plain (.tuple items (some (← schemaArgument "rest" (argument args 0))))
  | .unwrapOptional inner => .ok inner
  | .unwrapNullable inner => .ok inner
  | .removeDefault inner => .ok inner

/-- The schema that a call gives. -/
def call (m : Method) (args : List Value) : Build Schema := do
  m.arity.check (args.length + 1)
  m.apply args

end Method

namespace Constructor

/-- The arity of a constructor. -/
def arity : Constructor → Arity
  | .literal | .enum | .optional | .nullable => ⟨"<lambda>", 0, 1, []⟩
  | .object => ⟨"_object", 0, 1, []⟩
  | .array => ⟨"_array", 0, 1, []⟩
  | .tuple => ⟨"_tuple", 0, 2, []⟩
  | .record => ⟨"_record", 0, 2, []⟩
  | .union => ⟨"_union", 0, 1, []⟩
  | .discriminatedUnion => ⟨"_discriminated_union", 0, 2, []⟩
  | .intersection => ⟨"_intersection", 0, 2, []⟩
  | _ => ⟨"<lambda>", 0, 0, []⟩

/-- Refuses options that are no objects, have no tags, or share one with an option before. -/
def checkTags (discriminator : Text) : (seen : List Scalar) → List Schema → Build PUnit
  | _, [] => .ok ()
  | seen, option :: options => do
    match option.form with
    | .object _ _ _ _ =>
      match tagsOf discriminator option with
      | [] => refuse (.missingTag discriminator)
      | tags => checkTags discriminator (← addTags seen tags) options
    | _ => refuse .optionNotObject
where
  /-- Adds tags to those seen, unless one of them clashes. -/
  addTags : (seen : List Scalar) → List Scalar → Build (List Scalar)
    | seen, [] => .ok seen
    | seen, tag :: tags =>
      if seen.any fun old => old.clashes tag then refuse (.duplicateTag tag)
      else addTags (seen ++ [tag]) tags

/-- The schema that a constructor gives, whatever the number of arguments. -/
def apply (c : Constructor) (args : List Value) : Build Schema :=
  match c with
  | .string => .ok (.plain (.string []))
  | .number => .ok (.plain (.number []))
  | .boolean => .ok (.plain .boolean)
  | .null => .ok (.plain .null)
  | .undefined => .ok (.plain .undefined)
  | .void => .ok (.plain .void)
  | .nan => .ok (.plain .nan)
  | .date => .ok (.plain .date)
  | .any => .ok (.plain .any)
  | .unknown => .ok (.plain .unknown)
  | .never => .ok (.plain .never)
  | .literal =>
    match argument args 0 with
    | .scalar s => .ok (.plain (.literal s))
    | v => refuse (.badLiteral v.typeName)
  | .enum =>
    match argument args 0 with
    | .array (item :: items) =>
      match stringsOnly? (item :: items) with
      | some options => .ok (.plain (.enum options))
      | none => refuse .enumNotStrings
    | _ => refuse .enumEmpty
  | .object => do
    let shape ←
      match argumentOrNull args 0 with
      | .scalar .null => pure []
      | v => shapeArgument "object" v
    return .plain (.object shape none none none)
  | .array => do return .plain (.array (← schemaArgument "array" (argument args 0)) [])
  | .tuple => do
    let items ← schemasArgument "tuple" 0 (argument args 0)
    let rest ←
      match argumentOrNull args 1 with
      | .scalar .null => pure none
      | v => do pure (some (← schemaArgument "tuple" v))
    return .plain (.tuple items rest)
  | .record =>
    match argument args 1 with
    | .scalar .undefined => do
      return .plain (.record (.plain (.string [])) (← schemaArgument "record" (argument args 0)))
    | second => do
      let key ← schemaArgument "record" (argument args 0)
      return .plain (.record key (← schemaArgument "record" second))
  | .union => do return .plain (.union (← schemasArgument "union" 1 (argument args 0)))
  | .discriminatedUnion =>
    match argument args 0 with
    | .scalar (.text discriminator) => do
      let options ← schemasArgument "discriminatedUnion" 1 (argument args 1)
      checkTags discriminator [] options
      return .plain (.discriminatedUnion discriminator options)
    | _ => refuse .badDiscriminator
  | .intersection => do
    let left ← schemaArgument "intersection" (argument args 0)
    return .plain (.intersection left (← schemaArgument "intersection" (argument args 1)))
  | .optional => do return (← schemaArgument "optional" (argument args 0)).optional
  | .nullable => do return (← schemaArgument "nullable" (argument args 0)).nullable

/-- The schema that a constructor call gives. -/
def build (c : Constructor) (args : List Value) : Build Schema := do
  c.arity.check args.length
  c.apply args

end Constructor

end Conform
