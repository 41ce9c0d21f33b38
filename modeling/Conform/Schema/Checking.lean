import Conform.Number.Multiple
import Conform.Schema.Formats
import Conform.Schema.Scalar

/-!
# Checking values

A check walks a schema and a value together and notes every violation with the path to it, depth
first and in the order of declarations. The walk carries a context: the path to the current value,
the violations found so far, and the policy for undeclared keys. Only an integer beyond the range of
doubles stops a walk.

## Main definitions

- `Key`, `Issue` — steps of a path, and violations
- `Context`, `Walk` — the context and the steps of a walk
- `Schema.check` — the walk
- `Schema.validate` — the violations of a value at the root
-/

namespace Conform

/-- A step from a value to a part of it. -/
inductive Key
  | field (name : Text)
  | index (n : Nat)
  deriving DecidableEq, Repr

/-- A violation and where it is. -/
structure Issue where
  path : List Key
  message : Text
  deriving DecidableEq, Repr

/-- Why a walk stops. -/
inductive Abort
  | integerTooLarge
  deriving DecidableEq, Repr

/-- The wording of a stop. -/
def Abort.message : Abort → Text
  | .integerTooLarge => "int too large to convert to float"

/-- What a walk carries. -/
structure Context where
  path : List Key
  issues : List Issue
  policy : Policy

/-- A step of a walk. The context outlives a stop. -/
abbrev Walk := ExceptT Abort (StateM Context)

namespace Walk

/-- Notes a violation at the current value. -/
def note (message : Text) : Walk PUnit :=
  modify fun c => { c with issues := c.issues ++ [⟨c.path, message⟩] }

/-- Notes a violation if there is one. -/
def noteAny : Option Text → Walk PUnit
  | some message => note message
  | none => pure ()

/-- Notes that a value has the wrong type. -/
def noteType (expected : Text) (value : Value) : Walk PUnit :=
  match value with
  | .scalar .undefined => note "Required"
  | _ => note ("Expected " ++ expected ++ ", received " ++ value.typeName)

/-- Walks a part of the current value, and comes back even from a stop. -/
def within (key : Key) (part : Walk PUnit) : Walk PUnit := fun c =>
  let (result, d) := part.run.run { c with path := c.path ++ [key] }
  (result, { d with path := d.path.dropLast })

/-- The violations that a walk finds at the current path, which are not noted. -/
def attempt (walk : Walk PUnit) : Walk (List Issue) := fun c =>
  match walk.run.run { c with issues := [] } with
  | (.ok _, d) => (.ok d.issues, c)
  | (.error e, _) => (.error e, c)

/-- Notes violations found by an attempt. -/
def absorb (issues : List Issue) : Walk PUnit :=
  modify fun c => { c with issues := c.issues ++ issues }

end Walk

/-- A message of its own if it is not empty, else the given one. -/
def messageOr (own : Option Text) (message : Text) : Text :=
  match own with
  | some (c :: cs) => c :: cs
  | _ => message

/-- What a rule about lengths says about a length, where `unit` names what is counted. -/
def lengthFault (subject unit : Text) : LengthRule → Nat → Option Text
  | .min n, size =>
    if size < n then
      some (subject ++ " must contain at least " ++ Text.ofNat n ++ " " ++ unit)
    else none
  | .max n, size =>
    if size > n then
      some (subject ++ " must contain at most " ++ Text.ofNat n ++ " " ++ unit)
    else none
  | .length n, size =>
    if size ≠ n then
      some (subject ++ " must contain exactly " ++ Text.ofNat n ++ " " ++ unit)
    else none

/-- A rule about the length of a string. -/
def stringLengthFault (rule : LengthRule) (t : Text) : Option Text :=
  lengthFault "String" "character(s)" rule t.length

/-- A message unless a condition holds. -/
def faultUnless (ok : Bool) (message : Text) : Option Text := if ok then none else some message

/-- What a rule about strings says about a text; transformations say nothing. -/
def StringRule.fault : StringRule → Text → Option Text
  | .min n, t => stringLengthFault (.min n) t
  | .max n, t => stringLengthFault (.max n) t
  | .length n, t => stringLengthFault (.length n) t
  | .format f, t => faultUnless (f.accepts t) ("Invalid " ++ f.name)
  | .url, t => faultUnless (Internet.isUrl t) "Invalid url"
  | .ip version, t => faultUnless (IpVersion.accepts version t) "Invalid ip"
  | .datetime form, t => faultUnless (form.accepts t) "Invalid datetime"
  | .time fraction, t => faultUnless (fraction.accepts t) "Invalid time"
  | .regex p, t => faultUnless (p.search? t).isSome "Invalid"
  | .startsWith start, t =>
    faultUnless (t.startsWith start) ("Invalid input: must start with \"" ++ start ++ "\"")
  | .endsWith tail, t =>
    faultUnless (t.endsWith tail) ("Invalid input: must end with \"" ++ tail ++ "\"")
  | .includes needle position, t =>
    let message := "Invalid input: must include \"" ++ needle ++ "\""
    faultUnless (Text.includes (t.drop position) needle)
      (if position = 0 then message
       else message ++ " at one or more positions greater than or equal to "
        ++ Text.ofNat position)
  | .trim, _ => none
  | .toLowerCase, _ => none
  | .toUpperCase, _ => none

/-- The text that the rules after this one see. -/
def StringRule.transform : StringRule → Text → Text
  | .trim, t => t.strip
  | .toLowerCase, t => t.toLower
  | .toUpperCase, t => t.toUpper
  | _, t => t

/-- The violations of string rules in their order. -/
def stringFaults : List (Check StringRule) → Text → List Text
  | [], _ => []
  | check :: checks, t =>
    let rest := stringFaults checks (check.rule.transform t)
    match check.rule.fault t with
    | some message => messageOr check.message message :: rest
    | none => rest

/-- The nearest double of a number. -/
def Number.asDouble (n : Number) : Except Abort Double :=
  match n.toDouble? with
  | some d => .ok d
  | none => .error .integerTooLarge

/-- What a rule about numbers says about a number. -/
def NumberRule.fault : NumberRule → Number → Except Abort (Option Text)
  | .gte bound, n =>
    .ok (faultUnless (!n.below bound)
      ("Number must be greater than or equal to " ++ bound.display))
  | .gt bound, n =>
    .ok (faultUnless (!n.atMost bound) ("Number must be greater than " ++ bound.display))
  | .lte bound, n =>
    .ok (faultUnless (!bound.below n) ("Number must be less than or equal to " ++ bound.display))
  | .lt bound, n =>
    .ok (faultUnless (!bound.atMost n) ("Number must be less than " ++ bound.display))
  | .int, n => do
    let d ← n.asDouble
    return faultUnless d.isWhole "Expected integer, received float"
  | .multipleOf step, n => do
    let d ← n.asDouble
    let message := "Number must be a multiple of " ++ step.display
    if d.isInfinite then return some message
    else
      let s ← step.asDouble
      return faultUnless (d.isMultipleOf s) message
  | .finite, n => do
    let d ← n.asDouble
    return faultUnless (!d.isInfinite) "Number must be finite"

/-- Notes the violations of number rules in their order. -/
def checkNumber (n : Number) : List (Check NumberRule) → Walk PUnit
  | [] => pure ()
  | check :: checks => do
    match check.rule.fault n with
    | .error e => throw e
    | .ok fault => Walk.noteAny (fault.map (messageOr check.message))
    checkNumber n checks

/-- The options of an enumeration in a message. -/
def enumLabel (options : List Text) : Text :=
  Text.join " | " (options.map fun option => "'" ++ option ++ "'")

/-- The tags by which an option of a discriminated union is chosen. -/
def tagsOf (discriminator : Text) (option : Schema) : List Scalar :=
  match option.form with
  | .object shape _ _ _ =>
    match (Fields.get? shape discriminator).map Schema.form with
    | some (.literal value) => [value]
    | some (.enum options) => options.map .text
    | _ => []
  | _ => []

/-- The value of a field, absent if there is none. -/
def fieldValue (fields : List (Text × Value)) (key : Text) : Value :=
  (Fields.get? fields key).getD .undefined

/-- The fields that a shape does not declare. -/
def extraFields (shape : List (Text × Schema)) (fields : List (Text × Value)) :
    List (Text × Value) :=
  fields.filter fun (key, _) => !Fields.has shape key

/-- The message about undeclared keys. -/
def unrecognized (extra : List (Text × Value)) : Text :=
  "Unrecognized key(s) in object: " ++ Text.join ", " (extra.map fun (key, _) => "'" ++ key ++ "'")

/-- Walks each of some values, counting from an index. -/
def eachFrom (check : Value → Walk PUnit) : (index : Nat) → List Value → Walk PUnit
  | _, [] => pure ()
  | index, v :: vs => do
    Walk.within (.index index) (check v)
    eachFrom check (index + 1) vs

/-- Walks each of some fields. -/
def eachField (check : Text → Value → Walk PUnit) : List (Text × Value) → Walk PUnit
  | [] => pure ()
  | (key, v) :: rest => do
    Walk.within (.field key) (check key v)
    eachField check rest

mutual

/-- Walks a schema and a value. -/
def Schema.check : Schema → Value → Walk PUnit
  | .mk _ form, value => form.check value
termination_by structural s => s

/-- Walks a form and a value. -/
def Form.check : Form → Value → Walk PUnit
  | .string checks, value =>
    match value with
    | .scalar (.text t) => (stringFaults checks t).forM Walk.note
    | _ => Walk.noteType "string" value
  | .number checks, value =>
    match value with
    | .scalar (.number n) =>
      if n.isNaN then Walk.noteType "number" value else checkNumber n checks
    | _ => Walk.noteType "number" value
  | .boolean, value =>
    match value with
    | .scalar (.bool _) => pure ()
    | _ => Walk.noteType "boolean" value
  | .null, value =>
    match value with
    | .scalar .null => pure ()
    | _ => Walk.noteType "null" value
  | .undefined, value =>
    match value with
    | .scalar .undefined => pure ()
    | _ => Walk.note ("Expected undefined, received " ++ value.typeName)
  | .void, value =>
    match value with
    | .scalar .undefined => pure ()
    | _ => Walk.note ("Expected void, received " ++ value.typeName)
  | .nan, value =>
    match value with
    | .scalar (.number n) => if n.isNaN then pure () else Walk.noteType "nan" value
    | _ => Walk.noteType "nan" value
  | .date, value =>
    match value with
    | .date _ => pure ()
    | _ => Walk.noteType "date" value
  | .any, _ => pure ()
  | .unknown, _ => pure ()
  | .never, value => Walk.noteType "never" value
  | .literal expected, value =>
    match value with
    | .scalar .undefined => if expected = .undefined then pure () else Walk.note "Required"
    | _ =>
      if expected.accepts value then pure ()
      else Walk.note ("Invalid literal value, expected " ++ expected.rendered)
  | .enum options, value =>
    match value with
    | .scalar (.text t) =>
      if t ∈ options then pure ()
      else
        Walk.note ("Invalid enum value. Expected " ++ enumLabel options ++ ", received '"
          ++ t ++ "'")
    | _ => Walk.noteType (enumLabel options) value
  | .object shape unknownKeys catchall strictMessage, value =>
    match value with
    | .object fields => do
      checkShape shape fields
      let extra := extraFields shape fields
      if extra.isEmpty then pure ()
      else
        match catchall with
        | some rest => eachField (fun _ v => rest.check v) extra
        | none =>
          if unknownKeys.getD (← get).policy = .strict then
            Walk.note (messageOr strictMessage (unrecognized extra))
    | _ => Walk.noteType "object" value
  | .array element checks, value =>
    match value with
    | .array items => do
      checks.forM fun check =>
        Walk.noteAny ((lengthFault "Array" "element(s)" check.rule items.length).map
          (messageOr check.message))
      eachFrom element.check 0 items
    | _ => Walk.noteType "array" value
  | .tuple items rest, value =>
    match value with
    | .array values => do
      if values.length < items.length then
        Walk.note ("Array must contain at least " ++ Text.ofNat items.length ++ " element(s)")
      else
        if rest.isNone && values.length > items.length then
          Walk.note ("Array must contain at most " ++ Text.ofNat items.length ++ " element(s)")
        checkItems items values 0
        match rest with
        | some more => eachFrom more.check items.length (values.drop items.length)
        | none => pure ()
    | _ => Walk.noteType "array" value
  | .record key element, value =>
    match value with
    | .object fields =>
      eachField (fun name v => do key.check (.text name); element.check v) fields
    | _ => Walk.noteType "object" value
  | .union options, value => checkOptions options value none
  | .discriminatedUnion discriminator options, value =>
    match value with
    | .object fields => do
      let found ← checkTagged discriminator (fieldValue fields discriminator) options value
      if found then pure ()
      else
        let tags := options.flatMap (tagsOf discriminator)
        let expected := Text.join " | " (tags.map fun tag => "'" ++ tag.bare ++ "'")
        Walk.within (.field discriminator)
          (Walk.note ("Invalid discriminator value. Expected " ++ expected))
    | _ => Walk.noteType "object" value
  | .intersection left right, value => do
    left.check value
    right.check value
  | .optional inner, value =>
    match value with
    | .scalar .undefined => pure ()
    | _ => inner.check value
  | .nullable inner, value =>
    match value with
    | .scalar .null => pure ()
    | _ => inner.check value
  | .default inner fallback, value =>
    match value with
    | .scalar .undefined => inner.check fallback
    | _ => inner.check value
termination_by structural form => form

/-- Walks the declared fields of an object in the order of their declarations. -/
def checkShape : List (Text × Schema) → List (Text × Value) → Walk PUnit
  | [], _ => pure ()
  | (key, s) :: shape, fields => do
    Walk.within (.field key) (s.check (fieldValue fields key))
    checkShape shape fields
termination_by structural shape => shape

/-- Walks the values that have a schema of their own in a tuple. -/
def checkItems : List Schema → List Value → (index : Nat) → Walk PUnit
  | s :: items, v :: values, index => do
    Walk.within (.index index) (s.check v)
    checkItems items values (index + 1)
  | _, _, _ => pure ()
termination_by structural items => items

/-- Tries the options of a union; the violations of the first option with the fewest are noted. -/
def checkOptions : List Schema → Value → (best : Option (List Issue)) → Walk PUnit
  | [], _, best => Walk.absorb (best.getD [])
  | s :: options, value, best => do
    let issues ← Walk.attempt (s.check value)
    let better :=
      match best with
      | some old => if issues.length < old.length then issues else old
      | none => issues
    if better.isEmpty then pure () else checkOptions options value (some better)
termination_by structural options => options

/-- Walks the first option with a tag that the value has; false if there is none. -/
def checkTagged (discriminator : Text) (tag : Value) : List Schema → Value → Walk Bool
  | [], _ => pure false
  | s :: options, value => do
    if (tagsOf discriminator s).any fun candidate => candidate.accepts tag then
      s.check value
      return true
    else checkTagged discriminator tag options value
termination_by structural options => options

end

/-- The name of a policy. -/
def Policy.name : Policy → Text
  | .strip => "strip"
  | .strict => "strict"
  | .passthrough => "passthrough"

/-- The policy with a name. -/
def Policy.ofName? (name : Text) : Option Policy :=
  if name = Text.ofString "strip" then some .strip
  else if name = Text.ofString "strict" then some .strict
  else if name = Text.ofString "passthrough" then some .passthrough
  else none

/-- The violations of a value at the root, or why the walk stopped. -/
def Schema.issues (s : Schema) (policy : Policy) (value : Value) : Except Abort (List Issue) :=
  match (s.check value).run.run ⟨[], [], policy⟩ with
  | (.ok _, c) => .ok c.issues
  | (.error e, _) => .error e

/-- The single violation that stands for a failure of the check itself. -/
def rootIssue (message : Text) : List Issue := [⟨[], message⟩]

/-- The violations of a value under the named policy; no name or an empty one means `strip`. -/
def Schema.validate (s : Schema) (policyName : Option Text) (value : Value) : List Issue :=
  let name := messageOr policyName Policy.strip.name
  match Policy.ofName? name with
  | none => rootIssue ("Unsupported unknown-key policy '" ++ name ++ "'")
  | some policy =>
    match s.issues policy value with
    | .ok issues => issues
    | .error e => rootIssue ("Schema evaluation error: " ++ e.message)

/-- The name of the type of a value that stands where a schema should. -/
def Value.className : Value → Text
  | .scalar .undefined => "_Undefined"
  | .scalar .null => "NoneType"
  | .scalar (.bool _) => "bool"
  | .scalar (.number (.int _)) => "int"
  | .scalar (.number (.float _)) => "float"
  | .scalar (.text _) => "str"
  | .date _ => "date"
  | .array _ => "list"
  | .object _ => "dict"
  | .schema _ => "Schema"
  | .pattern _ => "Pattern"

/-- The name of the class of a value with the module that it is from. -/
def Value.classPath : Value → Text
  | .date _ => "datetime.date"
  | v => v.className

/-- The violations found when a value is used as a schema. -/
def Value.validateAsSchema (target : Value) (policyName : Option Text) (value : Value) :
    List Issue :=
  match target with
  | .schema s => s.validate policyName value
  | _ =>
    let name := messageOr policyName Policy.strip.name
    match Policy.ofName? name with
    | none => rootIssue ("Unsupported unknown-key policy '" ++ name ++ "'")
    | some _ =>
      rootIssue ("Schema evaluation error: " ++ target.className ++ " is not a schema")

end Conform
