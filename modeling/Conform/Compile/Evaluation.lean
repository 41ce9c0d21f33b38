import Conform.Schema.Building
import Conform.Source.Tree

/-!
# Evaluating schema expressions

The only free name is `z`. Its members are the constructors of a version, the members of schemas are
their methods, and both must be called; nothing else has members or can be called.

## Main definitions

- `EvaluationFault` — what can be wrong with an expression
- `Meaning` — what a part of an expression stands for
- `Expr.meaning` — the meaning of an expression
- `Expr.evaluate` — its value
-/

namespace Conform

/-- What is wrong with an expression. -/
inductive EvaluationFault
  | undefinedName (name : Text)
  | missingConstructor (name : Text) (version : Version)
  | missingMethod (name : Text) (kind : Kind) (version : Version)
  | memberOfFunction (label name : Text)
  | memberOfValue (label name : Text)
  | notCalled (label : Text)
  | notFunction (label : Text)
  | badDefinition (fault : DefinitionFault)
  | badArguments (name : Text) (error : BuildError)
  | badRegex (source respelled : Text) (failure : Regex.Failure)
  deriving DecidableEq

/-- Whether a fault is a reference to something that does not exist. -/
def EvaluationFault.isReference : EvaluationFault → Bool
  | .undefinedName _ => true
  | .missingConstructor _ _ => true
  | .missingMethod _ _ _ => true
  | .memberOfFunction _ _ => true
  | .memberOfValue _ _ => true
  | _ => false

/-- The wording of a fault. -/
def EvaluationFault.message : EvaluationFault → Text
  | .undefinedName name => name ++ " is not defined"
  | .missingConstructor name v => "z." ++ name ++ " is not available in version " ++ v.name
  | .missingMethod name kind v =>
    "'" ++ name ++ "' is not a " ++ kind.name ++ " schema method in version " ++ v.name
  | .memberOfFunction label name => "'" ++ label ++ "' has no property '" ++ name ++ "'"
  | .memberOfValue label name => "Cannot read property '" ++ name ++ "' of " ++ label
  | .notCalled label => "'" ++ label ++ "' must be called to produce a schema"
  | .notFunction label => label ++ " is not a function"
  | .badDefinition fault => fault.message
  | .badArguments name e => "Invalid arguments for " ++ name ++ "(): " ++ e.message
  | .badRegex source respelled failure =>
    "Invalid regular expression /" ++ source ++ "/: " ++ failure.message respelled

/-- Why an expression has no value. -/
inductive EvaluationError
  | fault (fault : EvaluationFault) (span : Span)
  | integerTooLarge
  | repetitionTooLarge
  | countTooLong (digits : Nat)
  | incompatibleFlags
  | tooDeep
  deriving DecidableEq

/-- What a part of an expression stands for. -/
inductive Meaning
  | value (v : Value)
  | root
  | constructor (c : Constructor)
  | method (name : Text) (m : Method)

/-- An evaluation, which can fail. -/
abbrev Evaluation := Except EvaluationError

/-- How deep expressions may be nested. -/
def Expr.evaluationLimit : Nat := 500

/-- The name of the only free name. -/
def rootName : Text := "z"

/-- Fails at a node. -/
def failEvaluation {α : Type} (fault : EvaluationFault) (node : Expr) : Evaluation α :=
  .error (.fault fault node.span)

/-- The pattern of a regular expression literal. -/
def patternOf (node : Expr) (source flags : Text) : Evaluation Pattern :=
  match Pattern.ofLiteral source flags with
  | .ok p => .ok p
  | .error .repetitionTooLarge => .error .repetitionTooLarge
  | .error (.countTooLong digits) => .error (.countTooLong digits)
  | .error .incompatibleFlags => .error .incompatibleFlags
  | .error .tooDeep => .error .tooDeep
  | .error failure => failEvaluation (.badRegex source (Pattern.respell source) failure) node

/-- The meaning of a member. -/
def memberMeaning (v : Version) (node target : Expr) (name : Text) : Meaning → Evaluation Meaning
  | .root =>
    match v.constructor? name with
    | some c => .ok (.constructor c)
    | none => failEvaluation (.missingConstructor name v) node
  | .value (.schema s) =>
    match s.method? v name with
    | some m => .ok (.method name m)
    | none => failEvaluation (.missingMethod name s.kind v) node
  | .constructor _ => failEvaluation (.memberOfFunction target.label name) node
  | .method _ _ => failEvaluation (.memberOfFunction target.label name) node
  | .value _ => failEvaluation (.memberOfValue target.label name) node

/-- The schema of a call, with refusals placed at the call. -/
def callResult (node : Expr) (name : Text) : Build Schema → Evaluation Meaning
  | .ok s => .ok (.value (.schema s))
  | .error (.definition fault) => failEvaluation (.badDefinition fault) node
  | .error .integerTooLarge => .error .integerTooLarge
  | .error .repetitionTooLarge => .error .repetitionTooLarge
  | .error e => failEvaluation (.badArguments name e) node

/-- The value that a meaning is; anything else has not been called. -/
def settled (node : Expr) : Meaning → Evaluation Value
  | .value value => .ok value
  | _ => failEvaluation (.notCalled node.label) node

mutual

/-- The meaning of an expression. Parts nested deeper than `budget` have none. -/
def Expr.meaning (v : Version) (budget : Nat) : Expr → Evaluation Meaning
  | node@(.identifier _ name) =>
    if name = rootName then .ok .root else failEvaluation (.undefinedName name) node
  | .literal _ value => .ok (.value (.scalar value))
  | node@(.regex _ source flags) => do return .value (.pattern (← patternOf node source flags))
  | .array _ elements => do
    if budget = 0 then throw .tooDeep
    return .value (.array (← valuesOf v (budget - 1) elements))
  | .object _ properties => do
    if budget = 0 then throw .tooDeep
    return .value (.object (Fields.ofList (← fieldsOf v (budget - 1) properties)))
  | node@(.member _ target name) => do
    if budget = 0 then throw .tooDeep
    memberMeaning v node target name (← target.meaning v (budget - 1))
  | node@(.call _ callee arguments) => do
    if budget = 0 then throw .tooDeep
    match ← callee.meaning v (budget - 1) with
    | .constructor c =>
      callResult node c.name (c.build (← valuesOf v (budget - 1) arguments))
    | .method name m => callResult node name (m.call (← valuesOf v (budget - 1) arguments))
    | _ => failEvaluation (.notFunction callee.label) node
termination_by structural e => e

/-- The values of expressions in a row. -/
def valuesOf (v : Version) (budget : Nat) : List Expr → Evaluation (List Value)
  | [] => .ok []
  | e :: es => do
    let value ← settled e (← e.meaning v budget)
    return value :: (← valuesOf v budget es)
termination_by structural es => es

/-- The values of properties in a row. -/
def fieldsOf (v : Version) (budget : Nat) :
    List (PropertyKey × Expr) → Evaluation (List (Text × Value))
  | [] => .ok []
  | (key, e) :: rest => do
    let value ← settled e (← e.meaning v budget)
    return (key.name, value) :: (← fieldsOf v budget rest)
termination_by structural ps => ps

end

/-- The value of an expression. -/
def Expr.evaluate (v : Version) (e : Expr) : Evaluation Value := do
  settled e (← e.meaning v Expr.evaluationLimit)

end Conform
