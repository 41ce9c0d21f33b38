import Conform.Compile.Evaluation
import Conform.Source.Parsing

/-!
# Compiling schema sources

A source is read, evaluated against a version, and must give a schema.

## Main definitions

- `CompileError` — why a source gives no schema
- `CompileError.report` — kind, message and position of such an error
- `compile` — the schema of a source
-/

namespace Conform

/-- Why a source gives no schema. -/
inductive CompileError
  | notText
  | source (e : SourceError)
  | evaluation (e : EvaluationError)
  | notSchema (typeName : Text) (position : Position)
  deriving DecidableEq

/-- The two kinds of compile errors. -/
inductive CompileErrorKind
  | malformed
  | reference
  deriving DecidableEq, Repr

/-- The name of a kind. -/
def CompileErrorKind.name : CompileErrorKind → Text
  | .malformed => "Syntax"
  | .reference => "RuntimeReference"

/-- A compile error as it is reported. -/
structure CompileReport where
  kind : CompileErrorKind
  message : Text
  position : Position
  deriving DecidableEq, Repr

/-- The message with the position behind it. -/
def CompileReport.text (r : CompileReport) : Text :=
  r.message ++ " (line " ++ Text.ofNat r.position.line ++ ", column "
    ++ Text.ofNat r.position.column ++ ")"

/-- Errors about the size of a number, which are not reported with a position. -/
inductive SizeError
  /-- A hexadecimal number is too long to be written in decimal. -/
  | numberTooLong
  | integerTooLarge
  | repetitionTooLarge
  | countTooLong (digits : Nat)
  | incompatibleFlags
  deriving DecidableEq, Repr

/-- The wording of a size error. -/
def SizeError.message : SizeError → Text
  | .numberTooLong => LexicalFault.hexNumberTooLong.message
  | .integerTooLarge => Abort.integerTooLarge.message
  | .repetitionTooLarge => Regex.Failure.repetitionTooLarge.message []
  | .countTooLong digits => (Regex.Failure.countTooLong digits).message []
  | .incompatibleFlags => Regex.Failure.incompatibleFlags.message []

/-- The report on an expression that is nested too deeply. -/
def CompileReport.tooDeep : CompileReport :=
  ⟨.malformed, "Schema expression is nested too deeply", Position.start⟩

/-- How an error is reported: with a position or, for some errors about sizes, without. -/
def CompileError.report : CompileError → Except SizeError CompileReport
  | .notText => .ok ⟨.malformed, "Schema source must be a string", Position.start⟩
  | .source (.fault (.lexical .hexNumberTooLong) _) => .error .numberTooLong
  | .source (.fault fault position) => .ok ⟨.malformed, fault.message, position⟩
  | .source .tooDeep => .ok .tooDeep
  | .evaluation (.fault fault span) =>
    .ok ⟨if fault.isReference then .reference else .malformed, fault.message, span.first⟩
  | .evaluation .tooDeep => .ok .tooDeep
  | .evaluation .integerTooLarge => .error .integerTooLarge
  | .evaluation .repetitionTooLarge => .error .repetitionTooLarge
  | .evaluation (.countTooLong digits) => .error (.countTooLong digits)
  | .evaluation .incompatibleFlags => .error .incompatibleFlags
  | .notSchema typeName position =>
    .ok ⟨.malformed, "Schema must evaluate to a schema, got " ++ typeName, position⟩

/-- The schema of a source in a version. -/
def compile (v : Version) (source : Text) : Except CompileError Schema :=
  match Expr.ofSource source with
  | .error e => .error (.source e)
  | .ok tree =>
    match tree.evaluate v with
    | .error e => .error (.evaluation e)
    | .ok (.schema s) => .ok s
    | .ok value => .error (.notSchema value.typeName tree.span.first)

/-- The schema of a value that should be a source. -/
def compileValue (v : Version) : Value → Except CompileError Schema
  | .scalar (.text source) => compile v source
  | _ => .error .notText

end Conform
