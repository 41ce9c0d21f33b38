import Conform.Command.Options
import Conform.Number.Reading
import Conform.Sample.Options

/-!
# Commands

What can be asked for on the command line, and how it is written there.

## Main definitions

- `Command` — what is asked for
- `Invocation` — a command with the options that all commands share
- `Invocation.ofWords` — the invocation that the words of a command line give
-/

namespace Conform

/-- Where a text comes from. -/
inductive TextOrigin
  | file (name : Text)
  | given (text : Text)
  deriving DecidableEq, Repr

/-- The source of a schema, and the version to compile it against. -/
structure SchemaChoice where
  source : TextOrigin
  version : Option Text
  deriving DecidableEq, Repr

/-- The request of a run. -/
structure CallChoice where
  endpoint : Text
  method : Text
  /-- Headers as they are written. -/
  headers : List Text
  body : Option TextOrigin
  deriving DecidableEq, Repr

/-- What is asked for. -/
inductive Command
  | run (schema : SchemaChoice) (call : CallChoice)
  | batch (entries : Text) (version : Option Text)
  | check (schema : SchemaChoice) (data : Text)
  | compile (schema : SchemaChoice)
  | sample (schema : SchemaChoice) (settings : SampleSettings)
  | versions (vocabulary : Bool)

/-- The options that all commands share. -/
structure GlobalOptions where
  /-- The configuration file; without one there is a standard configuration. -/
  config : Option Text := none
  /-- Overrides of the configuration as they are written. -/
  overrides : List Text := []
  logging : Option Text := none
  deriving DecidableEq, Repr

/-- A command with the options that all commands share. -/
structure Invocation where
  options : GlobalOptions
  command : Command

/-- What has been read of a command. -/
structure CommandDraft where
  source : Option TextOrigin := none
  version : Option Text := none
  endpoint : Option Text := none
  method : Text := "GET"
  headers : List Text := []
  body : Option TextOrigin := none
  operand : Option Text := none
  settings : SampleSettings := {}
  vocabulary : Bool := false

namespace CommandDraft

/-- Puts an origin in place of another one of the same kind. -/
def replace? : (old : Option TextOrigin) → (new : TextOrigin) → Option TextOrigin
  | some (.file _), .given _ => none
  | some (.given _), .file _ => none
  | _, new => some new

/-- A draft with a source; a file and a given source exclude each other. -/
def withSource (new : TextOrigin) (draft : CommandDraft) : Option CommandDraft :=
  (replace? draft.source new).map fun source => { draft with source := some source }

/-- A draft with a body; a file and a given body exclude each other. -/
def withBody (new : TextOrigin) (draft : CommandDraft) : Option CommandDraft :=
  (replace? draft.body new).map fun body => { draft with body := some body }

/-- A draft with an integer in its settings. -/
def withInteger (set : SampleSettings → Int → SampleSettings) (t : Text) (draft : CommandDraft) :
    Option CommandDraft :=
  (Number.integer? t).map fun n => { draft with settings := set draft.settings n }

/-- A draft with a double in its settings. -/
def withDouble (set : SampleSettings → Number → SampleSettings) (t : Text)
    (draft : CommandDraft) : Option CommandDraft :=
  (Number.double? t).map fun d => { draft with settings := set draft.settings (.float d) }

/-- The choice of a schema, which needs a source. -/
def schema? (draft : CommandDraft) : Option SchemaChoice :=
  draft.source.map fun source => ⟨source, draft.version⟩

end CommandDraft

/-- The commands by name. -/
inductive CommandName
  | run
  | batch
  | check
  | compile
  | sample
  | versions
  deriving DecidableEq, Repr

namespace CommandName

open CommandDraft

/-- The commands in the order of the help text. -/
def all : List CommandName := [.run, .batch, .check, .compile, .sample, .versions]

/-- A command as it is written. -/
def name : CommandName → Text
  | .run => "run"
  | .batch => "batch"
  | .check => "check"
  | .compile => "compile"
  | .sample => "sample"
  | .versions => "versions"

/-- The command with a name. -/
def ofName? (t : Text) : Option CommandName := all.find? fun c => c.name == t

/-- The option for the version. -/
def versionOptions : List (OptionSpec CommandDraft) := [
  ⟨"--version", .value fun t draft => some { draft with version := some t }⟩]

/-- The options for a schema. -/
def schemaOptions : List (OptionSpec CommandDraft) := [
  ⟨"--schema", .value fun t => withSource (.file t)⟩,
  ⟨"--source", .value fun t => withSource (.given t)⟩] ++ versionOptions

/-- The options for a request. -/
def requestOptions : List (OptionSpec CommandDraft) := [
  ⟨"--endpoint", .value fun t draft => some { draft with endpoint := some t }⟩,
  ⟨"--method", .value fun t draft => some { draft with method := t }⟩,
  ⟨"--header", .value fun t draft => some { draft with headers := draft.headers ++ [t] }⟩,
  ⟨"--body", .value fun t => withBody (.given t)⟩,
  ⟨"--body-file", .value fun t => withBody (.file t)⟩]

/-- The options for samples. -/
def sampleOptions : List (OptionSpec CommandDraft) := [
  ⟨"--count", .value (withInteger fun s n => { s with count := n })⟩,
  ⟨"--seed", .value fun t draft =>
    some { draft with settings := { draft.settings with seed := some (.text t) } }⟩,
  ⟨"--include-nulls", .flag fun draft =>
    { draft with settings := { draft.settings with includeNulls := true } }⟩,
  ⟨"--min-array-length", .value (withInteger fun s n => { s with minArrayLength := n })⟩,
  ⟨"--max-array-length", .value (withInteger fun s n => { s with maxArrayLength := n })⟩,
  ⟨"--min-string-length", .value (withInteger fun s n => { s with minStringLength := n })⟩,
  ⟨"--max-string-length", .value (withInteger fun s n => { s with maxStringLength := n })⟩,
  ⟨"--min-number", .value (withDouble fun s n => { s with minNumber := n })⟩,
  ⟨"--max-number", .value (withDouble fun s n => { s with maxNumber := n })⟩]

/-- A word that is kept as the operand of a command. -/
def operand : Operand CommandDraft := .one fun t draft => { draft with operand := some t }

/-- The grammar of a command. -/
def grammar : CommandName → Grammar CommandDraft
  | .run => ⟨schemaOptions ++ requestOptions, .none⟩
  | .batch => ⟨versionOptions, operand⟩
  | .check => ⟨schemaOptions, operand⟩
  | .compile => ⟨schemaOptions, .none⟩
  | .sample => ⟨schemaOptions ++ sampleOptions, .none⟩
  | .versions =>
    ⟨[⟨"--vocabulary", .flag fun draft => { draft with vocabulary := true }⟩], .none⟩

/-- The command that a draft gives, if nothing is missing. -/
def finish? : CommandName → CommandDraft → Option Command
  | .run, draft => do
    return .run (← draft.schema?) ⟨← draft.endpoint, draft.method, draft.headers, draft.body⟩
  | .batch, draft => return .batch (← draft.operand) draft.version
  | .check, draft => return .check (← draft.schema?) (← draft.operand)
  | .compile, draft => return .compile (← draft.schema?)
  | .sample, draft => return .sample (← draft.schema?) draft.settings
  | .versions, draft => some (.versions draft.vocabulary)

end CommandName

namespace GlobalOptions

/-- The grammar of the options that all commands share. -/
def grammar : Grammar GlobalOptions where
  options := [
    ⟨"--config", .value fun t o => some { o with config := some t }⟩,
    ⟨"--set", .value fun t o => some { o with overrides := o.overrides ++ [t] }⟩,
    ⟨"--log-config", .value fun t o => some { o with logging := some t }⟩]
  operand := .command

end GlobalOptions

namespace TextOrigin

/-- The file that a text comes from. -/
def fileNames : TextOrigin → List Text
  | .file name => [name]
  | .given _ => []

end TextOrigin

/-- The files that a command reads. -/
def Command.fileNames : Command → List Text
  | .run schema call => schema.source.fileNames ++ (call.body.map TextOrigin.fileNames).getD []
  | .batch entries _ => [entries]
  | .check schema data => data :: schema.source.fileNames
  | .compile schema => schema.source.fileNames
  | .sample schema _ => schema.source.fileNames
  | .versions _ => []

namespace Invocation

/-- The invocation that the words of a command line give. No word may be left over. -/
def ofWords (words : List Text) : Except CommandStop Invocation := do
  let outer ← GlobalOptions.grammar.read {} words
  match outer.command with
  | [] => throw .misuse
  | name :: rest =>
    match CommandName.ofName? name with
    | none => throw .misuse
    | some kind =>
      let inner ← kind.grammar.read {} rest
      match kind.finish? inner.settings with
      | none => throw .misuse
      | some command =>
        if outer.leftover || inner.leftover then throw .misuse
        return ⟨outer.settings, command⟩

/-- The files that an invocation reads. -/
def fileNames (i : Invocation) : List Text :=
  i.options.config.toList ++ i.options.logging.toList ++ i.command.fileNames

/-- An invocation with a seed for samples that have none. -/
def seeded (i : Invocation) (seed : Seed) : Invocation :=
  match i.command with
  | .sample schema settings =>
    { i with command := .sample schema { settings with seed := some (settings.seed.getD seed) } }
  | _ => i

end Invocation

end Conform
