import Conform.Command.Basic
import Conform.Config.Loading
import Conform.Config.Overrides
import Conform.Folder
import Conform.Logging.Checking
import Conform.Logging.File
import Conform.Run.Session
import Conform.Sample.Generation
import Conform.Telemetry.Registry

/-!
# What commands give

A command prints one value and says whether all is well. Before it begins, the configuration is
read; whatever fails on the way is said on the error stream.

## Main definitions

- `Command.perform` — the value that a command prints
- `Setting` — what commands find outside
- `Invocation.perform` — what an invocation writes, and what it leaves behind
-/

namespace Conform

/-- The configuration of those who name no file. -/
def Config.standard : Config :=
  { request := { defaultHeaders := Fields.named [("Accept", "application/json")] } }

/-- A fault as the error of an action. -/
def raising {ε α : Type} (message : ε → Text) : Except ε α → Except Raised α
  | .ok a => .ok a
  | .error e => .error ⟨message e⟩

/-- The fields of samples; what is wrong with them is left out if nothing is. -/
def SampleResult.toFields (r : SampleResult) : List (Text × Value) :=
  Fields.named ([("success", .bool r.success), ("data", r.data.plainData)]
    ++ if r.success then []
      else [("error", .text SampleResult.summary),
        ("errors", .array (r.issues.map fun i => .object i.toFields))])

/-- What a command prints, and whether all is well. -/
structure Printed where
  value : Value
  fine : Bool

namespace Printed

/-- A failure to compile. -/
def uncompiled (details : List (String × Value)) : Printed where
  value := .object (Fields.named
    [("compiled", .bool false), ("error", .object (Fields.named details))])
  fine := false

/-- A version that is not supported. -/
def unknownVersion (name : Text) : Printed :=
  uncompiled [("kind", .text "UnknownVersion"), ("message", .text (unknownVersionMessage name))]

/-- A compile error. -/
def report (r : CompileReport) : Printed :=
  uncompiled [("kind", .text r.kind.name), ("message", .text r.message),
    ("line", .int (Int.ofNat r.position.line)), ("column", .int (Int.ofNat r.position.column))]

end Printed

/-- What commands work with: files, a configuration and collaborators. -/
structure Workplace (W : Type) where
  folder : Folder
  config : Config
  collaborators : Collaborators W

namespace Workplace

variable {W : Type}

/-- The text of a file. -/
def read (w : Workplace W) (name : Text) : Except Raised Text :=
  raising FileFault.message (w.folder.read name)

/-- The text of an origin. -/
def textOf (w : Workplace W) : TextOrigin → Except Raised Text
  | .file name => w.read name
  | .given t => .ok t

/-- Goes on with the version and the schema of a choice. Otherwise the failure is printed. -/
def withSchema (w : Workplace W) (choice : SchemaChoice)
    (next : Version → Schema → Action W Printed) : Action W Printed := do
  let wanted := choice.version.getD []
  let name := if wanted.isEmpty then w.config.resolver.defaultVersion else wanted
  match ← w.collaborators.resolve name with
  | none => return .unknownVersion name
  | some v =>
    let source ← (w.textOf choice.source : Except Raised Text)
    match Conform.compile v source with
    | .ok s => next v s
    | .error e => return .report (← w.collaborators.reportOf e)

/-- Runs a schema against an endpoint. -/
def run (w : Workplace W) (schema : SchemaChoice) (call : CallChoice) : Action W Printed := do
  let body ←
    match call.body with
    | some origin => do pure (some (← (w.textOf origin : Except Raised Text)))
    | none => pure none
  let source ← (w.textOf schema.source : Except Raised Text)
  let headers ← (raising ArgumentFault.message (Header.collect call.headers) : Except Raised _)
  let result ← Conform.run w.collaborators w.config {
    source
    version := schema.version
    endpoint := .text call.endpoint
    method := call.method
    headers := headers.map fun (name, t) => (name, .text t)
    body }
  return ⟨.object result.toFields, result.ending.isValid⟩

/-- Runs the schemas that a file stores. -/
def batch (w : Workplace W) (entries : Text) (version : Option Text) : Action W Printed := do
  let t ← (w.read entries : Except Raised Text)
  match Datum.ofDocument t with
  | .error fault => throw ⟨fault.message⟩
  | .ok (.list stored) =>
    let results ← runMany w.collaborators w.config version (stored.map StoredSchema.loose)
    return ⟨.array (results.map fun r => .object r.toFields),
      results.all fun r => r.result.ending.isValid⟩
  | .ok _ => throw ⟨"batch file must contain a list of schema entries"⟩

/-- Why a text is no JSON, for a file. -/
def documentFault (t : Text) : Json.Failure → Text
  | .tooDeep => "maximum recursion depth exceeded while decoding a JSON array from a unicode string"
  | failure => failure.message t

/-- Checks the value in a file against a schema. -/
def check (w : Workplace W) (schema : SchemaChoice) (data : Text) : Action W Printed := do
  let t ← (w.read data : Except Raised Text)
  let v ← (raising (documentFault t) (Value.ofJson t) : Except Raised Value)
  w.withSchema schema fun _ s => do
    let issues := s.validate (some w.config.unknownKeys.name) v
    return ⟨.object (validationFields issues), issues.isEmpty⟩

/-- Compiles a schema. -/
def compile (w : Workplace W) (schema : SchemaChoice) : Action W Printed :=
  w.withSchema schema fun v s =>
    return ⟨.object (Fields.named [("compiled", .bool true), ("version", .text v.name),
      ("kind", .text s.kind.name)]), true⟩

/-- Makes samples of a schema. -/
def sample (w : Workplace W) (schema : SchemaChoice) (settings : SampleSettings) :
    Action W Printed :=
  w.withSchema schema fun _ s => do
    let o ← (raising SettingsFault.message settings.check : Except Raised SampleOptions)
    let result ← (raising ArithmeticFault.message
      (s.sampleResult o (some w.config.unknownKeys.name)) : Except Raised SampleResult)
    w.collaborators.measure .samplesGenerated (Double.nearestInt (Int.ofNat o.count))
      [(Text.ofString "kind", s.kind.name)]
    return ⟨.object result.toFields, result.success⟩

/-- Lists the versions. -/
def versions (w : Workplace W) (vocabulary : Bool) : Printed where
  value := .array (Version.all.map fun v =>
    .object (Fields.named ([("version", .text v.name),
        ("default", .bool (v.name == w.config.resolver.defaultVersion))]
      ++ if vocabulary then
        [("vocabulary", .object (v.vocabulary.map fun (key, names) =>
          (key, .array (names.map fun t => .text t))))]
      else [])))
  fine := true

end Workplace

/-- The value that a command prints. -/
def Command.perform {W : Type} (w : Workplace W) : Command → Action W Printed
  | .run schema call => w.run schema call
  | .batch entries version => w.batch entries version
  | .check schema data => w.check schema data
  | .compile schema => w.compile schema
  | .sample schema settings => w.sample schema settings
  | .versions vocabulary => return w.versions vocabulary

/-- What commands find outside: files, a network, and the declarations of versions. -/
structure Setting (N : Type) where
  folder : Folder
  network : N
  transport : Transport N
  declarations : Declarations

/-- What an invocation writes, and what it leaves behind. -/
structure Outcome (N : Type) where
  code : Nat
  output : Text := []
  errors : Text := []
  session : Session N
  /-- The file that observations go to, if they are not only kept. -/
  exportPath : Option Text := none

namespace Outcome

variable {N : Type}

/-- The observations that are still kept, if they do not go to a file. -/
def kept? (o : Outcome N) : Option (List MetricSample) :=
  match o.exportPath with
  | some _ => none
  | none => some
      (o.session.samples.foldl MetricLog.add (MetricLog.ofLimit MetricLog.standardLimit)).samples

/-- The file that gets observations, with its new lines, if there are any. -/
def exported? (o : Outcome N) (time : Number) : Option (Text × List Text) :=
  match o.exportPath, o.session.samples with
  | some name, s :: samples => some (FileName.normal name, (s :: samples).map (·.line time))
  | _, _ => none

end Outcome

namespace Invocation

variable {N : Type}

/-- The wording of an error. -/
def errorLine (e : Raised) : Text := "[schemaprobe] error: " ++ e.message ++ "\n"

/-- Checks the configuration of logging. -/
def checkLogging (folder : Folder) (name : Text) : Except Raised Unit := do
  let content ← raising FileFault.message (folder.readIfPresent name)
  let entries ← raising Document.Fault.message (LoggingFile.read content)
  raising Logging.Fault.message (Logging.check entries)

/-- The configuration of an invocation. -/
def config (i : Invocation) (folder : Folder) : Except Raised Config := do
  match i.options.logging with
  | some name => checkLogging folder name
  | none => pure ()
  let overrides ← raising ArgumentFault.message (Override.collect i.options.overrides)
  match i.options.config with
  | some name =>
    let content ← raising FileFault.message (folder.readIfPresent name)
    raising LoadFault.message (Config.load name content overrides)
  | none => raising ConfigFault.message (Config.standard.merge overrides)

/-- The session in which an invocation begins. -/
def session (setting : Setting N) (c : Config) : Session N where
  network := setting.network
  resolver := { fetches := c.resolver.declarations.enabled }
  unrecordable := (c.exportPath.bind setting.folder.appendFault?).map fun f => ⟨f.message⟩

/-- What an invocation writes, and what it leaves behind. -/
def perform (setting : Setting N) (i : Invocation) : Outcome N :=
  match i.config setting.folder with
  | .error e => { code := 1, errors := errorLine e, session := session setting Config.standard }
  | .ok c =>
    match c.exportPath.bind setting.folder.makeFault? with
    | some f =>
      { code := 1, errors := errorLine ⟨f.message⟩, session := session setting Config.standard }
    | none =>
      let w : Workplace (Session N) := {
        folder := setting.folder
        config := c
        collaborators :=
          { Session.collaborators c setting.transport setting.declarations with save := none } }
      match i.command.perform w (session setting c) with
      | (.error e, s) =>
        { code := 1, errors := errorLine e, session := s, exportPath := c.exportPath }
      | (.ok printed, s) =>
        { code := if printed.fine then 0 else 1
          output := printed.value.toJson Json.Style.indented ++ "\n"
          session := s
          exportPath := c.exportPath }

end Invocation

/-- How the program is called. -/
def usageText : Text := Text.join "\n" [
  "usage: schemaprobe [-h] [--config FILE] [--set KEY=VALUE] [--log-config FILE] COMMAND ...",
  "commands: " ++ Text.join ", " (CommandName.all.map CommandName.name),
  ""]

/-- What is written when reading a command line ends early. -/
def CommandStop.outcome {N : Type} (setting : Setting N) : CommandStop → Outcome N
  | .help =>
    { code := 0, output := usageText, session := Invocation.session setting Config.standard }
  | .misuse =>
    { code := 2, errors := usageText, session := Invocation.session setting Config.standard }

/-- What the words of a command line write and leave behind. -/
def performWords {N : Type} (setting : Setting N) (words : List Text) : Outcome N :=
  match Invocation.ofWords words with
  | .ok i => i.perform setting
  | .error stop => stop.outcome setting

end Conform
