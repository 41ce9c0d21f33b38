import Conform.Datum.Display
import Conform.Datum.Merging
import Conform.Number.Reading

/-!
# Configuration

What can be configured, with its layout as nested entries. Entries that are missing or of the wrong
type leave an option at its standard; only an unknown policy and numbers out of range are refused.

## Main definitions

- `Config` — the options
- `Config.ofEntries`, `Config.toEntries` — the layout as entries
- `Config.merge` — a configuration with some entries replaced
-/

namespace Conform

/-- How the declarations of versions are fetched. -/
structure DeclarationOptions where
  enabled : Bool := true
  urlTemplate : Text := "https://cdn.jsdelivr.net/npm/zod@\x7bversion\x7d/lib/types.d.ts"
  timeout : Double := Double.nearestInt 10
  deriving DecidableEq

/-- Which version is used, and how its declarations are fetched. -/
structure ResolverOptions where
  defaultVersion : Text := Version.standard.name
  declarations : DeclarationOptions := {}
  deriving DecidableEq

/-- How requests are made. -/
structure RequestOptions where
  timeout : Double := Double.nearestInt 10
  followRedirects : Bool := true
  defaultHeaders : List (Text × Text) := []
  deriving DecidableEq

/-- A configuration. -/
structure Config where
  resolver : ResolverOptions := {}
  request : RequestOptions := {}
  /-- The policy of objects that have none of their own. -/
  unknownKeys : Policy := .strip
  /-- The file that metric samples are written to; without one they are kept in memory. -/
  exportPath : Option Text := none
  deriving DecidableEq

/-- Why entries give no configuration. -/
inductive ConfigFault
  | unknownPolicy (name : Text)
  | integerTooLarge
  | integerTooLong
  deriving DecidableEq, Repr

/-- The wording of a fault. -/
def ConfigFault.message : ConfigFault → Text
  | .unknownPolicy name =>
    "validator.unknown_keys must be one of strip, strict, passthrough, got " ++ name.quoted
  | .integerTooLarge => Abort.integerTooLarge.message
  | .integerTooLong => Number.tooLongMessage

namespace Config

/-- The entries of what is a mapping. -/
def entriesOf? (d : Option Datum) : Option Entries := d.bind Datum.entries?

/-- A datum as a text. -/
def textOf (d : Datum) : Except ConfigFault Text :=
  match d.asText? with
  | some t => .ok t
  | none => .error .integerTooLong

/-- The text under a key; an empty datum of any kind leaves the standard. -/
def textOption (entries : Entries) (key : Text) (standard : Text) : Except ConfigFault Text :=
  match entries.at? key with
  | some d => if d.truthy then textOf d else .ok standard
  | none => .ok standard

/-- The words that switch an option on. -/
def switchWords : List Text := ["1", "true", "yes", "on"].map Text.ofString

/-- The truth value under a key; null leaves the standard, and a text is on only if it is one of the
words for it. -/
def boolOption (entries : Entries) (key : Text) (standard : Bool) : Bool :=
  match entries.at? key with
  | none => standard
  | some (.scalar .null) => standard
  | some (.scalar (.text t)) => switchWords.contains t.strip.toLower
  | some d => d.truthy

/-- The number under a key; what does not read as a number leaves the standard. -/
def doubleOption (entries : Entries) (key : Text) (standard : Double) :
    Except ConfigFault Double :=
  match entries.at? key with
  | some (.scalar (.number n)) =>
    match n.toDouble? with
    | some d => .ok d
    | none => .error .integerTooLarge
  | some (.scalar (.bool b)) => .ok (Double.nearestInt (if b then 1 else 0))
  | some (.scalar (.text t)) => .ok ((Number.double? t).getD standard)
  | some (.bytes octets) =>
    .ok (((if octets.all (· < 128) then Number.double? octets else none)).getD standard)
  | _ => .ok standard

/-- The options for declarations. -/
def declarationOptions (value : Option Datum) : Except ConfigFault DeclarationOptions := do
  let standard : DeclarationOptions := {}
  let entries := (entriesOf? value).getD []
  let enabled := boolOption entries "enabled" standard.enabled
  let urlTemplate ← textOption entries "url_template" standard.urlTemplate
  let timeout ← doubleOption entries "timeout" standard.timeout
  return ⟨enabled, urlTemplate, timeout⟩

/-- The options for versions. -/
def resolverOptions (value : Option Datum) : Except ConfigFault ResolverOptions := do
  match entriesOf? value with
  | none => return {}
  | some entries =>
    let defaultVersion ← textOption entries "default_version" Version.standard.name
    let declarations ← declarationOptions (entries.at? "declarations")
    return ⟨defaultVersion, declarations⟩

/-- Headers with their names and values as texts. -/
def headersOf : List (Datum × Datum) → Except ConfigFault (List (Text × Text))
  | [] => .ok []
  | (key, d) :: rest => do
    let name ← textOf key
    let t ← textOf d
    return (name, t) :: (← headersOf rest)

/-- The options for requests. -/
def requestOptions (value : Option Datum) : Except ConfigFault RequestOptions := do
  match entriesOf? value with
  | none => return {}
  | some entries =>
    let standard : RequestOptions := {}
    let timeout ← doubleOption entries "timeout" standard.timeout
    let followRedirects := boolOption entries "follow_redirects" standard.followRedirects
    let headers ← headersOf ((entriesOf? (entries.at? "default_headers")).getD [])
    return ⟨timeout, followRedirects, Fields.ofList headers⟩

/-- The policy for undeclared keys. -/
def policyOption (value : Option Datum) : Except ConfigFault Policy := do
  match entriesOf? value with
  | none => return .strip
  | some entries =>
    let name ← textOption entries "unknown_keys" Policy.strip.name
    match Policy.ofName? name with
    | some policy => return policy
    | none => throw (.unknownPolicy name)

/-- The file for metric samples. -/
def exportPathOption (value : Option Datum) : Except ConfigFault (Option Text) := do
  match entriesOf? value with
  | none => return none
  | some entries =>
    match entries.at? "export_path" with
    | some d => if d.truthy then return some (← textOf d) else return none
    | none => return none

/-- The configuration that some entries give. -/
def ofEntries (entries : Entries) : Except ConfigFault Config := do
  let resolver ← resolverOptions (entries.at? "resolver")
  let request ← requestOptions (entries.at? "request")
  let unknownKeys ← policyOption (entries.at? "validator")
  let exportPath ← exportPathOption (entries.at? "telemetry")
  return ⟨resolver, request, unknownKeys, exportPath⟩

/-- The entries of a configuration, all options included. -/
def toEntries (c : Config) : Entries :=
  let resolver := Datum.named [
    ("default_version", .text c.resolver.defaultVersion),
    ("declarations", Datum.named [
      ("enabled", .bool c.resolver.declarations.enabled),
      ("url_template", .text c.resolver.declarations.urlTemplate),
      ("timeout", .float c.resolver.declarations.timeout)])]
  let request := Datum.named [
    ("timeout", .float c.request.timeout),
    ("follow_redirects", .bool c.request.followRedirects),
    ("default_headers", .mapping (c.request.defaultHeaders.map fun (k, t) => (.text k, .text t)))]
  let validator := Datum.named [("unknown_keys", .text c.unknownKeys.name)]
  let telemetry := Datum.named [("export_path", (c.exportPath.map Datum.text).getD .null)]
  Entries.named [("resolver", resolver), ("request", request), ("validator", validator),
    ("telemetry", telemetry)]

/-- A configuration with some entries replaced. -/
def merge (c : Config) (overrides : Entries) : Except ConfigFault Config :=
  if overrides.isEmpty then .ok c else ofEntries (c.toEntries.update overrides)

end Config

end Conform
