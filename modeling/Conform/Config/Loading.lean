import Conform.Config.Basic
import Conform.Config.Path
import Conform.Document.Reading

/-!
# Configuration files

A configuration file is a document that holds a mapping.

## Main definitions

- `ConfigFile.read` — the entries in a configuration file
- `Config.load` — the configuration in a file
-/

namespace Conform

/-- Why a file gives no configuration. -/
inductive LoadFault
  | missing (name : Text)
  | malformed (name : Text)
  | content (fault : Document.Fault)
  | notMapping
  | config (fault : ConfigFault)
  deriving DecidableEq, Repr

/-- The wording of a fault. -/
def LoadFault.message : LoadFault → Text
  | .missing name => "configuration file not found: " ++ FileName.normal name
  | .malformed name => "failed to parse configuration " ++ FileName.normal name
  | .content fault => fault.message
  | .notMapping => "configuration root must be a mapping"
  | .config fault => fault.message

/-- The entries in the content of a file. An empty document has none. -/
def ConfigFile.read (name : Text) (content : Option Text) : Except LoadFault Entries :=
  match content with
  | none => .error (.missing name)
  | some t =>
    match Datum.ofDocument t.withLineFeeds with
    | .error .malformed => .error (.malformed name)
    | .error fault => .error (.content fault)
    | .ok (.scalar .null) => .ok []
    | .ok (.mapping entries) => .ok entries
    | .ok _ => .error .notMapping

/-- The configuration in the content of a file, with some entries replaced. -/
def Config.load (name : Text) (content : Option Text) (overrides : Entries) :
    Except LoadFault Config := do
  let entries ← ConfigFile.read name content
  match Config.ofEntries entries with
  | .error fault => throw (.config fault)
  | .ok c =>
    match c.merge overrides with
    | .error fault => throw (.config fault)
    | .ok c => return c

end Conform
