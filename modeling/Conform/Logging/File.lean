import Conform.Document.Reading

/-!
# Files about logging

A file about logging replaces parts of a standard configuration. One that is missing or that is no
document replaces nothing.

## Main definitions

- `LoggingFile.standard` — the standard configuration
- `LoggingFile.read` — the configuration with the parts of a file
-/

namespace Conform

namespace LoggingFile

/-- A list of texts. -/
def texts (items : List String) : Datum := .list (items.map fun t => .text (Text.ofString t))

/-- The standard configuration of logging: everything goes to the error stream, warnings of all
parts and information of this one. -/
def standard : Entries := Entries.named [
  ("version", .int 1),
  ("disable_existing_loggers", .bool false),
  ("formatters", Datum.named [("standard", Datum.named [
    ("format", .text "%(asctime)s | %(levelname)-8s | %(name)s | %(message)s")])]),
  ("handlers", Datum.named [("console", Datum.named [
    ("class", .text "logging.StreamHandler"),
    ("stream", .text "ext://sys.stderr"),
    ("formatter", .text "standard")])]),
  ("root", Datum.named [("level", .text "WARNING"), ("handlers", texts ["console"])]),
  ("loggers", Datum.named [("schemaprobe", Datum.named [
    ("level", .text "INFO"),
    ("handlers", texts ["console"]),
    ("propagate", .bool false)])])]

/-- The standard configuration with the parts replaced that a file holds. -/
def read (content : Option Text) : Except Document.Fault Entries :=
  match content with
  | none => .ok standard
  | some t =>
    match Datum.ofDocument t.withLineFeeds with
    | .error .malformed => .ok standard
    | .error fault => .error fault
    | .ok (.mapping entries) =>
      .ok (Entries.merge standard (entries.filter fun (key, _) => standard.has key))
    | .ok _ => .ok standard

end LoggingFile

end Conform
