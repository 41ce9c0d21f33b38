import Conform.Datum.Basic

/-!
# Recursive updates

An update replaces the entries it names. Where both sides hold a mapping under a key, the mappings
are merged in the same way.

## Main definitions

- `Entries.update` — entries with an update
-/

namespace Conform

mutual

/-- What stands under a key after an update that gives it a datum. -/
def Datum.updated : (old : Option Datum) → (new : Datum) → Datum
  | some (.mapping entries), .mapping updates => .mapping (Entries.update entries updates)
  | _, new => new
termination_by structural _ new => new

/-- Entries with an update. A new key goes behind the others. -/
def Entries.update : (entries : Entries) → (updates : List (Datum × Datum)) → Entries
  | entries, [] => entries
  | entries, (key, new) :: rest =>
    Entries.update (Entries.insert key (Datum.updated (Entries.get? entries key) new) entries) rest
termination_by structural _ updates => updates

end

end Conform
