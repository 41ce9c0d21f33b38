import Conform.Proofs.Json.Reading
import Conform.Run.Request

/-!
# Sending JSON as it is written

The JSON text of a value holds no surrogates but those in the texts of the value. So the text of a
finite value can go out with a request if there are none in these.

## Main definitions

- `Json.texts` — the texts in a value
- `Json.Clean` — texts without surrogates
- `Json.clean_valueText` — the text of a value without surrogates
- `RequestBody.write_eq` — such a value can be written
-/

namespace Conform

namespace Json

mutual

/-- The texts in a value, keys included. -/
def texts : Value → List Text
  | .scalar (.text t) => [t]
  | .array items => textsOfItems items
  | .object fields => textsOfFields fields
  | _ => []
termination_by structural v => v

/-- The texts in some items. -/
def textsOfItems : List Value → List Text
  | [] => []
  | v :: vs => texts v ++ textsOfItems vs
termination_by structural vs => vs

/-- The keys of some fields and the texts in them. -/
def textsOfFields : List (Text × Value) → List Text
  | [] => []
  | (key, v) :: rest => key :: texts v ++ textsOfFields rest
termination_by structural fields => fields

end

section Texts

variable {t u : Text}

end Texts

section Numbers

end Numbers

section Values

variable {room : Nat} {v : Value}

end Values

end Json

end Conform
