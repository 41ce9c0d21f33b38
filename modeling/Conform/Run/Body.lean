import Conform.Json.Reading
import Conform.Text.Blank
import Conform.Text.Case

/-!
# Request bodies

Some methods carry a body, which is given as JSON text.

## Main definitions

- `methodVerb`, `carriesBody` — methods in capitals, and whether they carry a body
- `RequestBody.content?` — the text to read
- `RequestBody.read` — the value of a body
-/

namespace Conform

/-- The methods that carry a body. -/
def bodyMethods : List Text := ["POST", "PUT", "PATCH"].map Text.ofString

/-- A method in capitals. -/
def methodVerb (method : Text) : Text := method.toUpper

/-- Whether a method in capitals carries a body. -/
def carriesBody (verb : Text) : Bool := bodyMethods.contains verb

namespace RequestBody

/-- The text to read: there is none for other methods, and a blank one does not count. -/
def content? (verb : Text) (body : Option Text) : Option Text :=
  match body with
  | some t => if carriesBody verb && !t.strip.isEmpty then some t else none
  | none => none

/-- The value of a body, null if there is nothing to read. -/
def read (verb : Text) (body : Option Text) : Except Json.Failure Value :=
  match content? verb body with
  | some t => Value.ofJson t
  | none => .ok .null

end RequestBody

end Conform
