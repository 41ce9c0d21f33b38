import Conform.Json.Token
import Conform.Schema.Basic
import Conform.Source.Position

/-!
# Reading JSON

The tokens are read one by one. What has been read so far is kept with the arrays and objects that
are still open, and decides what may come next.

## Main definitions

- `Json.Frame`, `Json.State` — what has been read
- `Json.State.step` — reading one token
- `Value.ofJson` — the value of a JSON text
- `Json.Failure.message` — the wording of a refusal
-/

namespace Conform.Json

/-- An array or object that is still open; what it holds so far comes last first. -/
inductive Frame
  | items (done : List Value)
  | fields (done : List (Text × Value)) (key : Text)

/-- What has been read, by what may come next. -/
inductive State
  | value (frames : List Frame)
  | firstItem (frames : List Frame)
  | firstKey (frames : List Frame)
  | key (done : List (Text × Value)) (frames : List Frame)
  | colon (done : List (Text × Value)) (key : Text) (frames : List Frame)
  | after (v : Value) (frames : List Frame)

/-- How deep arrays and objects may be nested. -/
def nestingLimit : Nat := 500

/-- Refuses a text at a token. -/
def refuse {α : Type} (fault : Fault) (t : Token) : Except Failure α :=
  .error (.fault fault t.offset)

/-- Opens an array or an object. -/
def State.opening (next : List Frame → State) (frames : List Frame) : Except Failure State :=
  if frames.length < nestingLimit then .ok (next frames) else .error .tooDeep

/-- Reads the first token of a value. -/
def State.begin (frames : List Frame) (t : Token) : Except Failure State :=
  match t.piece with
  | .scalar s => .ok (.after (.scalar s) frames)
  | .leftBracket => State.opening .firstItem frames
  | .leftBrace => State.opening .firstKey frames
  | .longInteger digits => .error (.integerTooLong digits)
  | .broken f distance => .error (.fault f (t.offset + distance))
  | _ => refuse .expectedValue t

/-- Reads the key of a field. -/
def State.readKey (done : List (Text × Value)) (frames : List Frame) (t : Token) :
    Except Failure State :=
  match t.piece with
  | .scalar (.text name) => .ok (.colon done name frames)
  | .broken f distance => .error (.fault f (t.offset + distance))
  | _ => refuse .expectedKey t

/-- Reads one token. -/
def State.step (state : State) (t : Token) : Except Failure State :=
  match state, t.piece with
  | .value frames, _ => State.begin frames t
  | .firstItem frames, .rightBracket => .ok (.after (.array []) frames)
  | .firstItem frames, _ => State.begin (.items [] :: frames) t
  | .firstKey frames, .rightBrace => .ok (.after (.object []) frames)
  | .firstKey frames, _ => State.readKey [] frames t
  | .key done frames, _ => State.readKey done frames t
  | .colon done name frames, .colon => .ok (.value (.fields done name :: frames))
  | .colon _ _ _, _ => refuse .expectedColon t
  | .after v [], .finish => .ok (.after v [])
  | .after _ [], _ => refuse .extraData t
  | .after v (.items done :: frames), .comma => .ok (.value (.items (v :: done) :: frames))
  | .after v (.items done :: frames), .rightBracket =>
    .ok (.after (.array (v :: done).reverse) frames)
  | .after v (.fields done name :: frames), .comma => .ok (.key ((name, v) :: done) frames)
  | .after v (.fields done name :: frames), .rightBrace =>
    .ok (.after (.object (Fields.ofList ((name, v) :: done).reverse)) frames)
  | .after _ (_ :: _), _ => refuse .expectedComma t

/-- The value that has been read, if nothing is missing. -/
def State.result? : State → Option Value
  | .after v [] => some v
  | _ => none

/-- The value of a row of tokens. -/
def ofTokens (row : List Token) : Except Failure Value := do
  let state ← row.foldlM State.step (.value [])
  match state.result? with
  | some v => return v
  | none => .error (.fault .expectedValue 0)

/-- The wording of a refusal of a text. -/
def Failure.message (source : Text) : Failure → Text
  | .fault f offset =>
    let place := Position.start.after (source.take offset)
    f.message ++ ": line " ++ Text.ofNat place.line ++ " column " ++ Text.ofNat place.column
      ++ " (char " ++ Text.ofNat offset ++ ")"
  | .integerTooLong digits => Number.tooManyDigitsMessage digits
  | .tooDeep => "JSON nesting is too deep"

end Conform.Json

namespace Conform

/-- The code point that marks the order of bytes. -/
def byteOrderMark : CodePoint := 0xFEFF

/-- The value of a JSON text. -/
def Value.ofJson (t : Text) : Except Json.Failure Value :=
  if t.head? = some byteOrderMark then .error (.fault .byteOrderMark 0)
  else Json.ofTokens (Json.tokens t)

end Conform
