import Conform.Source.Token
import Conform.Source.Tree

/-!
# Reading schema expressions

A source is one expression with an optional semicolon after it. An expression is a primary one
(name, literal, array, object, or an expression in parentheses) followed by member accesses and
calls.

## Main definitions

- `SyntaxFault`, `SyntaxFault.message` — what can be wrong with a source
- `SourceError` — why a source is refused
- `Expr.ofTokens` — the expression of a list of tokens
- `Expr.ofSource` — the expression of a source text
-/

namespace Conform

/-- What is wrong with a source. -/
inductive SyntaxFault
  | lexical (fault : LexicalFault)
  | expected (what : Text) (found : Token)
  | invalidNumber (written : Text)
  | empty
  | trailing (found : Token)
  | statement (keyword : Text)
  | arrow
  | spread
  | unexpected (found : Token)
  | shorthand (key : Text)
  deriving DecidableEq

/-- The wording of a fault in a piece of source. -/
def LexicalFault.message : LexicalFault → Text
  | .unterminatedComment => "Unterminated comment"
  | .invalidHexNumber => "Invalid hexadecimal number"
  | .identifierAfterNumber => "Identifier directly after number"
  | .interpolation => "Template literal interpolation is not supported"
  | .unterminatedString => "Unterminated string literal"
  | .invalidHexEscape => "Invalid hexadecimal escape sequence"
  | .invalidUnicodeEscape => "Invalid Unicode escape sequence"
  | .unterminatedRegex => "Unterminated regular expression"
  | .invalidFlags flags => "Invalid regular expression flags '" ++ flags ++ "'"
  | .unexpectedCharacter c => "Unexpected character '" ++ [c] ++ "'"
  | .hexNumberTooLong => Number.tooLongMessage

/-- How a message speaks of a token. -/
def Token.label (t : Token) : Text :=
  match t.kind with
  | .endOfSource => "end of input"
  | .string => "string"
  | .regex => "regular expression"
  | _ => "token '" ++ t.value ++ "'"

/-- The wording of a fault. -/
def SyntaxFault.message : SyntaxFault → Text
  | .lexical fault => fault.message
  | .expected what found => "Expected " ++ what ++ " but found " ++ found.label
  | .invalidNumber written => "Invalid number literal '" ++ written ++ "'"
  | .empty => "Schema source is empty"
  | .trailing found =>
    "Unexpected " ++ found.label ++ ": a schema must be a single expression"
  | .statement keyword =>
    "'" ++ keyword ++ "' is not supported: write a single schema expression"
  | .arrow => "Arrow functions are not supported in schema expressions"
  | .spread => "Spread syntax is not supported"
  | .unexpected found => "Unexpected " ++ found.label
  | .shorthand key =>
    "Shorthand property '" ++ key ++ "' is not supported; write '" ++ key ++ ": <schema>'"

/-- Why a source is refused. -/
inductive SourceError
  | fault (fault : SyntaxFault) (position : Position)
  | tooDeep
  deriving DecidableEq

/-- The words that denote values. -/
def literalWord? (word : Text) : Option Scalar :=
  if word = Text.ofString "true" then some (.bool true)
  else if word = Text.ofString "false" then some (.bool false)
  else if word = Text.ofString "null" then some .null
  else if word = Text.ofString "undefined" then some .undefined
  else none

/-- The words that begin statements, which no expression may begin with. -/
def statementKeywords : List Text :=
  ["const", "let", "var", "function", "return", "if", "for", "while", "class", "import", "export",
    "new", "await", "async", "throw", "delete", "typeof", "void"].map Text.ofString

/-- The value of a number's text. A whole decimal below `2^53` is an integer. -/
def numberValue? (written : Text) : Option Number :=
  if written.any fun c => c == '.'.toNat || c == 'e'.toNat || c == 'E'.toNat then
    (Number.decimal? false written).map fun d =>
      match d.truncate? with
      | some n => if d.isWhole && n.natAbs < 1 <<< 53 then .int n else .float d
      | none => .float d
  else if written.isEmpty || !written.all Text.isDigit || written.length > Number.digitLimit then
    none
  else some (.int (Int.ofNat (Text.digitsValue written)))

/-- The tokens still to be read, and the end of those that have been. -/
structure TokenStream where
  stop : Position
  rest : List Token

/-- A reading step. -/
abbrev Parsing := StateT TokenStream (Except SourceError)

namespace Parsing

/-- Refuses the source at a token. -/
def refuse {α : Type} (fault : SyntaxFault) (place : Token) : Parsing α :=
  throw (.fault fault place.span.first)

/-- The token that stands behind all others. -/
def TokenStream.final (s : TokenStream) : Token := ⟨.endOfSource, [], ⟨s.stop, s.stop⟩⟩

/-- The current token. -/
def peek : Parsing Token := do
  let s ← get
  return s.rest.headD (TokenStream.final s)

/-- Moves past a token, which is not the end. -/
def pass (t : Token) : Parsing PUnit :=
  modify fun s => ⟨t.span.stop, s.rest.drop 1⟩

/-- Moves past the current token if it is of a kind. -/
def accept (kind : TokenKind) : Parsing Bool := do
  let t ← peek
  if t.kind = kind then
    pass t
    return true
  else return false

/-- Moves past the current token, which must be of a kind. -/
def expect (kind : TokenKind) (what : Text) : Parsing Token := do
  let t ← peek
  if t.kind = kind then
    pass t
    return t
  else refuse (.expected what t) t

/-- The stretch from the beginning of a token to the end of what has been read. -/
def spanFrom (start : Token) : Parsing Span := do
  return ⟨start.span.first, (← get).stop⟩

/-- The value of a number token. -/
def numberOf (t : Token) : Parsing Number :=
  match numberValue? t.value with
  | some n => pure n
  | none => refuse (.invalidNumber t.value) t

/-- The key that a number stands for. -/
def keyOfNumber (n : Number) : Text := n.display

/-- The key of a property, whose token has been passed. -/
def propertyName (t : Token) : Parsing Text :=
  match t.kind with
  | .identifier => pure t.value
  | .string => pure t.value
  | .number => do return keyOfNumber (← numberOf t)
  | .spread => refuse .spread t
  | _ => refuse (.expected "property name" t) t

/-- Moves past the current token and returns it; the end stays. -/
def take : Parsing Token := do
  let t ← peek
  if t.kind ≠ .endOfSource then pass t
  return t

/-- Refuses an arrow. -/
def refuseArrow : Parsing PUnit := do
  let t ← peek
  if t.kind = .fatArrow then refuse .arrow t

/-- Refuses a keyword at the beginning of an expression. -/
def refuseStatement (t : Token) : Parsing PUnit := do
  if t.kind = .identifier ∧ t.value ∈ statementKeywords then refuse (.statement t.value) t

/-- The body and the flags of a regular expression token. -/
def regexParts (value : Text) : Text × Text :=
  (Text.splitLast? '/'.toNat value).getD ([], value)

/-- How deep expressions may be nested. -/
def nestingLimit : Nat := 500

mutual

/-- Reads an expression. -/
def expression (fuel depth : Nat) : Parsing Expr :=
  match fuel with
  | 0 => throw .tooDeep
  | fuel + 1 => do
    if depth = 0 then throw .tooDeep
    let start ← peek
    refuseStatement start
    let e ← primary fuel (depth - 1)
    let e ← postfixes fuel (depth - 1) start e
    refuseArrow
    return e

/-- Reads member accesses and calls after an expression that began at a token. -/
def postfixes (fuel depth : Nat) (start : Token) (e : Expr) : Parsing Expr :=
  match fuel with
  | 0 => throw .tooDeep
  | fuel + 1 => do
    if ← accept .dot then
      let name ← expect .identifier "property name"
      postfixes fuel depth start (.member (← spanFrom start) e name.value)
    else if ← accept .leftParen then
      let arguments ← sequence fuel depth .rightParen "')'"
      postfixes fuel depth start (.call (← spanFrom start) e arguments)
    else return e

/-- Reads expressions between commas up to a closing token. -/
def sequence (fuel depth : Nat) (closing : TokenKind) (what : Text) : Parsing (List Expr) :=
  match fuel with
  | 0 => throw .tooDeep
  | fuel + 1 => do
    let t ← peek
    if t.kind = closing then
      pass t
      return []
    else if t.kind = .spread then refuse .spread t
    else
      let e ← expression fuel depth
      if ← accept .comma then return e :: (← sequence fuel depth closing what)
      else
        let _ ← expect closing what
        return [e]

/-- Reads properties between commas up to the closing brace. -/
def properties (fuel depth : Nat) : Parsing (List (PropertyKey × Expr)) :=
  match fuel with
  | 0 => throw .tooDeep
  | fuel + 1 => do
    let t ← peek
    if t.kind = .rightBrace then
      pass t
      return []
    else
      let keyToken ← take
      let key ← propertyName keyToken
      if keyToken.kind = .identifier ∧ (← peek).kind ≠ .colon then refuse (.shorthand key) keyToken
      let _ ← expect .colon "':'"
      let e ← expression fuel depth
      let property : PropertyKey := ⟨← spanFrom keyToken, key⟩
      if ← accept .comma then return (property, e) :: (← properties fuel depth)
      else
        let _ ← expect .rightBrace "'\x7d'"
        return [(property, e)]

/-- Reads a primary expression. -/
def primary (fuel depth : Nat) : Parsing Expr :=
  match fuel with
  | 0 => throw .tooDeep
  | fuel + 1 => do
    let t ← take
    match t.kind with
    | .identifier =>
      match literalWord? t.value with
      | some value => return .literal t.span value
      | none => return .identifier t.span t.value
    | .string => return .literal t.span (.text t.value)
    | .number => return .literal t.span (.number (← numberOf t))
    | .minus =>
      let operand ← expect .number "a number"
      let n ← numberOf operand
      return .literal (← spanFrom t) (.number n.neg)
    | .plus =>
      let operand ← expect .number "a number"
      let n ← numberOf operand
      return .literal (← spanFrom t) (.number n)
    | .regex =>
      let (source, flags) := regexParts t.value
      return .regex t.span source flags
    | .leftBracket =>
      let elements ← sequence fuel depth .rightBracket "']'"
      return .array (← spanFrom t) elements
    | .leftBrace =>
      let found ← properties fuel depth
      return .object (← spanFrom t) found
    | .leftParen =>
      let e ← expression fuel depth
      let _ ← expect .rightParen "')'"
      refuseArrow
      return e
    | .fatArrow => refuse .arrow t
    | .spread => refuse .spread t
    | _ => refuse (.unexpected t) t

end

/-- Reads a whole source. -/
def source (fuel depth : Nat) : Parsing Expr := do
  let first ← peek
  if first.kind = .endOfSource then refuse .empty first
  let e ← expression fuel depth
  let _ ← accept .semicolon
  let trailing ← peek
  if trailing.kind = .endOfSource then return e else refuse (.trailing trailing) trailing

end Parsing

/-- The expression of a list of tokens. -/
def Expr.ofTokens (tokens : List Token) : Except SourceError Expr :=
  (Parsing.source (4 * tokens.length + 4) Parsing.nestingLimit).run' ⟨Position.start, tokens⟩

/-- The expression of a source text. -/
def Expr.ofSource (source : Text) : Except SourceError Expr :=
  match Token.ofSource source with
  | .error e => .error (.fault (.lexical e.fault) e.position)
  | .ok tokens => Expr.ofTokens tokens

end Conform
