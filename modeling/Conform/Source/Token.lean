import Conform.Number.Basic
import Conform.Number.Reading
import Conform.Source.Position

/-!
# Tokens of schema expressions

Between tokens stand white space and comments. A scanner looks at the rest of the source and says
how many code points the next piece takes, so it knows nothing of lines and columns; the positions
are counted in one place, `Token.listFrom`.

## Main definitions

- `Token`, `TokenKind` — tokens
- `LexicalFault` — what can be wrong with a piece of source
- `Piece`, `Piece.scan` — the next piece of a non-empty rest
- `Token.ofSource` — the tokens of a source
-/

namespace Conform

/-- The kinds of tokens. -/
inductive TokenKind
  | identifier
  | string
  | number
  | regex
  | leftParen
  | rightParen
  | leftBrace
  | rightBrace
  | leftBracket
  | rightBracket
  | colon
  | comma
  | semicolon
  | dot
  | minus
  | plus
  | fatArrow
  | spread
  | operator
  | endOfSource
  deriving DecidableEq, Repr

/-- A token with what it stands for and where it is written. -/
structure Token where
  kind : TokenKind
  value : Text
  span : Span
  deriving DecidableEq, Repr

/-- What is wrong with a piece of source. -/
inductive LexicalFault
  | unterminatedComment
  | invalidHexNumber
  | identifierAfterNumber
  | interpolation
  | unterminatedString
  | invalidHexEscape
  | invalidUnicodeEscape
  | unterminatedRegex
  | invalidFlags (flags : Text)
  | unexpectedCharacter (c : CodePoint)
  /-- A hexadecimal number whose decimal text is too long to be written. -/
  | hexNumberTooLong
  deriving DecidableEq, Repr

/-- A fault with how many code points after the beginning of its piece it is. -/
structure Flaw where
  fault : LexicalFault
  offset : Nat
  deriving DecidableEq, Repr

/-- A piece of source: trivia or a token. `length` counts the code points after the first one. -/
inductive Piece
  | trivia (length : Nat)
  | token (kind : TokenKind) (value : Text) (length : Nat)
  deriving DecidableEq, Repr

namespace Piece

/-- Whether a code point can begin an identifier. -/
def isIdentifierStart (c : CodePoint) : Bool :=
  Text.isLetter c || c == '_'.toNat || c == '$'.toNat

/-- Whether a code point can stand inside an identifier. -/
def isIdentifierPart (c : CodePoint) : Bool :=
  Text.isAlphanumeric c || c == '_'.toNat || c == '$'.toNat

/-- The length of the text up to the mark that closes a block comment, the mark included. -/
def blockCommentEnd? : Text → Option Nat
  | [] => none
  | c :: cs =>
    if Text.startsWith (c :: cs) "*/" then some 2 else (blockCommentEnd? cs).map (· + 1)

/-- Digits with single underscores between them, and the length of their text. -/
def digitRun : Text → Text × Nat
  | [] => ([], 0)
  | c :: cs =>
    if Text.isDigit c then
      let (digits, length) := digitRun cs
      (c :: digits, length + 1)
    else if c = '_'.toNat ∧ (cs.head?.map Text.isDigit).getD false then
      let (digits, length) := digitRun cs
      (digits, length + 1)
    else ([], 0)

/-- A point with decimals, and the length of its text. -/
def fractionRun : Text → Text × Nat
  | c :: cs =>
    if c = '.'.toNat then
      let (digits, length) := digitRun cs
      (c :: digits, length + 1)
    else ([], 0)
  | [] => ([], 0)

/-- An exponent, and the length of its text. Without a digit there is none. -/
def exponentRun : Text → Text × Nat
  | e :: cs =>
    if e = 'e'.toNat ∨ e = 'E'.toNat then
      match cs with
      | [] => ([], 0)
      | c :: rest =>
        if Text.isDigit c then
          let (digits, length) := digitRun cs
          (e :: digits, length + 1)
        else if (c = '+'.toNat ∨ c = '-'.toNat) ∧ (rest.head?.map Text.isDigit).getD false then
          let (digits, length) := digitRun rest
          (e :: c :: digits, length + 2)
        else ([], 0)
    else ([], 0)
  | [] => ([], 0)

/-- A decimal number. No identifier may follow it directly. -/
def decimalNumber (t : Text) : Except Flaw Piece :=
  let (whole, n) := digitRun t
  let (fraction, m) := fractionRun (t.drop n)
  let (exponent, k) := exponentRun (t.drop (n + m))
  let length := n + m + k
  match t.drop length with
  | c :: _ =>
    if isIdentifierStart c then .error ⟨.identifierAfterNumber, length⟩
    else .ok (.token .number (whole ++ fraction ++ exponent) (length - 1))
  | [] => .ok (.token .number (whole ++ fraction ++ exponent) (length - 1))

/-- A hexadecimal number, given the text after its mark. Its value is its decimal text. -/
def hexNumber (afterMark : Text) : Except Flaw Piece :=
  let digits := afterMark.takeWhile fun c => (Text.hexValue? c).isSome
  if digits.isEmpty then .error ⟨.invalidHexNumber, 0⟩
  else
    let n := digits.foldl (fun n c => 16 * n + (Text.hexValue? c).getD 0) 0
    if n ≥ Nat.pow 10 Number.digitLimit then .error ⟨.hexNumberTooLong, 0⟩
    else .ok (.token .number (Text.ofNat n) (digits.length + 1))

/-- A number, which begins with a digit or with a point before one. -/
def number (t : Text) : Except Flaw Piece :=
  match t with
  | z :: x :: rest =>
    if z = '0'.toNat ∧ (x = 'x'.toNat ∨ x = 'X'.toNat) then hexNumber rest else decimalNumber t
  | t => decimalNumber t

/-- The control characters with an escape letter. -/
def controlEscape? (c : CodePoint) : Option CodePoint :=
  if c = 'n'.toNat then some 10
  else if c = 't'.toNat then some 9
  else if c = 'r'.toNat then some 13
  else if c = 'b'.toNat then some 8
  else if c = 'f'.toNat then some 12
  else if c = 'v'.toNat then some 11
  else if c = '0'.toNat then some 0
  else none

/-- The code point whose number is written in the given text. -/
def codePointOf? (digits : Text) : Option CodePoint :=
  match Number.anyInteger? 16 digits with
  | some (.ofNat n) => if n ≤ 0x10FFFF then some n else none
  | _ => none

/-- The fault of a numeric escape. -/
def escapeFault (letter : CodePoint) : LexicalFault :=
  if letter = 'x'.toNat then .invalidHexEscape else .invalidUnicodeEscape

/-- A numeric escape, given the text after its letter: what it stands for and how much of that text
it takes. -/
def numericEscape (letter : CodePoint) (t : Text) : Except LexicalFault (Text × Nat) :=
  let braced := letter = 'u'.toNat ∧ t.head? = some 0x7B
  if braced then
    match Text.splitFirst? 0x7D (t.drop 1) with
    | none => .error .invalidUnicodeEscape
    | some (digits, _) =>
      match codePointOf? digits with
      | some c => .ok ([c], digits.length + 2)
      | none => .error .invalidUnicodeEscape
  else
    let digits := t.take (if letter = 'x'.toNat then 2 else 4)
    match codePointOf? digits with
    | some c => .ok ([c], digits.length)
    | none => .error (escapeFault letter)

/-- An escape, given the text after its backslash: what it stands for and how much of that text it
takes. -/
def escape : Text → Except LexicalFault (Text × Nat)
  | [] => .error .unterminatedString
  | c :: cs =>
    if c = Text.newline then .ok ([], 1)
    else
      match controlEscape? c with
      | some d => .ok ([d], 1)
      | none =>
        if c = 'x'.toNat ∨ c = 'u'.toNat then
          (numericEscape c cs).map fun (value, length) => (value, length + 1)
        else .ok ([c], 1)

/-- The rest of a string literal, which begins `offset` code points after its opening quote; `skip`
counts the code points of the last escape that are still to be passed over, and `value` holds what
has been read, in reverse order. -/
def stringRest (quote : CodePoint) : (skip : Nat) → (offset : Nat) → (value : Text) → Text →
    Except Flaw Piece
  | _, _, _, [] => .error ⟨.unterminatedString, 0⟩
  | skip + 1, offset, value, _ :: cs => stringRest quote skip (offset + 1) value cs
  | 0, offset, value, c :: cs =>
    if c = quote then .ok (.token .string value.reverse offset)
    else if c = Text.newline ∧ quote ≠ '`'.toNat then .error ⟨.unterminatedString, 0⟩
    else if quote = '`'.toNat ∧ c = '$'.toNat ∧ cs.head? = some 0x7B then
      .error ⟨.interpolation, offset⟩
    else if c = '\\'.toNat then
      match escape cs with
      | .ok (part, length) => stringRest quote length (offset + 1) (part.reverse ++ value) cs
      | .error fault => .error ⟨fault, offset⟩
    else stringRest quote 0 (offset + 1) (c :: value) cs

/-- The body of a regular expression literal, given the text after its opening slash: the length of
the body. Slashes in sets and after backslashes do not end it. -/
def regexBody? : (inSet : Bool) → Text → Option Nat
  | _, [] => none
  | inSet, c :: cs =>
    if c = Text.newline then none
    else if c = '\\'.toNat then
      match cs with
      | [] => none
      | d :: rest => if d = Text.newline then none else (regexBody? inSet rest).map (· + 2)
    else if c = '/'.toNat ∧ !inSet then some 0
    else
      (regexBody? (if c = '['.toNat then true else if c = ']'.toNat then false else inSet) cs).map
        (· + 1)

/-- The flag letters of regular expression literals. -/
def regexFlags : Text := "dgimsuyv"

/-- The number of flag letters at the beginning of a text, or the first letters that are no flags of
a literal or that repeat one. -/
def flagCount : (seen : Text) → Text → Except Text Nat
  | seen, [] => .ok seen.length
  | seen, c :: cs =>
    if Text.isLetter c then
      if c ∉ regexFlags ∨ c ∈ seen then .error (seen ++ [c]) else flagCount (seen ++ [c]) cs
    else .ok seen.length

/-- A regular expression literal, given the text after its opening slash. -/
def regex (t : Text) : Except Flaw Piece :=
  match regexBody? false t with
  | none => .error ⟨.unterminatedRegex, 0⟩
  | some n =>
    match flagCount [] (t.drop (n + 1)) with
    | .error flags => .error ⟨.invalidFlags flags, n + 1 + flags.length⟩
    | .ok m => .ok (.token .regex (t.take (n + 1 + m)) (n + 1 + m))

/-- The kind of a code point that is a token of its own. -/
def punctuation? (c : CodePoint) : Option TokenKind :=
  if c = '('.toNat then some .leftParen
  else if c = ')'.toNat then some .rightParen
  else if c = 0x7B then some .leftBrace
  else if c = 0x7D then some .rightBrace
  else if c = '['.toNat then some .leftBracket
  else if c = ']'.toNat then some .rightBracket
  else if c = ':'.toNat then some .colon
  else if c = ','.toNat then some .comma
  else if c = ';'.toNat then some .semicolon
  else if c = '.'.toNat then some .dot
  else if c = '-'.toNat then some .minus
  else if c = '+'.toNat then some .plus
  else if c ∈ Text.ofString "=<>!&|?*%^~@#" then some .operator
  else none

/-- A token of punctuation or an operator. -/
def mark (c : CodePoint) (cs : Text) : Except Flaw Piece :=
  if c = '='.toNat ∧ Text.startsWith cs ">" then .ok (.token .fatArrow "=>" 1)
  else if c = '.'.toNat ∧ Text.startsWith cs ".." then .ok (.token .spread "..." 2)
  else
    match punctuation? c with
    | some kind => .ok (.token kind [c] 0)
    | none => .error ⟨.unexpectedCharacter c, 0⟩

/-- The piece at the beginning of a text. -/
def scan (c : CodePoint) (cs : Text) : Except Flaw Piece :=
  if Text.isBlank c then .ok (.trivia 0)
  else if c = '/'.toNat ∧ Text.startsWith cs "/" then
    .ok (.trivia (cs.takeWhile (· != Text.newline)).length)
  else if c = '/'.toNat ∧ Text.startsWith cs "*" then
    match blockCommentEnd? (cs.drop 1) with
    | some n => .ok (.trivia (n + 1))
    | none => .error ⟨.unterminatedComment, 0⟩
  else if isIdentifierStart c then
    let rest := cs.takeWhile isIdentifierPart
    .ok (.token .identifier (c :: rest) rest.length)
  else if Text.isDigit c || (c == '.'.toNat && (cs.head?.map Text.isDigit).getD false) then
    number (c :: cs)
  else if c = '"'.toNat ∨ c = '\''.toNat ∨ c = '`'.toNat then stringRest c 0 1 [] cs
  else if c = '/'.toNat then regex cs
  else mark c cs

end Piece

/-- A fault in a source text and where it is. -/
structure LexicalError where
  fault : LexicalFault
  position : Position
  deriving DecidableEq, Repr

/-- The tokens of the rest of a source, which begins at a position; `skip` counts the code points of
the last piece that are still to be passed over. -/
def Token.listFrom : (skip : Nat) → Position → Text → Except LexicalError (List Token)
  | _, p, [] => .ok [⟨.endOfSource, [], ⟨p, p⟩⟩]
  | skip + 1, p, c :: cs => listFrom skip (p.next c) cs
  | 0, p, c :: cs =>
    match Piece.scan c cs with
    | .error flaw => .error ⟨flaw.fault, p.after ((c :: cs).take flaw.offset)⟩
    | .ok (.trivia n) => listFrom n (p.next c) cs
    | .ok (.token kind value n) =>
      match listFrom n (p.next c) cs with
      | .error e => .error e
      | .ok tokens => .ok (⟨kind, value, ⟨p, p.after ((c :: cs).take (n + 1))⟩⟩ :: tokens)

/-- The tokens of a source, the last of which marks its end. -/
def Token.ofSource (source : Text) : Except LexicalError (List Token) :=
  listFrom 0 Position.start source

end Conform
