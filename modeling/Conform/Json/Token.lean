import Conform.Number.Reading
import Conform.Source.Tree

/-!
# The tokens of JSON

A JSON text is a row of tokens with blanks between them. The first piece that is no token ends the
row, because nothing behind it can matter.

## Main definitions

- `Json.Fault`, `Json.Failure` — what can be wrong with a text
- `Json.Token` — tokens with their offsets
- `Json.tokens` — the tokens of a text
-/

namespace Conform.Json

/-- What is wrong at some place of a text. -/
inductive Fault
  | expectedValue
  | expectedKey
  | expectedColon
  | expectedComma
  | extraData
  | badEscape
  | badUnicodeEscape
  | controlCharacter
  | unterminatedString
  | byteOrderMark
  deriving DecidableEq, Repr

/-- The wording of a fault. -/
def Fault.message : Fault → Text
  | .expectedValue => "Expecting value"
  | .expectedKey => "Expecting property name enclosed in double quotes"
  | .expectedColon => "Expecting ':' delimiter"
  | .expectedComma => "Expecting ',' delimiter"
  | .extraData => "Extra data"
  | .badEscape => "Invalid \\escape"
  | .badUnicodeEscape => "Invalid \\uXXXX escape"
  | .controlCharacter => "Invalid control character at"
  | .unterminatedString => "Unterminated string starting at"
  | .byteOrderMark => "Unexpected UTF-8 BOM (decode using utf-8-sig)"

/-- Why a text is refused. -/
inductive Failure
  | fault (fault : Fault) (offset : Nat)
  /-- An integer has more digits than may be read. -/
  | integerTooLong (digits : Nat)
  | tooDeep
  deriving DecidableEq, Repr

/-- What stands at some place of a text. -/
inductive Piece
  | leftBrace
  | rightBrace
  | leftBracket
  | rightBracket
  | colon
  | comma
  | scalar (s : Scalar)
  | longInteger (digits : Nat)
  /-- A string that is broken at some distance behind its opening quote. -/
  | broken (fault : Fault) (distance : Nat)
  /-- Something that begins no token. -/
  | stray
  | finish
  deriving DecidableEq

/-- Whether a piece ends the row of tokens. -/
def Piece.isLast : Piece → Bool
  | .broken _ _ => true
  | .stray => true
  | .finish => true
  | _ => false

/-- A piece and its offset in the text. -/
structure Token where
  offset : Nat
  piece : Piece
  deriving DecidableEq

/-- Whether a code point may stand between tokens. -/
def isBlank (c : CodePoint) : Bool := c == 32 || c == 9 || c == 10 || c == 13

/-- The code point of an escape of one letter. -/
def letterEscape? (c : CodePoint) : Option CodePoint :=
  if c = '"'.toNat ∨ c = '\\'.toNat ∨ c = '/'.toNat then some c
  else if c = 'b'.toNat then some 8
  else if c = 'f'.toNat then some 12
  else if c = 'n'.toNat then some 10
  else if c = 'r'.toNat then some 13
  else if c = 't'.toNat then some 9
  else none

/-- The UTF-16 unit that four hexadecimal digits denote. Something must follow them. -/
def unit? : Text → Option Nat
  | a :: b :: c :: d :: _ :: _ => do
    let a ← Text.hexValue? a
    let b ← Text.hexValue? b
    let c ← Text.hexValue? c
    let d ← Text.hexValue? d
    return ((a * 16 + b) * 16 + c) * 16 + d
  | _ => none

/-- Whether the text behind the digits of an escape holds an escape of a unit with something after
it. -/
def hasUnitEscape : Text → Bool
  | c :: d :: _ :: _ :: _ :: _ :: _ :: _ => c == '\\'.toNat && d == 'u'.toNat
  | _ => false

/-- What comes out of one escape of a unit: the code point and how many code points behind the
letter belong to it. Two surrogates in a row that form a pair are one code point. -/
def unitEscape? (behind : Text) : Except Nat (CodePoint × Nat) :=
  match unit? behind with
  | none => .error 0
  | some high =>
    if 0xD800 ≤ high ∧ high ≤ 0xDBFF ∧ hasUnitEscape (behind.drop 4) then
      match unit? (behind.drop 6) with
      | none => .error 6
      | some low =>
        if 0xDC00 ≤ low ∧ low ≤ 0xDFFF then
          .ok (0x10000 + (high - 0xD800) * 0x400 + (low - 0xDC00), 10)
        else .ok (high, 4)
    else .ok (high, 4)

/-- Scans a string behind its opening quote; `distance` counts the code points since the quote, the
quote included, and `skip` those that belong to the last escape. The content comes out with its
length, closing quote included. -/
def stringBody : (distance skip : Nat) → (content : Text) → Text → Piece × Nat
  | distance, _, _, [] => (.broken .unterminatedString 0, distance)
  | distance, skip + 1, content, _ :: cs => stringBody (distance + 1) skip content cs
  | distance, 0, content, c :: cs =>
    if c = '"'.toNat then (.scalar (.text content.reverse), distance + 1)
    else if c = '\\'.toNat then
      match cs with
      | [] => (.broken .unterminatedString 0, distance)
      | letter :: behind =>
        if letter = 'u'.toNat then
          match unitEscape? behind with
          | .error further => (.broken .badUnicodeEscape (distance + 1 + further), distance)
          | .ok (point, length) => stringBody (distance + 1) (1 + length) (point :: content) cs
        else
          match letterEscape? letter with
          | some point => stringBody (distance + 1) 1 (point :: content) cs
          | none => (.broken .badEscape distance, distance)
    else if c ≤ 31 then (.broken .controlCharacter distance, distance)
    else stringBody (distance + 1) 0 (c :: content) cs

/-- The fraction at the beginning of a text: a point and at least one digit. -/
def fractionPart : Text → Text
  | c :: cs =>
    let digits := cs.takeWhile Text.isDigit
    if c = '.'.toNat ∧ digits ≠ [] then c :: digits else []
  | [] => []

/-- The exponent at the beginning of a text: a mark, perhaps a sign, and at least one digit. -/
def exponentPart : Text → Text
  | c :: cs =>
    if c = 'e'.toNat ∨ c = 'E'.toNat then
      let sign := (cs.take 1).filter fun s => s == '+'.toNat || s == '-'.toNat
      let digits := (cs.drop sign.length).takeWhile Text.isDigit
      if digits = [] then [] else c :: (sign ++ digits)
    else []
  | [] => []

/-- The whole part at the beginning of a text: a zero, or digits that do not begin with one. -/
def wholePart (t : Text) : Text :=
  match t with
  | c :: _ => if c = '0'.toNat then [c] else t.takeWhile Text.isDigit
  | [] => []

/-- Scans a number. -/
def scanNumber (t : Text) : Piece × Nat :=
  let sign := (t.take 1).filter (· == '-'.toNat)
  let whole := wholePart (t.drop sign.length)
  if whole = [] then (.stray, 1)
  else
    let behind := t.drop (sign.length + whole.length)
    let fraction := fractionPart behind
    let exponent := exponentPart (behind.drop fraction.length)
    let length := sign.length + whole.length + fraction.length + exponent.length
    if fraction = [] ∧ exponent = [] then
      if whole.length > Number.digitLimit then (.longInteger whole.length, length)
      else
        let n := Int.ofNat (Text.digitsValue whole)
        (.scalar (.number (.int (if sign = [] then n else -n))), length)
    else
      match Number.decimal? (sign != []) (whole ++ fraction ++ exponent) with
      | some d => (.scalar (.number (.float d)), length)
      | none => (.stray, 1)

/-- The words that are tokens, with what they denote. -/
def words : List (Text × Scalar) :=
  [("null", .null), ("true", .bool true), ("false", .bool false),
   ("NaN", .number (.float .nan)), ("Infinity", .number (.float (.infinite false))),
   ("-Infinity", .number (.float (.infinite true)))]

/-- The piece at the beginning of a text that begins with no blank, and its length. -/
def scan : Text → Piece × Nat
  | [] => (.finish, 0)
  | c :: cs =>
    if c = '"'.toNat then stringBody 1 0 [] cs
    else if c = '{'.toNat then (.leftBrace, 1)
    else if c = '}'.toNat then (.rightBrace, 1)
    else if c = '['.toNat then (.leftBracket, 1)
    else if c = ']'.toNat then (.rightBracket, 1)
    else if c = ':'.toNat then (.colon, 1)
    else if c = ','.toNat then (.comma, 1)
    else
      match words.find? fun (word, _) => Text.startsWith (c :: cs) word with
      | some (word, s) => (.scalar s, word.length)
      | none => scanNumber (c :: cs)

/-- The tokens of a text from some offset on, where `skip` code points belong to the last token. -/
def tokensFrom : (offset skip : Nat) → Text → List Token
  | offset, _, [] => [⟨offset, .finish⟩]
  | offset, skip + 1, _ :: cs => tokensFrom (offset + 1) skip cs
  | offset, 0, c :: cs =>
    if isBlank c then tokensFrom (offset + 1) 0 cs
    else
      let (piece, length) := scan (c :: cs)
      if piece.isLast then [⟨offset, piece⟩]
      else ⟨offset, piece⟩ :: tokensFrom (offset + 1) (length - 1) cs

/-- The tokens of a text. -/
def tokens (t : Text) : List Token := tokensFrom 0 0 t

end Conform.Json
