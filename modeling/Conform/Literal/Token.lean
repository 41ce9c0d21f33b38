import Conform.Literal.Numeral
import Conform.Literal.Quoted

/-!
# Tokens of literals

A literal is cut into numerals, quoted texts, names, brackets and marks. Lines must not be indented;
line ends inside brackets do not count, and a comment ends with its line.

## Main definitions

- `Literal.Token` — tokens
- `Literal.tokens?` — the tokens of a text
-/

namespace Conform.Literal

/-- The three kinds of brackets. -/
inductive Bracket
  | round
  | square
  | curly
  deriving DecidableEq, Repr

/-- Tokens. -/
inductive Token
  | numeral (n : Numeral)
  | text (t : Text)
  | bytes (octets : List Nat)
  | name (t : Text)
  | ellipsis
  | opening (b : Bracket)
  | closing (b : Bracket)
  | comma
  | colon
  | plus
  | minus
  | lineEnd
  deriving DecidableEq

/-- The bracket that a code point opens. -/
def opening? (c : CodePoint) : Option Bracket :=
  if c = '('.toNat then some .round
  else if c = '['.toNat then some .square
  else if c = '{'.toNat then some .curly
  else none

/-- The bracket that a code point closes. -/
def closing? (c : CodePoint) : Option Bracket :=
  if c = ')'.toNat then some .round
  else if c = ']'.toNat then some .square
  else if c = '}'.toNat then some .curly
  else none

/-- Other tokens of one code point. -/
def mark? (c : CodePoint) : Option Token :=
  if c = ','.toNat then some .comma
  else if c = ':'.toNat then some .colon
  else if c = '+'.toNat then some .plus
  else if c = '-'.toNat then some .minus
  else none

/-- Words that are no names. -/
def keywords : List Text := ["and", "as", "assert", "async", "await", "break", "class", "continue",
  "def", "del", "elif", "else", "except", "finally", "for", "from", "global", "if", "import", "in",
  "is", "lambda", "nonlocal", "not", "or", "pass", "raise", "return", "try", "while", "with",
  "yield"].map Text.ofString

/-- The token of a quoted literal in a style. -/
def quotedToken (style : QuoteStyle) (content : Text) : Token :=
  if style.octets then .bytes content else .text content

/-- The token at the beginning of a text, and its length; none if there is no token. -/
def scan? (c : CodePoint) (cs : Text) : Option (Token × Nat) :=
  match opening? c, closing? c, mark? c with
  | some b, _, _ => some (.opening b, 1)
  | _, some b, _ => some (.closing b, 1)
  | _, _, some t => some (t, 1)
  | none, none, none =>
    let t : Text := c :: cs
    if t.startsWith "..." then some (.ellipsis, 3)
    else if beginsNumeral t then
      (Numeral.ofText? (t.take (numeralLength t))).map fun n => (.numeral n, numeralLength t)
    else
      let word := t.takeWhile isWordPart
      let rest := t.drop word.length
      match QuoteStyle.ofMark? word, rest.head?.map isQuote with
      | some style, some true =>
        (quoted? style rest).map fun (content, n) => (quotedToken style content, n + word.length)
      | _, _ => if word.isEmpty ∨ word ∈ keywords then none else some (.name word, word.length)

/-- How deep brackets may be nested. -/
def nestingLimit : Nat := 200

/-- Where a text is being read. -/
inductive Place
  /-- At the beginning of a line, behind some blanks. -/
  | lineStart (indent : Nat)
  | withinLine
  | comment
  deriving DecidableEq, Repr

/-- Whether a line may end here that is not indented. -/
def Place.isFlush : Place → Bool
  | .lineStart indent => indent == 0
  | _ => true

/-- The place behind a blank. A form feed undoes an indentation. -/
def Place.afterBlank (place : Place) (c : CodePoint) : Place :=
  match place with
  | .lineStart indent => .lineStart (if c = 12 then 0 else indent + 1)
  | place => place

/-- How deep brackets are nested behind a token. -/
def Token.depthAfter (t : Token) (depth : Nat) : Nat :=
  match t with
  | .opening _ => depth + 1
  | .closing _ => depth - 1
  | _ => depth

/-- The tokens of a text. Line ends inside brackets and behind a backslash do not count; `skip`
counts the code points of the last token. -/
def tokensFrom? : (depth : Nat) → Place → (skip : Nat) → Text → Option (List Token)
  | _, place, _, [] => if place.isFlush then some [] else none
  | depth, place, skip + 1, _ :: cs => tokensFrom? depth place skip cs
  | depth, place, 0, c :: cs =>
    if c = Text.newline then
      if depth = 0 then (tokensFrom? depth (.lineStart 0) 0 cs).map (.lineEnd :: ·)
      else tokensFrom? depth .withinLine 0 cs
    else if place = .comment ∨ c = '#'.toNat then tokensFrom? depth .comment 0 cs
    else if c = 32 ∨ c = 9 ∨ c = 12 then tokensFrom? depth (place.afterBlank c) 0 cs
    else if c = '\\'.toNat ∧ cs.head? = some Text.newline ∧ cs.length > 1 then
      tokensFrom? depth place 1 cs
    else if !place.isFlush then none
    else
      match scan? c cs with
      | none => none
      | some (t, length) =>
        let depth := t.depthAfter depth
        if depth > nestingLimit then none
        else (tokensFrom? depth .withinLine (length - 1) cs).map (t :: ·)

/-- The tokens of a text. -/
def tokens? (t : Text) : Option (List Token) :=
  if t.any fun c => c == 0 || Text.isSurrogate c then none
  else tokensFrom? 0 (.lineStart 0) 0 t.withLineFeeds

end Conform.Literal
