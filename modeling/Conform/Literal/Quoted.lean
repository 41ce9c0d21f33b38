import Conform.Text.CharacterName

/-!
# Quoted literals

Texts and byte strings between quotes, with escapes behind backslashes. Letters in front of the
quotes say which of the two it is and whether backslashes are escapes.

## Main definitions

- `Literal.QuoteStyle` — what the letters in front of the quotes say
- `Literal.escape?` — what an escape stands for
- `Literal.quoted?` — the content and the length of a quoted literal
-/

namespace Conform.Literal

/-- How what stands between quotes is read. -/
structure QuoteStyle where
  /-- Whether octets are meant, and not code points. -/
  octets : Bool := false
  /-- Whether a backslash stands for itself. -/
  raw : Bool := false
  deriving DecidableEq, Repr

/-- The style that letters in front of quotes stand for. -/
def QuoteStyle.ofMark? (mark : Text) : Option QuoteStyle :=
  let letters := mark.map fun c => if 65 ≤ c ∧ c ≤ 90 then c + 32 else c
  if letters = [] ∨ letters = Text.ofString "u" then some {}
  else if letters = Text.ofString "r" then some { raw := true }
  else if letters = Text.ofString "b" then some { octets := true }
  else if letters = Text.ofString "br" ∨ letters = Text.ofString "rb" then
    some { octets := true, raw := true }
  else none

/-- The code point of an escape of one letter. -/
def letterEscape? (c : CodePoint) : Option CodePoint :=
  if c = '\\'.toNat ∨ c = '\''.toNat ∨ c = '"'.toNat then some c
  else if c = 'a'.toNat then some 7
  else if c = 'b'.toNat then some 8
  else if c = 'f'.toNat then some 12
  else if c = 'n'.toNat then some 10
  else if c = 'r'.toNat then some 13
  else if c = 't'.toNat then some 9
  else if c = 'v'.toNat then some 11
  else none

/-- The code point of an escape with a fixed number of hexadecimal digits. -/
def hexEscape? (count : Nat) (t : Text) : Option CodePoint :=
  let digits := t.take count
  if digits.length = count ∧ digits.all (fun c => (Text.hexValue? c).isSome) then
    let n := digits.foldl (fun n c => 16 * n + (Text.hexValue? c).getD 0) 0
    if n ≤ 0x10FFFF then some n else none
  else none

/-- The code point of an escape with a name in braces, and its length. -/
def namedEscape? : Text → Option (CodePoint × Nat)
  | [] => none
  | c :: cs =>
    if c = '{'.toNat then
      match Text.splitFirst? '}'.toNat cs with
      | some (name, _) => (CharacterName.codePoint? name).map fun point => (point, name.length + 2)
      | none => none
    else none

/-- Whether a code point is an octal digit. -/
def isOctal (c : CodePoint) : Bool := 48 ≤ c && c ≤ 55

/-- What an escape that only texts have stands for, and its length; the outer option is none if
there is no such escape. -/
def textEscape? (c : CodePoint) (cs : Text) : Option (Option (Text × Nat)) :=
  if c = 'u'.toNat then some ((hexEscape? 4 cs).map fun point => ([point], 5))
  else if c = 'U'.toNat then some ((hexEscape? 8 cs).map fun point => ([point], 9))
  else if c = 'N'.toNat then some ((namedEscape? cs).map fun (point, n) => ([point], n + 1))
  else none

/-- What an escape stands for and how many code points follow its backslash; none if it is broken.
An unknown escape stands for itself. -/
def escape? (octets : Bool) : Text → Option (Text × Nat)
  | [] => none
  | c :: cs =>
    if c = Text.newline then some ([], 1)
    else match letterEscape? c with
      | some point => some ([point], 1)
      | none =>
        if c = 'x'.toNat then (hexEscape? 2 cs).map fun point => ([point], 3)
        else if isOctal c then
          let digits := ((c :: cs).take 3).takeWhile isOctal
          let n := digits.foldl (fun n d => 8 * n + (d - 48)) 0
          some ([if octets then n % 256 else n], digits.length)
        else
          match if octets then none else textEscape? c cs with
          | some found => found
          | none => some (['\\'.toNat, c], 1)

/-- The content of a quoted literal up to its closing quotes, and the length up to their end; `skip`
counts the code points that belong to the last escape. Single quotes do not span lines, and octets
are written in ASCII. -/
def quotedBody? (style : QuoteStyle) (close : Text) : (skip length : Nat) → (content : Text) →
    Text → Option (Text × Nat)
  | _, _, _, [] => none
  | skip + 1, length, content, c :: cs =>
    if style.octets && 128 ≤ c then none
    else quotedBody? style close skip (length + 1) content cs
  | 0, length, content, c :: cs =>
    if Text.startsWith (c :: cs) close then some (content.reverse, length + close.length)
    else if c = Text.newline ∧ close.length = 1 then none
    else if style.octets && 128 ≤ c then none
    else if c = '\\'.toNat then
      if style.raw then
        match cs with
        | d :: _ => quotedBody? style close 1 (length + 1) (d :: c :: content) cs
        | [] => none
      else
        match escape? style.octets cs with
        | some (t, n) => quotedBody? style close n (length + 1) (t.reverse ++ content) cs
        | none => none
    else quotedBody? style close 0 (length + 1) (c :: content) cs

/-- Whether a code point is a quote. -/
def isQuote (c : CodePoint) : Bool := c == '\''.toNat || c == '"'.toNat

/-- The content and the length of a quoted literal without the letters in front of it. -/
def quoted? (style : QuoteStyle) : Text → Option (Text × Nat)
  | [] => none
  | q :: cs =>
    if !isQuote q then none
    else if Text.startsWith cs [q, q] then
      (quotedBody? style [q, q, q] 0 0 [] (cs.drop 2)).map fun (t, n) => (t, n + 3)
    else (quotedBody? style [q] 0 0 [] cs).map fun (t, n) => (t, n + 1)

end Conform.Literal
