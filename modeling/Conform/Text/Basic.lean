/-!
# Text

A text is a list of code points. Lone surrogates may occur in it, so a code point is a number and
not a `Char`. Lengths, columns and positions all count code points.

## Main definitions

- `Text` — a sequence of code points, with literals by coercion from `String`
- `Text.join`, `Text.splitAll` — gluing and splitting
- `Text.ofNat`, `Text.ofInt`, `Text.hex` — written numbers
- `Text.startsWith`, `Text.includes`, `Text.splitFirst?`, `Text.replace` — searching
-/

namespace Conform

/-- A code point, surrogates included. -/
abbrev CodePoint := Nat

/-- A sequence of code points. -/
abbrev Text := List CodePoint

/-- The code points of a string. -/
def Text.ofString (s : String) : Text := s.toList.map Char.toNat

instance : Coe String Text := ⟨Text.ofString⟩

/-- Texts that compare equal are equal. -/
instance : LawfulBEq Text := inferInstance

namespace Text

/-- The line feed. -/
def newline : CodePoint := 10

/-- A text as a string, if it holds no surrogate. -/
def toString? (t : Text) : Option String :=
  (t.mapM fun (c : Nat) => if c.isValidChar then some (Char.ofNat c) else none).map String.ofList

/-- The texts of a list with a separator between neighbours. -/
def join (separator : Text) : List Text → Text
  | [] => []
  | [t] => t
  | t :: u :: rest => t ++ separator ++ join separator (u :: rest)

/-- The decimal digits of a natural number. -/
def ofNat (n : Nat) : Text := (Nat.toDigits 10 n).map Char.toNat

/-- An integer in decimal, with a minus sign when it is negative. -/
def ofInt : Int → Text
  | .ofNat n => ofNat n
  | .negSucc n => '-'.toNat :: ofNat (n + 1)

/-- A natural number in lower-case hexadecimal, filled with zeros to at least `width` digits. -/
def hex (width n : Nat) : Text :=
  let digits := (Nat.toDigits 16 n).map Char.toNat
  List.replicate (width - digits.length) '0'.toNat ++ digits

/-- A natural number in decimal, filled with zeros to at least `width` digits. -/
def padded (width n : Nat) : Text :=
  let digits := ofNat n
  List.replicate (width - digits.length) '0'.toNat ++ digits

/-- What follows `start` in a text that begins with it. -/
def after? : (start text : Text) → Option Text
  | [], t => some t
  | _ :: _, [] => none
  | c :: cs, d :: ds => if c = d then after? cs ds else none

/-- Whether a text begins with another. -/
def startsWith (t start : Text) : Bool := (after? start t).isSome

/-- Whether a text ends with another. -/
def endsWith (t tail : Text) : Bool := (after? tail.reverse t.reverse).isSome

/-- Whether a text has another as a block of neighbours. -/
def includes : (t needle : Text) → Bool
  | [], needle => needle.isEmpty
  | c :: cs, needle => startsWith (c :: cs) needle || includes cs needle

/-- Cuts a text at the first occurrence of `mark`, which is dropped. -/
def splitFirst? (mark : CodePoint) : Text → Option (Text × Text)
  | [] => none
  | c :: cs =>
    if c = mark then some ([], cs) else (splitFirst? mark cs).map fun (a, b) => (c :: a, b)

/-- Cuts a text at the last occurrence of `mark`, which is dropped. -/
def splitLast? (mark : CodePoint) (t : Text) : Option (Text × Text) :=
  (splitFirst? mark t.reverse).map fun (a, b) => (b.reverse, a.reverse)

/-- The pieces of a text between occurrences of `mark`; there is always at least one. -/
def splitAll (mark : CodePoint) : Text → List Text
  | [] => [[]]
  | c :: cs =>
    match splitAll mark cs with
    | [] => [[c]]
    | piece :: rest => if c = mark then [] :: piece :: rest else (c :: piece) :: rest

/-- Puts `new` for each occurrence of the non-empty text `old`, from left to right; `skip` counts
the code points of the last occurrence that are still to be dropped. -/
def replaceFrom (old new : Text) : (skip : Nat) → Text → Text
  | _, [] => []
  | skip + 1, _ :: cs => replaceFrom old new skip cs
  | 0, c :: cs =>
    if startsWith (c :: cs) old then new ++ replaceFrom old new (old.length - 1) cs
    else c :: replaceFrom old new 0 cs

/-- Puts `new` for each occurrence of the non-empty text `old`, from left to right. -/
def replace (old new t : Text) : Text := replaceFrom old new 0 t

/-- A text with each line end made a line feed: a carriage return counts as one, alone or with a
line feed behind it. -/
def withLineFeedsFrom : (afterReturn : Bool) → Text → Text
  | _, [] => []
  | afterReturn, c :: cs =>
    if c = 13 then newline :: withLineFeedsFrom true cs
    else if c = newline ∧ afterReturn then withLineFeedsFrom false cs
    else c :: withLineFeedsFrom false cs

/-- A text with each line end made a line feed. -/
def withLineFeeds (t : Text) : Text := withLineFeedsFrom false t

/-- Drops the longest tail whose code points all satisfy `p`. -/
def dropRightWhile (p : CodePoint → Bool) (t : Text) : Text := (t.reverse.dropWhile p).reverse

/-- Whether a code point is one of the ten ASCII digits. -/
def isDigit (c : CodePoint) : Bool := 48 ≤ c && c ≤ 57

/-- Whether a code point is an ASCII letter. -/
def isAsciiLetter (c : CodePoint) : Bool := (65 ≤ c && c ≤ 90) || (97 ≤ c && c ≤ 122)

/-- The value of a hexadecimal digit. -/
def hexValue? (c : CodePoint) : Option Nat :=
  if 48 ≤ c ∧ c ≤ 57 then some (c - 48)
  else if 65 ≤ c ∧ c ≤ 70 then some (c - 55)
  else if 97 ≤ c ∧ c ≤ 102 then some (c - 87)
  else none

/-- The number that a row of ASCII digits denotes. -/
def digitsValue (t : Text) : Nat := t.foldl (fun n c => 10 * n + (c - 48)) 0

/-- Whether a code point is one half of a surrogate pair. -/
def isSurrogate (c : CodePoint) : Bool := 0xD800 ≤ c && c ≤ 0xDFFF

/-- Lexicographic order by code point. -/
def before : Text → Text → Bool
  | [], [] => false
  | [], _ :: _ => true
  | _ :: _, [] => false
  | c :: cs, d :: ds => c < d || (c == d && before cs ds)

/-- Whether a code point lies in one of the given closed ranges. -/
def inRanges (ranges : List (Nat × Nat)) (c : CodePoint) : Bool :=
  ranges.any fun (low, high) => low ≤ c && c ≤ high

end Text

end Conform
