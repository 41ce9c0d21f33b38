import Conform.Text.Basic
import Conform.Text.CharacterName.Table

/-!
# Character names

The code points of Unicode 14 by their names. Most names stand in a table. The names of Hangul
syllables are spelled from the names of their letters, and those of some ideographs end in the
hexadecimal number of the code point. Letter case does not matter, except in the names of Hangul
syllables and of unified ideographs.

## Main definitions

- `CharacterName.codePoint?` — the code point with a name or an alias
-/

namespace Conform.CharacterName

/-- A word of a name. -/
abbrev Word := List Char

/-- The names of initial consonants in syllables. -/
def initials : List String :=
  ["G", "GG", "N", "D", "DD", "R", "M", "B", "BB", "S", "SS", "", "J", "JJ", "C", "K", "T", "P",
   "H"]

/-- The names of vowels in syllables. -/
def vowels : List String :=
  ["A", "AE", "YA", "YAE", "EO", "E", "YEO", "YE", "O", "WA", "WAE", "OE", "YO", "U", "WEO", "WE",
   "WI", "YU", "EU", "YI", "I"]

/-- The names of final consonants in syllables. -/
def finals : List String :=
  ["", "G", "GG", "GS", "N", "NJ", "NH", "D", "L", "LG", "LM", "LB", "LS", "LT", "LP", "LH", "M",
   "B", "BS", "S", "SS", "NG", "J", "C", "K", "T", "P", "H"]

/-- The longest of some names that a text begins with, by its index, and the rest of the text. -/
def longest? (names : List String) (cs : List Char) : Option (Nat × List Char) :=
  let starts := names.zipIdx.filterMap fun (name, i) =>
    if name.toList.isPrefixOf cs then some (name.length, i) else none
  (starts.foldl (fun best start => match best with
    | some (length, _) => if length < start.1 then some start else best
    | none => some start) none).map fun (length, i) => (i, cs.drop length)

/-- The Hangul syllable that is spelled by the names of its letters. -/
def syllable? (cs : List Char) : Option Nat := do
  let (initial, cs) ← longest? initials cs
  let (vowel, cs) ← longest? vowels cs
  let (final, cs) ← longest? finals cs
  if cs.isEmpty then
    return 0xAC00 + (initial * vowels.length + vowel) * finals.length + final
  else none

/-- The value of a capital hexadecimal digit. -/
def hexDigit? (c : Char) : Option Nat :=
  if '0' ≤ c ∧ c ≤ '9' then some (c.toNat - 48)
  else if 'A' ≤ c ∧ c ≤ 'F' then some (c.toNat - 55)
  else none

/-- The value of a row of capital hexadecimal digits. -/
def hexValue? (cs : List Char) : Option Nat :=
  (cs.mapM hexDigit?).map (·.foldl (fun n d => 16 * n + d) 0)

/-- Whether a number lies in one of some ranges. -/
def isWithin (ranges : List (Nat × Nat)) (n : Nat) : Bool :=
  ranges.any fun (low, high) => low ≤ n && n ≤ high

/-- The unified ideographs. -/
def unifiedIdeographs : List (Nat × Nat) :=
  [(0x3400, 0x4DBF), (0x4E00, 0x9FFF), (0x20000, 0x2A6DF), (0x2A700, 0x2B738), (0x2B740, 0x2B81D),
   (0x2B820, 0x2CEA1), (0x2CEB0, 0x2EBE0), (0x30000, 0x3134A)]

/-- The unified ideograph with a number of four or five digits. -/
def unifiedIdeograph? (cs : List Char) : Option Nat :=
  if cs.length = 4 ∨ cs.length = 5 then
    (hexValue? cs).filter (isWithin unifiedIdeographs)
  else none

/-- The beginnings of names that end in the number of the code point, with their ranges. -/
def numbered : List (String × List (Nat × Nat)) :=
  [("CJK COMPATIBILITY IDEOGRAPH-", [(0xF900, 0xFA6D), (0xFA70, 0xFAD9), (0x2F800, 0x2FA1D)]),
   ("KHITAN SMALL SCRIPT CHARACTER-", [(0x18B00, 0x18CD5)]),
   ("NUSHU CHARACTER-", [(0x1B170, 0x1B2FB)])]

/-- What follows a beginning. -/
def after? (start : String) (cs : List Char) : Option (List Char) :=
  if start.toList.isPrefixOf cs then some (cs.drop start.length) else none

/-- The code point whose name ends in its number, which has no superfluous zeros. -/
def numbered? (cs : List Char) : Option Nat :=
  numbered.findSome? fun (start, ranges) => do
    let digits ← after? start cs
    let n ← hexValue? digits
    if isWithin ranges n && digits.length == (if n < 0x10000 then 4 else 5) then some n else none

/-- The characters of a table. -/
def characters (lines : List String) : List Char := lines.flatMap String.toList

/-- Cuts a table before each head. What stands before the first head is left out. -/
def cutAt (isHead : Char → Bool) (cs : List Char) : List (Char × List Char) :=
  (cs.foldr (fun c (open_, cuts) =>
    if isHead c then ([], (c, open_) :: cuts) else (c :: open_, cuts)) ([], [])).2

/-- The number that a small letter counts. -/
def counted (c : Char) : Nat := c.toNat - 'a'.toNat

/-- The frequent words. -/
def lexicon : Unit → Array Word := fun _ =>
  ((cutAt Char.isLower (characters words)).foldl (fun (found, last) (head, letters) =>
    let word := last.take (counted head) ++ letters
    (found.push word, word)) (#[], [])).1

/-- The place of a sign among others. -/
def placeOf? (signs : List Char) (c : Char) : Option Nat :=
  let place := signs.idxOf c
  if place < signs.length then some place else none

/-- The frequent word with two signs. -/
def frequent (lexicon : Array Word) (first : Nat) (second : Char) : Word :=
  let place := first * secondSigns.length + secondSigns.toList.idxOf second
  lexicon[place]?.getD []

/-- The word that has been spelled, if one has. -/
def spelled (letters : Word) : List Word := if letters.isEmpty then [] else [letters]

/-- The words of an entry; `letters` have been spelled so far. -/
def wordsOf (lexicon : Array Word) : (letters : Word) → List Char → List Word
  | letters, [] => spelled letters
  | letters, [c] => spelled (if c = '.' then letters else letters ++ [c])
  | letters, c :: d :: cs =>
    if c = '.' then spelled letters ++ wordsOf lexicon [] (d :: cs)
    else
      match placeOf? firstSigns.toList c with
      | some first => spelled letters ++ frequent lexicon first d :: wordsOf lexicon [] cs
      | none => wordsOf lexicon (letters ++ [c]) (d :: cs)

/-- The distance of an entry from the one before it, and the rest of the entry. -/
def distance (body : List Char) : Nat × List Char :=
  match body with
  | '~' :: rest =>
    ((hexValue? (rest.takeWhile (· != '~'))).getD 0, (rest.dropWhile (· != '~')).drop 1)
  | _ => (1, body)

/-- Looks for a name among entries, where `next` is the code point after the one before them and
`last` are the words of that one. -/
def findIn (lexicon : Array Word) (name : List Word) :
    (entries : List (Char × List Char)) → (next : Nat) → (last : List Word) → Option Nat
  | [], _, _ => none
  | (head, body) :: rest, next, last =>
    let (step, body) := distance body
    let code := next + step - 1
    let words := last.take (counted head) ++ wordsOf lexicon [] body
    if words == name then some code else findIn lexicon name rest (code + 1) words

/-- The code point with a name in a table. -/
def find? (table : List String) (name : List Word) : Option Nat :=
  findIn (lexicon ()) name (cutAt (fun c => 'a' ≤ c && c ≤ 'l') (characters table)) 0 []

/-- The code point with a name or an alias. -/
def codePoint? (name : Text) : Option CodePoint :=
  let cs := name.map Char.ofNat
  match after? "HANGUL SYLLABLE " cs, after? "CJK UNIFIED IDEOGRAPH-" cs with
  | some letters, _ => syllable? letters
  | _, some digits => unifiedIdeograph? digits
  | none, none =>
    let capital := cs.map Char.toUpper
    let words := capital.splitOn ' '
    numbered? capital <|> find? entries words <|> find? aliases words

end Conform.CharacterName
