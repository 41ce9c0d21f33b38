import Conform.Text.Basic

/-!
# Texts as bytes

Bytes are decoded piece by piece. A piece that is no code point is a mistake: it makes strict
decoding fail, and lenient decoding puts a replacement mark for it.

## Main definitions

- `Text.utf8` — the bytes of a text
- `Unencodable` — what an encoding cannot hold
- `Encoding` — ways to write texts as bytes
- `Encoding.decode?` — strict decoding, in which surrogates may stand alone
- `Encoding.decodeLossy` — lenient decoding
-/

namespace Conform

/-- The bytes of a code point in UTF-8. -/
def Text.utf8One (c : CodePoint) : List UInt8 :=
  let byte (n : Nat) : UInt8 := UInt8.ofNat n
  let tail (n : Nat) : UInt8 := byte (0x80 + n % 64)
  if c < 0x80 then [byte c]
  else if c < 0x800 then [byte (0xC0 + c / 64), tail c]
  else if c < 0x10000 then [byte (0xE0 + c / 4096), tail (c / 64), tail c]
  else [byte (0xF0 + c / 262144), tail (c / 4096), tail (c / 64), tail c]

/-- The bytes of a text in UTF-8. -/
def Text.utf8 (t : Text) : List UInt8 := t.flatMap Text.utf8One

/-- Code points that an encoding cannot hold: where the first run of them begins, how long it is,
and its first code point. -/
structure Unencodable where
  offset : Nat
  length : Nat
  first : CodePoint
  deriving DecidableEq, Repr

/-- The first run of code points that an encoding cannot hold. -/
def Text.unencodable? (isBad : CodePoint → Bool) (t : Text) : Option Unencodable :=
  let offset := (t.takeWhile (!isBad ·)).length
  match t.drop offset with
  | c :: cs => some ⟨offset, 1 + (cs.takeWhile isBad).length, c⟩
  | [] => none

/-- The complaint about code points that an encoding cannot hold. -/
def Unencodable.message (u : Unencodable) (encoding reason : Text) : Text :=
  let escape : Text :=
    if u.first < 0x100 then "x" ++ Text.hex 2 u.first
    else if u.first < 0x10000 then "u" ++ Text.hex 4 u.first
    else "U" ++ Text.hex 8 u.first
  let place : Text :=
    if u.length = 1 then
      "character '\\" ++ escape ++ "' in position " ++ Text.ofNat u.offset
    else
      "characters in position " ++ Text.ofNat u.offset ++ "-"
        ++ Text.ofNat (u.offset + u.length - 1)
  "'" ++ encoding ++ "' codec can't encode " ++ place ++ ": " ++ reason

/-- Which byte of a unit comes first. -/
inductive ByteOrder
  | big
  | little
  deriving DecidableEq, Repr

/-- Ways to write texts as bytes. Where the order of bytes is open, a mark at the beginning tells
it. -/
inductive Encoding
  | utf8
  /-- UTF-8 with a mark at the beginning. -/
  | markedUtf8
  | utf16 (order : Option ByteOrder)
  | utf32 (order : Option ByteOrder)
  | latin
  | ascii
  | windows
  deriving DecidableEq, Repr

namespace Encoding

/-- What comes out of some bytes: a code point, or nothing if they are malformed. -/
abbrev Piece := Option CodePoint

/-- The number of bytes that follow the first byte of a code point in UTF-8, with the limits of the
second byte; none if no code point begins with this byte. -/
def utf8Tail? (surrogates : Bool) (b : Nat) : Option (Nat × Nat × Nat) :=
  if b < 0xC2 ∨ 0xF4 < b then none
  else if b < 0xE0 then some (1, 0x80, 0xBF)
  else if b < 0xF0 then
    some (2, if b = 0xE0 then 0xA0 else 0x80, if b = 0xED ∧ !surrogates then 0x9F else 0xBF)
  else some (3, if b = 0xF0 then 0x90 else 0x80, if b = 0xF4 then 0x8F else 0xBF)

/-- The piece at the beginning of bytes in UTF-8, and its length. Of malformed bytes those count
that could begin a code point. -/
def utf8Piece (surrogates : Bool) (first : UInt8) (rest : List UInt8) : Piece × Nat :=
  let b := first.toNat
  if b < 0x80 then (some b, 1)
  else
    match utf8Tail? surrogates b with
    | none => (none, 1)
    | some (count, low, high) =>
      let tail := (rest.take count).map UInt8.toNat
      let isTail (c : Nat) : Bool := 0x80 ≤ c && c ≤ 0xBF
      match tail with
      | [] => (none, 1)
      | c :: cs =>
        if c < low ∨ high < c then (none, 1)
        else
          let good := c :: cs.takeWhile isTail
          if good.length = count then
            (some (good.foldl (fun n c => n * 64 + c % 64) (b % (1 <<< (6 - count)))), count + 1)
          else (none, good.length + 1)

/-- The pieces of bytes in UTF-8; `skip` counts the bytes of the last piece. -/
def utf8Pieces (surrogates : Bool) : (skip : Nat) → List UInt8 → List Piece
  | _, [] => []
  | skip + 1, _ :: bs => utf8Pieces surrogates skip bs
  | 0, b :: bs =>
    let (piece, length) := utf8Piece surrogates b bs
    piece :: utf8Pieces surrogates (length - 1) bs

/-- The number that bytes denote. -/
def unitOf (order : ByteOrder) (bytes : List UInt8) : Nat :=
  let bytes := if order = .big then bytes else bytes.reverse
  bytes.foldl (fun n b => n * 256 + b.toNat) 0

/-- The units of two bytes each. -/
def units16 (order : ByteOrder) : List UInt8 → List Piece
  | [] => []
  | [_] => [none]
  | a :: b :: rest => some (unitOf order [a, b]) :: units16 order rest

/-- The units of four bytes each. -/
def units32 (order : ByteOrder) : List UInt8 → List Piece
  | [] => []
  | a :: b :: c :: d :: rest =>
    let n := unitOf order [a, b, c, d]
    (if n ≤ 0x10FFFF then some n else none) :: units32 order rest
  | _ :: _ => [none]

/-- Joins pairs of surrogates. -/
def joinPairs : List Piece → List Piece
  | some high :: some low :: rest =>
    if 0xD800 ≤ high ∧ high ≤ 0xDBFF ∧ 0xDC00 ≤ low ∧ low ≤ 0xDFFF then
      some (0x10000 + (high - 0xD800) * 0x400 + (low - 0xDC00)) :: joinPairs rest
    else some high :: joinPairs (some low :: rest)
  | piece :: rest => piece :: joinPairs rest
  | [] => []

/-- The order that a mark at the beginning tells, and the bytes behind the mark. -/
def markedOrder (big little : List UInt8) (bytes : List UInt8) : ByteOrder × List UInt8 :=
  if big.isPrefixOf bytes then (.big, bytes.drop big.length)
  else if little.isPrefixOf bytes then (.little, bytes.drop little.length)
  else (.little, bytes)

/-- The marks of the order of bytes. -/
def mark8 : List UInt8 := [0xEF, 0xBB, 0xBF]

/-- The mark of units of two bytes, the big end first. -/
def mark16 : List UInt8 := [0xFE, 0xFF]

/-- The mark of units of four bytes, the big end first. -/
def mark32 : List UInt8 := [0, 0, 0xFE, 0xFF]

/-- What the bytes from 128 to 159 stand for in the windows encoding; zero means nothing. -/
def windowsTable : List Nat :=
  [0x20AC, 0, 0x201A, 0x0192, 0x201E, 0x2026, 0x2020, 0x2021, 0x02C6, 0x2030, 0x0160, 0x2039,
    0x0152, 0, 0x017D, 0, 0, 0x2018, 0x2019, 0x201C, 0x201D, 0x2022, 0x2013, 0x2014, 0x02DC,
    0x2122, 0x0161, 0x203A, 0x0153, 0, 0x017E, 0x0178]

/-- What a byte stands for in the windows encoding. -/
def windowsPiece (b : UInt8) : Piece :=
  let n := b.toNat
  if n < 128 ∨ 160 ≤ n then some n
  else match windowsTable[n - 128]? with
    | some c => if c = 0 then none else some c
    | none => none

/-- The pieces of bytes. Surrogates that stand alone are code points where the encoding has units
for them; in UTF-8 only if `surrogates` says so. -/
def pieces (surrogates : Bool) (e : Encoding) (bytes : List UInt8) : List Piece :=
  match e with
  | .utf8 => utf8Pieces surrogates 0 bytes
  | .markedUtf8 =>
    utf8Pieces surrogates 0 (if mark8.isPrefixOf bytes then bytes.drop 3 else bytes)
  | .utf16 (some order) => joinPairs (units16 order bytes)
  | .utf16 none =>
    let (order, bytes) := markedOrder mark16 mark16.reverse bytes
    joinPairs (units16 order bytes)
  | .utf32 (some order) => units32 order bytes
  | .utf32 none =>
    let (order, bytes) := markedOrder mark32 mark32.reverse bytes
    units32 order bytes
  | .latin => bytes.map fun b => some b.toNat
  | .ascii => bytes.map fun b => if b.toNat < 128 then some b.toNat else none
  | .windows => bytes.map windowsPiece

/-- The text of bytes, unless some are malformed. -/
def decode? (e : Encoding) (bytes : List UInt8) : Option Text := (e.pieces true bytes).mapM id

/-- The code point that stands for a mistake. -/
def replacement : CodePoint := 0xFFFD

/-- The text of bytes, with a replacement mark for each malformed piece and each surrogate. -/
def decodeLossy (e : Encoding) (bytes : List UInt8) : Text :=
  (e.pieces false bytes).map fun
    | some c => if Text.isSurrogate c then replacement else c
    | none => replacement

/-- The encoding that the first bytes of a JSON text show. -/
def ofJson (bytes : List UInt8) : Encoding :=
  if mark32.isPrefixOf bytes ∨ mark32.reverse.isPrefixOf bytes then .utf32 none
  else if mark16.isPrefixOf bytes ∨ mark16.reverse.isPrefixOf bytes then .utf16 none
  else if mark8.isPrefixOf bytes then .markedUtf8
  else
    match bytes with
    | a :: b :: c :: d :: _ =>
      if a = 0 then (if b = 0 then .utf32 (some .big) else .utf16 (some .big))
      else if b = 0 then
        (if c = 0 ∧ d = 0 then .utf32 (some .little) else .utf16 (some .little))
      else .utf8
    | [a, b] =>
      if a = 0 then .utf16 (some .big) else if b = 0 then .utf16 (some .little) else .utf8
    | _ => .utf8

/-- The names of encodings, in small letters and with underscores between their parts. -/
def names : List (String × Encoding) := [
  ("utf_8", .utf8), ("utf8", .utf8), ("u8", .utf8), ("utf", .utf8), ("cp65001", .utf8),
  ("utf8_ucs2", .utf8), ("utf8_ucs4", .utf8), ("utf_8_sig", .markedUtf8),
  ("utf_16", .utf16 none), ("utf16", .utf16 none), ("u16", .utf16 none),
  ("utf_16_le", .utf16 (some .little)), ("utf_16le", .utf16 (some .little)),
  ("unicodelittleunmarked", .utf16 (some .little)),
  ("utf_16_be", .utf16 (some .big)), ("utf_16be", .utf16 (some .big)),
  ("unicodebigunmarked", .utf16 (some .big)),
  ("utf_32", .utf32 none), ("utf32", .utf32 none), ("u32", .utf32 none),
  ("utf_32_le", .utf32 (some .little)), ("utf_32le", .utf32 (some .little)),
  ("utf_32_be", .utf32 (some .big)), ("utf_32be", .utf32 (some .big)),
  ("latin_1", .latin), ("latin1", .latin), ("latin", .latin), ("iso_8859_1", .latin),
  ("iso8859_1", .latin), ("8859", .latin), ("iso8859", .latin), ("cp819", .latin), ("l1", .latin),
  ("ibm819", .latin), ("iso_ir_100", .latin), ("csisolatin1", .latin),
  ("iso_8859_1_1987", .latin),
  ("ascii", .ascii), ("us_ascii", .ascii), ("us", .ascii), ("646", .ascii), ("cp367", .ascii),
  ("ansi_x3.4_1968", .ascii), ("ansi_x3_4_1968", .ascii), ("iso646_us", .ascii),
  ("cp1252", .windows), ("windows_1252", .windows), ("1252", .windows)]

/-- The encoding with a name; case and the marks between its parts do not matter. -/
def ofName? (name : Text) : Option Encoding :=
  let part (c : CodePoint) : CodePoint :=
    if 65 ≤ c ∧ c ≤ 90 then c + 32
    else if Text.isDigit c ∨ Text.isAsciiLetter c ∨ c = '.'.toNat then c
    else '_'.toNat
  let plain := name.map part
  (names.find? fun (n, _) => Text.ofString n == plain).map (·.2)

end Encoding

end Conform
