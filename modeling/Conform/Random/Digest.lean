/-!
# SHA-512

The digest of 64 bytes. Its constants are the first 64 bits behind the point of the roots of primes:
of the square roots of the first 8 and of the cube roots of the first 80.

## Main definitions

- `Digest.ofBytes` — the digest
-/

namespace Conform.Digest

/-- Whether a number is prime. -/
def isPrime (n : Nat) : Bool :=
  2 ≤ n && (List.range n).all fun d => d < 2 || d * d > n || n % d != 0

/-- The first 80 primes. -/
def primes : List Nat := (List.range 410).filter isPrime

/-- The largest number with `count` bits that satisfies a test which larger numbers only lose. -/
def largest (test : Nat → Bool) : (count : Nat) → (found : Nat) → Nat
  | 0, found => found
  | count + 1, found =>
    let candidate := found + 1 <<< count
    largest test count (if test candidate then candidate else found)

/-- The first 64 bits behind the point of a root of a number. -/
def rootBits (degree n : Nat) : UInt64 :=
  UInt64.ofNat (largest (fun r => Nat.pow r degree ≤ n <<< (64 * degree)) 70 0)

/-- The constants of the rounds. -/
def roundConstants : List UInt64 := primes.map (rootBits 3)

/-- Eight words, from which the digest is made. -/
structure State where
  a : UInt64
  b : UInt64
  c : UInt64
  d : UInt64
  e : UInt64
  f : UInt64
  g : UInt64
  h : UInt64

/-- The words to begin with. -/
def State.initial : State :=
  let root (i : Nat) : UInt64 := rootBits 2 ((primes[i]?).getD 0)
  ⟨root 0, root 1, root 2, root 3, root 4, root 5, root 6, root 7⟩

/-- The words of a state. -/
def State.words (s : State) : List UInt64 := [s.a, s.b, s.c, s.d, s.e, s.f, s.g, s.h]

/-- The sum of two states, word by word. -/
def State.add (s t : State) : State :=
  ⟨s.a + t.a, s.b + t.b, s.c + t.c, s.d + t.d, s.e + t.e, s.f + t.f, s.g + t.g, s.h + t.h⟩

/-- Rotates a word to the right. -/
def rotate (x : UInt64) (n : UInt64) : UInt64 := (x >>> n) ||| (x <<< (64 - n))

/-- One round with a word of the message and a constant. -/
def State.round (s : State) (word constant : UInt64) : State :=
  let mixed := rotate s.e 14 ^^^ rotate s.e 18 ^^^ rotate s.e 41
  let choice := (s.e &&& s.f) ^^^ ((~~~ s.e) &&& s.g)
  let first := s.h + mixed + choice + constant + word
  let turned := rotate s.a 28 ^^^ rotate s.a 34 ^^^ rotate s.a 39
  let majority := (s.a &&& s.b) ^^^ (s.a &&& s.c) ^^^ (s.b &&& s.c)
  ⟨first + turned + majority, s.a, s.b, s.c, s.d + first, s.e, s.f, s.g⟩

/-- The next word of a schedule whose last sixteen words are given, latest first. -/
def nextWord (recent : List UInt64) : UInt64 :=
  let word (back : Nat) : UInt64 := (recent[back - 1]?).getD 0
  let low := rotate (word 15) 1 ^^^ rotate (word 15) 8 ^^^ (word 15 >>> 7)
  let high := rotate (word 2) 19 ^^^ rotate (word 2) 61 ^^^ (word 2 >>> 6)
  word 16 + low + word 7 + high

/-- The words of all rounds, latest first, from those of a block. -/
def schedule : (count : Nat) → List UInt64 → List UInt64
  | 0, words => words
  | count + 1, words => schedule count (nextWord words :: words)

/-- A row of bytes as one number, most significant first. -/
def bigEndian (bytes : List UInt8) : Nat := bytes.foldl (fun n b => 256 * n + b.toNat) 0

/-- The groups of `size` neighbours in a list; `fuel` bounds their number. -/
def groups {α : Type} (size : Nat) : (fuel : Nat) → List α → List (List α)
  | 0, _ => []
  | _, [] => []
  | fuel + 1, items => items.take size :: groups size fuel (items.drop size)

/-- The state after a block of 128 bytes. -/
def State.absorb (s : State) (block : List UInt8) : State :=
  let words := (groups 8 16 block).map fun bytes => UInt64.ofNat (bigEndian bytes)
  let all := (schedule 64 words.reverse).reverse
  s.add ((all.zip roundConstants).foldl (fun t (word, constant) => t.round word constant) s)

/-- The bytes of a number, most significant first. -/
def bytesOf : (count : Nat) → Nat → List UInt8
  | 0, _ => []
  | count + 1, n => bytesOf count (n / 256) ++ [UInt8.ofNat (n % 256)]

/-- A message with a mark, zeros, and its length in bits, which fills blocks of 128 bytes. -/
def padded (message : List UInt8) : List UInt8 :=
  let zeros := (239 - message.length % 128) % 128
  message ++ [0x80] ++ List.replicate zeros 0 ++ bytesOf 16 (8 * message.length)

/-- The digest of a message. -/
def ofBytes (message : List UInt8) : List UInt8 :=
  let full := padded message
  let final := (groups 128 full.length full).foldl State.absorb State.initial
  final.words.flatMap fun w => bytesOf 8 w.toNat

end Conform.Digest
