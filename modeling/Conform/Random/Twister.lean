import Conform.Random.Digest
import Conform.Random.Draws
import Conform.Text.Encoding

/-!
# The twister

The generator MT19937 with 624 words of 32 bits. It is seeded with a list of words that stand for an
integer; a text as seed stands for the integer that its bytes and their digest make.

## Main definitions

- `Twister` — a state of the generator
- `Twister.ofSeed` — the state that a seed gives
- `Twister.next` — one word
- `Twister.draws` — the generator as a source of draws
-/

namespace Conform

/-- A state of the generator: its words and the place of the next one. -/
structure Twister where
  words : Array UInt32
  place : Nat

/-- A seed. -/
inductive Seed
  | int (n : Int)
  | text (t : Text)
  deriving DecidableEq, Repr

namespace Twister

/-- The number of words. -/
def size : Nat := 624

/-- The word at a place. -/
def word (words : Array UInt32) (i : Nat) : UInt32 := words.getD i 0

/-- A word mixed with the one before it. -/
def mixed (words : Array UInt32) (i : Nat) (factor : UInt32) : UInt32 :=
  let before := word words (i - 1)
  word words i ^^^ ((before ^^^ (before >>> 30)) * factor)

/-- The words that one number gives. -/
def spread (seed : UInt32) : Array UInt32 :=
  (List.range (size - 1)).foldl (fun words i =>
    let before := word words i
    let mixed := before ^^^ (before >>> 30)
    words.push ((1812433253 : UInt32) * mixed + UInt32.ofNat (i + 1))) #[seed]

/-- The place after a place. The last word is copied to the front when the end is reached. -/
def advance (words : Array UInt32) (i : Nat) : Array UInt32 × Nat :=
  if i + 1 ≥ size then (words.setIfInBounds 0 (word words (size - 1)), 1) else (words, i + 1)

/-- Stirs the words of a key in, one at each step. -/
def stirKey (key : Array UInt32) :
    (steps : Nat) → (i j : Nat) → Array UInt32 → Array UInt32 × Nat
  | 0, i, _, words => (words, i)
  | steps + 1, i, j, words =>
    let value := mixed words i 1664525 + word key j + UInt32.ofNat j
    let (words, i) := advance (words.setIfInBounds i value) i
    stirKey key steps i (if j + 1 ≥ key.size then 0 else j + 1) words

/-- Stirs the words once more. -/
def stir : (steps : Nat) → (i : Nat) → Array UInt32 → Array UInt32
  | 0, _, words => words
  | steps + 1, i, words =>
    let value := mixed words i 1566083941 - UInt32.ofNat i
    let (words, i) := advance (words.setIfInBounds i value) i
    stir steps i words

/-- The state that a key gives. -/
def ofKey (key : Array UInt32) : Twister :=
  let (words, i) := stirKey key (max size key.size) 1 0 (spread 19650218)
  ⟨(stir (size - 1) i words).setIfInBounds 0 0x80000000, size⟩

/-- The words of 32 bits of a number, least significant first; at least one. -/
def keyOf (n : Nat) : Array UInt32 :=
  let count := max 1 ((n.log2 + 32) / 32)
  ((List.range count).map fun i => UInt32.ofNat ((n >>> (32 * i)) % (1 <<< 32))).toArray

/-- The number that a seed stands for. -/
def seedNumber : Seed → Nat
  | .int n => n.natAbs
  | .text t =>
    let bytes := t.utf8
    Digest.bigEndian (bytes ++ Digest.ofBytes bytes)

/-- The state that a seed gives. -/
def ofSeed (seed : Seed) : Twister := ofKey (keyOf (seedNumber seed))

/-- The word that replaces the one at a place. -/
def twisted (words : Array UInt32) (i : Nat) : UInt32 :=
  let y := (word words i &&& 0x80000000) ||| (word words ((i + 1) % size) &&& 0x7fffffff)
  let turned := word words ((i + 397) % size) ^^^ (y >>> 1)
  if y &&& 1 = 0 then turned else turned ^^^ 0x9908b0df

/-- Replaces all words. -/
def regenerate (words : Array UInt32) : Array UInt32 :=
  (List.range size).foldl (fun ws i => ws.setIfInBounds i (twisted ws i)) words

/-- A word as it is given out. -/
def tempered (y : UInt32) : UInt32 :=
  let y := y ^^^ (y >>> 11)
  let y := y ^^^ ((y <<< 7) &&& 0x9d2c5680)
  let y := y ^^^ ((y <<< 15) &&& 0xefc60000)
  y ^^^ (y >>> 18)

/-- The next word. -/
def next (t : Twister) : UInt32 × Twister :=
  let (words, place) := if t.place ≥ size then (regenerate t.words, 0) else (t.words, t.place)
  (tempered (word words place), ⟨words, place + 1⟩)

/-- A number of some bits from words, the first of which is the least significant; of the last word
the high bits count. `fuel` bounds the number of words. -/
def bitsFrom : (fuel : Nat) → (count : Nat) → Twister → Nat × Twister
  | 0, _, t => (0, t)
  | fuel + 1, count, t =>
    let (w, t) := t.next
    if count ≤ 32 then (w.toNat >>> (32 - count), t)
    else
      let (rest, t) := bitsFrom fuel (count - 32) t
      (w.toNat + rest <<< 32, t)

/-- A number with the given count of bits. -/
def bits (count : Nat) (t : Twister) : Fin (Nat.pow 2 count) × Twister :=
  let (n, t) := if count = 0 then (0, t) else bitsFrom (count / 32 + 1) count t
  (⟨n % Nat.pow 2 count, Nat.mod_lt n (Nat.two_pow_pos count)⟩, t)

/-- How many draws may be rejected before the lowest number is taken; each is rejected with a chance
below one half. -/
def patience : Nat := 100000

/-- A number that is at most `n`: the first draw of enough bits that is. -/
def upToWithin (n : Nat) : (rounds : Nat) → Twister → Fin (n + 1) × Twister
  | 0, t => (0, t)
  | rounds + 1, t =>
    let (k, t) := t.bits ((n + 1).log2 + 1)
    if h : k.val < n + 1 then (⟨k.val, h⟩, t) else upToWithin n rounds t

/-- Whether a double of 53 random bits is below one half. -/
def coin (t : Twister) : Bool × Twister :=
  let (high, t) := t.next
  let (_, t) := t.next
  (high.toNat < 1 <<< 31, t)

/-- The generator as a source of draws. -/
def draws : Draws Twister := ⟨fun n => upToWithin n patience, bits, coin⟩

end Twister

end Conform
