/-!
# Random draws

What a generator of samples needs from a source of randomness. The source is a parameter, so that a
statement about samples can be made for every sequence of draws.

## Main definitions

- `Draws` — a source of draws with a state
- `Drawing` — a computation that draws and may fail
- `Drawing.between`, `Drawing.pick`, `Drawing.shuffle` — derived draws
-/

namespace Conform

/-- A source of draws with states in `S`. -/
structure Draws (S : Type) where
  /-- A number that is at most the given one. -/
  upTo : (n : Nat) → S → Fin (n + 1) × S
  /-- A number with the given count of bits. -/
  bits : (count : Nat) → S → Fin (Nat.pow 2 count) × S
  coin : S → Bool × S

/-- A computation that draws from a source and may fail. -/
abbrev Drawing (S E : Type) := ReaderT (Draws S) (StateT S (Except E))

namespace Drawing

variable {S E : Type}

/-- A number that is at most the given one. -/
def upTo (n : Nat) : Drawing S E (Fin (n + 1)) := fun draws s => .ok (draws.upTo n s)

/-- A number with the given count of bits. -/
def bits (count : Nat) : Drawing S E Nat := fun draws s =>
  let (value, next) := draws.bits count s
  .ok (value.val, next)

/-- A truth value. -/
def coin : Drawing S E Bool := fun draws s => .ok (draws.coin s)

/-- An integer between two bounds, both of which are possible; the lower one if they are in the
wrong order. -/
def between (low high : Int) : Drawing S E Int := do
  let k ← upTo (high - low).toNat
  return low + Int.ofNat k.val

/-- A natural number between two bounds, both of which are possible. -/
def natBetween (low high : Nat) : Drawing S E Nat := do
  let k ← upTo (high - low)
  return low + k.val

/-- An item of a list that is not empty. -/
def pick {α : Type} (first : α) (rest : List α) : Drawing S E α := do
  let k ← upTo rest.length
  return ((first :: rest)[k.val]?).getD first

/-- Swaps the items at two places. -/
def swap {α : Type} (items : List α) (i j : Nat) : List α :=
  match items[i]?, items[j]? with
  | some a, some b => (items.set i b).set j a
  | _, _ => items

/-- Shuffles the items up to a place, which is the last one to be exchanged. -/
def shuffleTo {α : Type} : (last : Nat) → List α → Drawing S E (List α)
  | 0, items => return items
  | last + 1, items => do
    let k ← upTo (last + 1)
    shuffleTo last (swap items (last + 1) k.val)

/-- The items of a list in another order. -/
def shuffle {α : Type} (items : List α) : Drawing S E (List α) :=
  shuffleTo (items.length - 1) items

/-- Repeats a computation. -/
def times {α : Type} (body : Drawing S E α) : Nat → Drawing S E (List α)
  | 0 => return []
  | n + 1 => do
    let first ← body
    return first :: (← times body n)

end Drawing

end Conform
