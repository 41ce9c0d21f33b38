import Conform.Number.Arithmetic
import Conform.Number.Multiple
import Conform.Sample.Options
import Conform.Schema.Formats

/-!
# Samples without parts

Texts, numbers and dates that fit the rules of a schema: lengths, bounds, steps, affixes and
formats. A rule that says nothing about how to fit it is not looked at.

## Main definitions

- `Sampling` — drawing with the faults of arithmetic
- `sampleDate`, `sampleText`, `sampleNumber` — samples
-/

namespace Conform

/-- Drawing with the faults of arithmetic. -/
abbrev Sampling (S : Type) := Drawing S ArithmeticFault

namespace Sampling

/-- The result of a computation that may fail. -/
def lift {S α : Type} (result : Except ArithmeticFault α) : Sampling S α := fun _ s =>
  result.map fun a => (a, s)

end Sampling

namespace Alphabet

/-- The small letters. -/
def small : Text := "abcdefghijklmnopqrstuvwxyz"

/-- The small letters and the digits. -/
def smallAndDigits : Text := "abcdefghijklmnopqrstuvwxyz0123456789"

/-- All letters and the digits. -/
def alphanumeric : Text := "abcdefghijklmnopqrstuvwxyzABCDEFGHIJKLMNOPQRSTUVWXYZ0123456789"

/-- The digits of a sortable identifier. -/
def sortable : Text := "0123456789ABCDEFGHJKMNPQRSTVWXYZ"

/-- The code points of a short identifier. -/
def short : Text := "abcdefghijklmnopqrstuvwxyzABCDEFGHIJKLMNOPQRSTUVWXYZ0123456789_-"

/-- The digits of base 64. -/
def base64 : Text := "ABCDEFGHIJKLMNOPQRSTUVWXYZabcdefghijklmnopqrstuvwxyz0123456789+/"

/-- Some emoji. -/
def emoji : Text := [0x1F600, 0x1F680, 0x1F4A1, 0x1F389, 0x2728]

end Alphabet

/-- Bounds of a length; no upper one if there is none. -/
structure LengthBounds where
  lower : Nat := 0
  upper : Option Nat := none
  deriving DecidableEq, Repr

namespace LengthBounds

/-- The bounds under one more rule. An exact length replaces the bounds before it. -/
def add (b : LengthBounds) : LengthRule → LengthBounds
  | .min n => { b with lower := max b.lower n }
  | .max n => { b with upper := some (match b.upper with | some m => min m n | none => n) }
  | .length n => ⟨n, some n⟩

/-- The length nearest to a given one within the bounds; the upper bound wins. -/
def clamp (b : LengthBounds) (n : Nat) : Nat :=
  let n := max n b.lower
  match b.upper with
  | some m => min n m
  | none => n

end LengthBounds

section

variable {S : Type}

/-- The first day of samples. -/
def firstSampleDay : Date := ⟨2020, 1, 1⟩

/-- A day in the five years from the first one on. -/
def sampleDate : Sampling S Date := do
  let days ← Drawing.natBetween 0 (365 * 5)
  return firstSampleDay.addDays days

/-- A code point of an alphabet. -/
def sampleLetter : Text → Sampling S CodePoint
  | [] => return 0
  | c :: cs => Drawing.pick c cs

/-- A text of some length over an alphabet. -/
def sampleWord (alphabet : Text) (length : Nat) : Sampling S Text :=
  Drawing.times (sampleLetter alphabet) length

/-- A random identifier of 128 bits with the marks of version four. -/
def uuidText (random : Nat) : Text :=
  let part (shift width : Nat) : Nat := (random >>> shift) % (1 <<< width)
  Text.hex 8 (part 96 32) ++ "-" ++ Text.hex 4 (part 80 16) ++ "-4" ++ Text.hex 3 (part 64 12)
    ++ "-" ++ Text.hex 4 (0x8000 + part 48 14) ++ "-" ++ Text.hex 12 (part 0 48)

/-- Three bytes as four digits of base 64. -/
def base64Digits (a b c : Nat) : Text :=
  let n := (a * 256 + b) * 256 + c
  [n / 262144, n / 4096 % 64, n / 64 % 64, n % 64].map fun d => (Alphabet.base64[d]?).getD 0

/-- Bytes in base 64, three at a time. -/
def base64Text : List Nat → Text
  | a :: b :: c :: rest => base64Digits a b c ++ base64Text rest
  | _ => []

/-- The fractions of a second that are tried, from none to nine zeros. -/
def triedFractions : List Text :=
  [] :: (List.range 9).map fun n => '.'.toNat :: List.replicate (n + 1) '0'.toNat

/-- The first accepted text that begins with `base`, has one of the fractions, and ends with one of
some tails; failing all, the base with the first tail. -/
def firstAccepted (accepts : Text → Bool) (base : Text) (tails : List Text) : Text :=
  let candidates := tails.flatMap fun tail => triedFractions.map fun f => base ++ f ++ tail
  (candidates.find? accepts).getD (base ++ tails.headD [])

/-- The tails that are tried behind a point of time. -/
def triedZones : List Text := ["Z", "", "+00:00"].map Text.ofString

/-- A text of a format with a pattern, where a word of small letters is given. -/
def sampleFormat (word : Text) : TextFormat → Sampling S Text
  | .email => return word ++ "@example.com"
  | .uuid => do return uuidText (← Drawing.bits 128)
  | .cuid => do return 'c'.toNat :: (← sampleWord Alphabet.smallAndDigits 24)
  | .cuid2 => sampleWord Alphabet.smallAndDigits 24
  | .ulid => sampleWord Alphabet.sortable 26
  | .nanoid => sampleWord Alphabet.short 21
  | .emoji => do return [← sampleLetter Alphabet.emoji]
  | .base64 => do return base64Text (← Drawing.times (Drawing.bits 8) 9)
  | .date => do return (← sampleDate).iso
  | .duration => do return "P" ++ Text.ofNat (← Drawing.natBetween 1 30) ++ "D"

/-- A text that fits a rule about the whole of it, if the rule says how. A word of small letters is
drawn even where it is of no use. -/
def sampleRule (rule : StringRule) : Sampling S (Option Text) := do
  let word ← sampleWord Alphabet.small 8
  match rule with
  | .format f => return some (← sampleFormat word f)
  | .url => return some ("https://example.com/" ++ word)
  | .ip (some .v6) =>
    return some ("2001:db8::" ++ Text.hex 1 (← Drawing.natBetween 1 0xFFFF))
  | .ip _ =>
    let a ← Drawing.natBetween 0 255
    let b ← Drawing.natBetween 1 254
    return some ("192.168." ++ Text.ofNat a ++ "." ++ Text.ofNat b)
  | .datetime form =>
    let day ← sampleDate
    return some (firstAccepted form.accepts (day.iso ++ "T10:30:00") triedZones)
  | .time fraction => return some (firstAccepted fraction.accepts "10:30:00" [[]])
  | _ => return none

/-- What the rules of a string ask for. -/
structure TextPlan where
  bounds : LengthBounds := {}
  start : Text := []
  tail : Text := []
  needle : Text := []
  position : Nat := 0
  /-- A text that fits the first rule about the whole. -/
  whole : Option Text := none

/-- The plan under one more rule. -/
def TextPlan.add (plan : TextPlan) : StringRule → Sampling S TextPlan
  | .min n => return { plan with bounds := plan.bounds.add (.min n) }
  | .max n => return { plan with bounds := plan.bounds.add (.max n) }
  | .length n => return { plan with bounds := plan.bounds.add (.length n) }
  | .startsWith t => return { plan with start := t }
  | .endsWith t => return { plan with tail := t }
  | .includes t n => return { plan with needle := t, position := n }
  | rule => do
    if plan.whole.isSome then return plan
    else return { plan with whole := ← sampleRule rule }

/-- The plan of a list of rules. -/
def TextPlan.addAll : List (Check StringRule) → TextPlan → Sampling S TextPlan
  | [], plan => return plan
  | check :: checks, plan => do addAll checks (← plan.add check.rule)

/-- A text for the rules of a string. -/
def sampleText (o : SampleOptions) (checks : List (Check StringRule)) : Sampling S Text := do
  let plan ← TextPlan.addAll checks {}
  match plan.whole with
  | some t => return t
  | none =>
    let length := plan.bounds.clamp (← Drawing.natBetween o.minStringLength o.maxStringLength)
    let gap ← sampleWord Alphabet.alphanumeric (plan.position - plan.start.length)
    let head := plan.start ++ gap ++ plan.needle
    let filler ← sampleWord Alphabet.alphanumeric (length - head.length - plan.tail.length)
    return head ++ filler ++ plan.tail

/-- What the rules of a number ask for. -/
structure NumberPlan where
  lower : Number := .float (.infinite true)
  lowerOpen : Bool := false
  upper : Number := .float (.infinite false)
  upperOpen : Bool := false
  step : Option Number := none

namespace NumberPlan

/-- The plan with a lower bound, unless a higher one is known. -/
def atLeast (plan : NumberPlan) (bound : Number) (isOpen : Bool) : NumberPlan :=
  if plan.lower.atMost bound then
    { plan with
      lowerOpen := isOpen || (bound.same plan.lower && plan.lowerOpen)
      lower := bound }
  else plan

/-- The plan with an upper bound, unless a lower one is known. -/
def atMost (plan : NumberPlan) (bound : Number) (isOpen : Bool) : NumberPlan :=
  if bound.atMost plan.upper then
    { plan with
      upperOpen := isOpen || (bound.same plan.upper && plan.upperOpen)
      upper := bound }
  else plan

/-- The plan under one more rule. Of several steps the greatest is kept. -/
def add (plan : NumberPlan) : NumberRule → NumberPlan
  | .gte n => plan.atLeast n false
  | .gt n => plan.atLeast n true
  | .lte n => plan.atMost n false
  | .lt n => plan.atMost n true
  | .multipleOf n =>
    { plan with step := some (match plan.step with | some m => m.greater n | none => n) }
  | _ => plan

/-- Whether a number is within the bounds. -/
def admits (plan : NumberPlan) (n : Number) : Bool :=
  (if plan.lowerOpen then plan.lower.below n else plan.lower.atMost n)
    && (if plan.upperOpen then n.below plan.upper else n.atMost plan.upper)

/-- The range to draw from: the bounds within the preferred range if they meet, else a range of the
same width at the only bound, else the bounds. -/
def window (plan : NumberPlan) (low high : Double) : Except ArithmeticFault (Number × Number) := do
  let first := plan.lower.greater (.float low)
  let last := plan.upper.lesser (.float high)
  if first.atMost last then return (first, last)
  else
    let span : Number := .float (high.sub low)
    if ← plan.upper.isInfinite then return (plan.lower, ← plan.lower.add span)
    else if ← plan.lower.isInfinite then return (← plan.upper.sub span, plan.upper)
    else return (plan.lower, plan.upper)

end NumberPlan

/-- Half the sum of two numbers. -/
def middle (low high : Number) : Except ArithmeticFault Number := do
  return .float (← (← low.add high).quotient (.int 2))

/-- The multiple of a step, rounded to the decimals of the step. -/
def multiple (k : Int) (step : Number) (places : Nat) : Except ArithmeticFault Number := do
  match ← (Number.int k).mul step with
  | .int n => return .int n
  | .float d => return .float (d.roundPlaces places)

/-- The first of some multiples that a plan admits, or else the last one. -/
def firstMultiple (plan : NumberPlan) (step : Number) (places : Nat) (last : Number) :
    List Int → Except ArithmeticFault Number
  | [] => return last
  | k :: ks => do
    let value ← multiple k step places
    if plan.admits value then return value else firstMultiple plan step places value ks

/-- The factors of the first and the last multiple of a step in a range, if quotients exist. -/
def factors? (step low high : Number) : Except ArithmeticFault (Option (Int × Int)) :=
  let found : Except ArithmeticFault (Int × Int) := do
    let first ← (Number.float (← low.quotient step)).ceil
    let last ← (Number.float (← high.quotient step)).floor
    return (first, last)
  match found with
  | .ok pair => .ok (some pair)
  | .error .notANumber => .error .notANumber
  | .error _ => .ok none

/-- A multiple of a step. -/
def sampleMultiple (plan : NumberPlan) (step low high : Number) : Sampling S Number := do
  let places := (← Sampling.lift step.nearest).decimalPlaces
  match ← Sampling.lift (factors? step low high) with
  | none => Sampling.lift (middle low high)
  | some (first, last) =>
    let candidates ←
      if first ≤ last then do pure [← Drawing.between first last, first + 1, last - 1]
      else pure [first]
    let value ← Sampling.lift (firstMultiple plan step places (.int 0) candidates)
    if places = 0 then return .int (← Sampling.lift value.truncate) else return value

/-- Whether a bound that is left out is a whole number. -/
def isOpenAt (isOpen : Bool) (bound : Number) : Except ArithmeticFault Bool :=
  if isOpen then do return (← bound.nearest).isWhole else .ok false

/-- The first integer of a range. -/
def firstFrom (isOpen : Bool) (low : Number) : Except ArithmeticFault Int := do
  if ← isOpenAt isOpen low then return (← low.floor) + 1 else low.ceil

/-- The last integer of a range. -/
def lastTo (isOpen : Bool) (high : Number) : Except ArithmeticFault Int := do
  if ← isOpenAt isOpen high then return (← high.ceil) - 1 else high.floor

/-- A number in a range: an integer if there is one. -/
def sampleBetween (plan : NumberPlan) (low high : Number) : Sampling S Number := do
  let first ← Sampling.lift (firstFrom plan.lowerOpen low)
  let last ← Sampling.lift (lastTo plan.upperOpen high)
  if first ≤ last then return .int (← Drawing.between first last)
  else Sampling.lift (middle low high)

/-- A number for the rules of a number. -/
def sampleNumber (o : SampleOptions) (checks : List (Check NumberRule)) : Sampling S Number := do
  let plan := checks.foldl (fun plan check => plan.add check.rule) ({} : NumberPlan)
  let preferredLow ← Sampling.lift o.minNumber.nearest
  let preferredHigh ← Sampling.lift o.maxNumber.nearest
  let (low, high) ← Sampling.lift (plan.window preferredLow preferredHigh)
  match plan.step with
  | some step => sampleMultiple plan step low high
  | none => sampleBetween plan low high

end

end Conform
