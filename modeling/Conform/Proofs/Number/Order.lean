import Conform.Number.Arithmetic
import Conform.Proofs.Number.Rounding

/-!
# The order of numbers

Numbers are compared by their exact values, which are whole numbers of units or infinite. An
integer is in range if there is a nearest double, and going over to nearest doubles keeps the order.

## Main definitions

- `Number.exactValue?` — the exact value of a number
- `Number.InRange` — numbers with a nearest double
- `Number.same_iff` — numbers are the same if their exact values are
- `Number.units_le_of_not_below` — the order of nearest doubles
-/

namespace Conform

namespace Double

/-- A finite number in units of `2^-1074`. -/
def signedUnits (negative : Bool) (place : Nat) : Int :=
  if negative then -(placeUnits place : Int) else placeUnits place

theorem units?_finite (negative : Bool) (place : Fin places) :
    units? (.finite negative place) = some (signedUnits negative place) := rfl

/-- The double nearest to an integer in units of `2^-1074`, whether or not it is in range. -/
def roundedInt (n : Int) : Int := signedUnits (decide (n < 0)) (nearestPlace n.natAbs 1)

/-- What the nearest double of an integer in range is. -/
theorem ofInt?_eq_some {n : Int} {d : Double} (h : ofInt? n = some d) :
    ∃ place : Fin places, d = .finite (decide (n < 0)) place ∧
      place.val = nearestPlace n.natAbs 1 := by
  unfold ofInt? nearestInt ofRatio ofPlace at h
  by_cases hplace : nearestPlace n.natAbs 1 < places
  · rw [dif_pos hplace] at h
    simp only [isInfinite, Bool.false_eq_true, if_false, Option.some.injEq] at h
    refine ⟨⟨nearestPlace n.natAbs 1, hplace⟩, h.symm, ?_⟩
    simp only
  · rw [dif_neg hplace] at h
    exact absurd h (by simp [isInfinite])

theorem ofInt?_isSome_iff {n : Int} :
    (ofInt? n).isSome = true ↔ nearestPlace n.natAbs 1 < places := by
  unfold ofInt? nearestInt ofRatio ofPlace
  by_cases hplace : nearestPlace n.natAbs 1 < places
  · rw [dif_pos hplace]
    simp [isInfinite, hplace]
  · rw [dif_neg hplace]
    simp [isInfinite, hplace]

theorem units?_of_ofInt? {n : Int} {d : Double} (h : ofInt? n = some d) :
    d.units? = some (roundedInt n) := by
  obtain ⟨place, rfl, hplace⟩ := ofInt?_eq_some h
  rw [units?_finite, roundedInt, hplace]

/-- The nearest double of an integer is whole. -/
theorem isWhole_of_ofInt? {n : Int} {d : Double} (h : ofInt? n = some d) : d.isWhole = true := by
  obtain ⟨place, rfl, hplace⟩ := ofInt?_eq_some h
  rw [isWhole, hplace, beq_iff_eq]
  exact Nat.mod_eq_zero_of_dvd (unitScale_dvd_nearestPlace n.natAbs)

theorem isInfinite_of_ofInt? {n : Int} {d : Double} (h : ofInt? n = some d) :
    d.isInfinite = false := by
  obtain ⟨place, rfl, _⟩ := ofInt?_eq_some h
  rfl

/-- The double nearest to a quotient in units of `2^-1074`, whether or not it is in range. -/
def roundedRatio (n : Int) (den : Nat) : Int :=
  signedUnits (decide (n < 0)) (nearestPlace n.natAbs den)

section Ratio

variable {n : Int} {den place : Nat} {negative : Bool}

theorem roundedRatio_neg (n : Int) (hden : 0 < den) :
    roundedRatio (-n) den = -roundedRatio n den := by
  rcases lt_trichotomy n 0 with hneg | rfl | hpos
  · have h : ¬0 < n := by omega
    simp [roundedRatio, signedUnits, hneg, h]
  · simp [roundedRatio, signedUnits, nearestPlace_zero hden, placeUnits_zero]
  · have h : ¬n < 0 := by omega
    simp [roundedRatio, signedUnits, hpos, h]

/-- A quotient that is not above a finite number is not rounded beyond it. -/
theorem roundedRatio_le (hden : 0 < den)
    (h : n * (unitScale : Int) ≤ signedUnits negative place * den) :
    roundedRatio n den ≤ signedUnits negative place := by
  have habs : (n.natAbs * unitScale : Nat) = |n * (unitScale : Int)| := by
    rw [abs_mul, Nat.cast_mul, Int.natCast_natAbs, Nat.abs_cast]
  have hscale : (0 : Int) ≤ unitScale := Int.natCast_nonneg _
  have hsigned : signedUnits negative place * (den : Int) =
      if negative then -((placeUnits place * den : Nat) : Int)
        else (placeUnits place * den : Nat) := by
    unfold signedUnits
    cases negative <;> simp
  rw [hsigned] at h
  unfold roundedRatio signedUnits
  -- Below zero the magnitudes are in the opposite order.
  by_cases hn : n < 0
  · have hneg : n * (unitScale : Int) ≤ 0 := Int.mul_nonpos_of_nonpos_of_nonneg hn.le hscale
    rw [abs_of_nonpos hneg] at habs
    rw [if_pos (by simpa using hn)]
    cases negative with
    | false =>
      simp only [Bool.false_eq_true, if_false]
      omega
    | true =>
      simp only [if_true] at h ⊢
      have hplace : place ≤ nearestPlace n.natAbs den := le_nearestPlace hden (by omega)
      have hunits := placeUnits_strictMono.monotone hplace
      omega
  · have hpos : 0 ≤ n * (unitScale : Int) := Int.mul_nonneg (by omega) hscale
    rw [abs_of_nonneg hpos] at habs
    rw [if_neg (by simpa using hn)]
    have hplace : nearestPlace n.natAbs den ≤ place := nearestPlace_le hden (by
      cases negative <;> simp only [Bool.false_eq_true, if_false, if_true] at h <;> omega)
    have hunits := placeUnits_strictMono.monotone hplace
    cases negative with
    | false =>
      simp only [Bool.false_eq_true, if_false]
      omega
    | true =>
      -- A quotient that is not below zero is only below a zero.
      simp only [if_true] at h ⊢
      have hzero : placeUnits place = 0 :=
        (Nat.mul_eq_zero.mp (by omega : placeUnits place * den = 0)).resolve_right hden.ne'
      omega

theorem signedUnits_not (negative : Bool) (place : Nat) :
    signedUnits (!negative) place = -signedUnits negative place := by
  cases negative <;> simp [signedUnits]

/-- A quotient that is not below a finite number is not rounded below it. -/
theorem le_roundedRatio (hden : 0 < den)
    (h : signedUnits negative place * den ≤ n * (unitScale : Int)) :
    signedUnits negative place ≤ roundedRatio n den := by
  -- Rounding treats both signs alike, so this is the case of the opposite numbers.
  have hneg : -n * (unitScale : Int) ≤ signedUnits (!negative) place * den := by
    rw [signedUnits_not, Int.neg_mul, Int.neg_mul]
    exact Int.neg_le_neg h
  have hle := roundedRatio_le hden hneg
  rw [signedUnits_not, roundedRatio_neg n hden] at hle
  exact Int.neg_le_neg_iff.mp hle

end Ratio

/-- Rounding of integers is monotone. -/
theorem roundedInt_mono {m n : Int} (h : m ≤ n) : roundedInt m ≤ roundedInt n := by
  have habs (k : Int) : 0 ≤ (placeUnits (nearestPlace k.natAbs 1) : Int) := Int.natCast_nonneg _
  have hm := habs m
  have hn := habs n
  unfold roundedInt signedUnits
  by_cases hmneg : m < 0 <;> by_cases hnneg : n < 0
  · have hplace : nearestPlace n.natAbs 1 ≤ nearestPlace m.natAbs 1 :=
      nearestPlace_mono Nat.one_pos (by omega)
    have hunits := placeUnits_strictMono.monotone hplace
    simp only [hmneg, hnneg, decide_true, if_true]
    omega
  · simp only [hmneg, hnneg, decide_true, decide_false, if_true, Bool.false_eq_true, if_false]
    omega
  · -- No number below zero is above one that is not.
    omega
  · have hplace : nearestPlace m.natAbs 1 ≤ nearestPlace n.natAbs 1 :=
      nearestPlace_mono Nat.one_pos (by omega)
    have hunits := placeUnits_strictMono.monotone hplace
    simp only [hmneg, hnneg, decide_false, Bool.false_eq_true, if_false]
    omega

/-- An integer whose magnitude is not above that of a double is in range. -/
theorem ofInt?_isSome_of_le {n : Int} (place : Fin places)
    (h : n.natAbs * unitScale ≤ placeUnits place) : (ofInt? n).isSome = true := by
  rw [ofInt?_isSome_iff]
  refine Nat.lt_of_le_of_lt (nearestPlace_le Nat.one_pos ?_) place.isLt
  rwa [Nat.mul_one]

end Double

namespace Number

open Double

/-- The exact value: a whole number of units of `2^-1074`, or the sign of an infinity. -/
def exactValue? : Number → Option (Bool ⊕ Int)
  | .int n => some (.inr (n * Int.ofNat unitScale))
  | .float .nan => none
  | .float (.infinite negative) => some (.inl negative)
  | .float (.finite negative place) => some (.inr (signedUnits negative place))

theorem exactValue?_int (n : Int) :
    exactValue? (.int n) = some (.inr (n * Int.ofNat unitScale)) := by
  rw [exactValue?]

theorem exactValue?_finite (negative : Bool) (place : Fin places) :
    exactValue? (.float (.finite negative place)) = some (.inr (signedUnits negative place)) := by
  rw [exactValue?]

/-- The order of exact values. -/
def compareExact : Bool ⊕ Int → Bool ⊕ Int → Ordering
  | .inr a, .inr b => compare a b
  | .inl s, .inl t => compare t s
  | .inl s, .inr _ => if s then .lt else .gt
  | .inr _, .inl t => if t then .gt else .lt

theorem compareExact_eq_eq_iff (a b : Bool ⊕ Int) : compareExact a b = .eq ↔ a = b := by
  rcases a with s | a <;> rcases b with t | b
  · cases s <;> cases t <;> decide
  · cases s <;> simp [compareExact]
  · cases t <;> simp [compareExact]
  · rw [compareExact, compare_eq_iff_eq, Sum.inr.injEq]

theorem unitScale_pos : (0 : Int) < Int.ofNat unitScale := by
  obtain ⟨scale, hscale⟩ := exists_unitScale_eq_pow
  rw [hscale]
  exact Int.natCast_pos.mpr (Nat.two_pow_pos scale)

theorem compare_mul_unitScale (m n : Int) :
    compare (m * Int.ofNat unitScale) (n * Int.ofNat unitScale) = compare m n := by
  have hpos := unitScale_pos
  generalize Int.ofNat unitScale = scale at hpos ⊢
  rcases lt_trichotomy m n with hlt | rfl | hgt
  · rw [compare_lt_iff_lt.mpr hlt, compare_lt_iff_lt.mpr (Int.mul_lt_mul_of_pos_right hlt hpos)]
  · rw [compare_eq_iff_eq.mpr rfl, compare_eq_iff_eq.mpr rfl]
  · rw [compare_gt_iff_gt.mpr hgt, compare_gt_iff_gt.mpr (Int.mul_lt_mul_of_pos_right hgt hpos)]

/-- Numbers are ordered as their exact values. -/
theorem order?_eq (x y : Number) :
    order? x y = x.exactValue?.bind fun a => y.exactValue?.map (compareExact a) := by
  cases x with
  | int m =>
    cases y with
    | int n => exact congrArg some (compare_mul_unitScale m n).symm
    | float e => cases e <;> rfl
  | float d =>
    cases y with
    | int n =>
      cases d with
      | nan => rfl
      | infinite negative => cases negative <;> rfl
      | finite negative place => exact congrArg some Std.OrientedCmp.eq_swap.symm
    | float e => cases d <;> cases e <;> rfl

/-- Numbers are the same if they have the same exact value. -/
theorem same_iff {x y : Number} :
    x.same y = true ↔ ∃ value, x.exactValue? = some value ∧ y.exactValue? = some value := by
  rw [same, beq_iff_eq, order?_eq, Option.bind_eq_some_iff]
  simp only [Option.map_eq_some_iff, compareExact_eq_eq_iff, exists_eq_right']

theorem same_comm (x y : Number) : x.same y = y.same x := by
  rw [Bool.eq_iff_iff, same_iff, same_iff]
  exact exists_congr fun _ => and_comm

/-- Numbers that are the same as one number are the same. -/
theorem same_of_same {x y z : Number} (hx : x.same z = true) (hy : y.same z = true) :
    x.same y = true := by
  rw [same_iff] at hx hy ⊢
  obtain ⟨value, hxv, hzv⟩ := hx
  obtain ⟨other, hyv, hzo⟩ := hy
  obtain rfl : value = other := Option.some.inj (hzv.symm.trans hzo)
  exact ⟨value, hxv, hyv⟩

/-- A number has a nearest double. -/
def InRange (n : Number) : Prop := n.toDouble?.isSome = true

theorem InRange.exists {n : Number} (h : n.InRange) : ∃ d, n.toDouble? = some d :=
  Option.isSome_iff_exists.mp h

theorem below_iff {x y : Number} {a b : Int} (hx : x.exactValue? = some (.inr a))
    (hy : y.exactValue? = some (.inr b)) : x.below y = true ↔ a < b := by
  rw [below, order?_eq, hx, hy, beq_iff_eq]
  exact Option.some_inj.trans compare_lt_iff_lt

theorem below_int (m n : Int) : (Number.int m).below (.int n) = true ↔ m < n := by
  rw [below, order?, beq_iff_eq, Option.some.injEq, compare_lt_iff_lt]

theorem atMost_iff {x y : Number} {a b : Int} (hx : x.exactValue? = some (.inr a))
    (hy : y.exactValue? = some (.inr b)) : x.atMost y = true ↔ a ≤ b := by
  rw [atMost, Bool.or_eq_true, below_iff hx hy, same_iff, hx, hy, le_iff_lt_or_eq]
  simp [eq_comm]

end Number

end Conform
