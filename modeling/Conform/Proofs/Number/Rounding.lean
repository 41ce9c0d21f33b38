import Mathlib.Order.Monotone.Basic
import Mathlib.Tactic.NormNum
import Mathlib.Tactic.Positivity
import Mathlib.Tactic.Ring
import Conform.Number.Double

/-!
# Rounding to places

The magnitudes of doubles grow with their places. Rounding gives the last place whose magnitude is
not above the exact value, or the one behind it, and it does not pass over a place: what is not
above the magnitude of a place is not rounded beyond it, and the other way round. So rounding is
monotone, and integers are rounded to integers.

## Main definitions

- `Double.floorPlace` — the last place that is not above a number of units
- `Double.nearestPlace_le`, `Double.le_nearestPlace` — rounding does not pass over a place
- `Double.nearestPlace_mono` — rounding is monotone
- `Double.unitScale_dvd_nearestPlace` — integers are rounded to integers
-/

namespace Conform.Double

/-- A magnitude with the significand and the shift of its place. -/
theorem placeUnits_eq (p : Nat) : placeUnits p = placeSignificand p * 2 ^ placeShift p := by
  rw [placeUnits, Nat.shiftLeft_eq]

theorem placeShift_eq (p : Nat) : placeShift p = p / 2 ^ 52 - 1 := by
  rw [placeShift, Nat.shiftRight_eq_div_pow]

theorem placeSignificand_eq (p : Nat) : placeSignificand p = p - placeShift p * 2 ^ 52 := by
  unfold placeSignificand
  simp only [Nat.shiftLeft_eq]

/-- Places with a shift hold significands of full length. -/
theorem placeUnits_of_shift {k m : Nat} (hlow : k = 0 ∨ 2 ^ 52 ≤ m) (hhigh : m < 2 ^ 53) :
    placeUnits (k * 2 ^ 52 + m) = m * 2 ^ k := by
  have hshift : placeShift (k * 2 ^ 52 + m) = k := by
    rw [placeShift_eq]
    omega
  rw [placeUnits_eq, placeSignificand_eq, hshift]
  congr 1
  omega

/-- Every place is a shift with a significand. -/
theorem exists_shift (p : Nat) : ∃ k m, p = k * 2 ^ 52 + m ∧ (k = 0 ∨ 2 ^ 52 ≤ m) ∧ m < 2 ^ 53 := by
  have hshift := placeShift_eq p
  have hsignificand := placeSignificand_eq p
  refine ⟨placeShift p, placeSignificand p, ?_, ?_, ?_⟩ <;> omega

/-- The next magnitude is one significand further. -/
theorem placeUnits_succ {k m : Nat} (hlow : k = 0 ∨ 2 ^ 52 ≤ m) (hhigh : m < 2 ^ 53) :
    placeUnits (k * 2 ^ 52 + m + 1) = (m + 1) * 2 ^ k := by
  by_cases hfull : m + 1 < 2 ^ 53
  · rw [Nat.add_assoc, placeUnits_of_shift (by omega) hfull]
  · -- The significand overflows, so the next place begins another shift.
    have hm : m = 2 ^ 53 - 1 := by omega
    have hnext : k * 2 ^ 52 + m + 1 = (k + 1) * 2 ^ 52 + 2 ^ 52 := by omega
    rw [hnext, placeUnits_of_shift (by omega) (by norm_num), hm]
    ring

theorem placeUnits_strictMono : StrictMono placeUnits := by
  apply strictMono_nat_of_lt_succ
  intro p
  obtain ⟨k, m, rfl, hlow, hhigh⟩ := exists_shift p
  rw [placeUnits_succ hlow hhigh, placeUnits_of_shift hlow hhigh]
  exact Nat.mul_lt_mul_of_pos_right (Nat.lt_succ_self m) (by positivity)

theorem placeUnits_zero : placeUnits 0 = 0 := by
  have h := placeUnits_of_shift (k := 0) (m := 0) (.inl rfl) (by norm_num)
  simpa using h

/-- How often the significand of a number of units is doubled. -/
def unitsShift (units : Nat) : Nat := Nat.log2 units + 1 - 53

/-- The last place whose magnitude is not above a number of units. -/
def floorPlace (units : Nat) : Nat :=
  unitsShift units * 2 ^ 52 + units / 2 ^ unitsShift units

/-- The significand has full length unless it is not doubled at all. -/
theorem floorPlace_significand (units : Nat) :
    (unitsShift units = 0 ∨ 2 ^ 52 ≤ units / 2 ^ unitsShift units) ∧
      units / 2 ^ unitsShift units < 2 ^ 53 := by
  rcases Nat.eq_zero_or_pos units with rfl | hpos
  · exact ⟨.inl (by simp [unitsShift]), by simp⟩
  have hlow : 2 ^ Nat.log2 units ≤ units := Nat.log2_self_le hpos.ne'
  have hhigh : units < 2 ^ (Nat.log2 units + 1) := Nat.lt_log2_self
  constructor
  · by_cases hshift : unitsShift units = 0
    · exact .inl hshift
    · right
      rw [Nat.le_div_iff_mul_le (by positivity), ← pow_add]
      refine le_trans (Nat.pow_le_pow_right (by norm_num) ?_) hlow
      unfold unitsShift at hshift ⊢
      omega
  · rw [Nat.div_lt_iff_lt_mul (by positivity), ← pow_add]
    refine lt_of_lt_of_le hhigh (Nat.pow_le_pow_right (by norm_num) ?_)
    unfold unitsShift
    omega

theorem placeUnits_floorPlace (units : Nat) :
    placeUnits (floorPlace units) = units / 2 ^ unitsShift units * 2 ^ unitsShift units :=
  placeUnits_of_shift (floorPlace_significand units).1 (floorPlace_significand units).2

theorem placeUnits_floorPlace_succ (units : Nat) :
    placeUnits (floorPlace units + 1) =
      (units / 2 ^ unitsShift units + 1) * 2 ^ unitsShift units :=
  placeUnits_succ (floorPlace_significand units).1 (floorPlace_significand units).2

/-- The step from the last place that is not above a quotient to the next one, as a part of the
numerator. -/
def quotientUnit (scaled den : Nat) : Nat := den * 2 ^ unitsShift (scaled / den)

/-- The last place that is not above a quotient, with what is left of the numerator. -/
theorem floorPlace_mul_add_mod (scaled den : Nat) :
    placeUnits (floorPlace (scaled / den)) * den + scaled % quotientUnit scaled den = scaled := by
  have hsplit := Nat.div_add_mod scaled (quotientUnit scaled den)
  rw [placeUnits_floorPlace, Nat.div_div_eq_div_mul]
  calc scaled / (den * 2 ^ unitsShift (scaled / den)) * 2 ^ unitsShift (scaled / den) * den
        + scaled % quotientUnit scaled den
      = quotientUnit scaled den * (scaled / quotientUnit scaled den)
        + scaled % quotientUnit scaled den := by unfold quotientUnit; ring
    _ = scaled := hsplit

theorem floorPlace_succ_mul (scaled den : Nat) :
    placeUnits (floorPlace (scaled / den) + 1) * den =
      placeUnits (floorPlace (scaled / den)) * den + quotientUnit scaled den := by
  rw [placeUnits_floorPlace_succ, placeUnits_floorPlace, quotientUnit]
  ring

/-- Whether rounding goes up from the last place that is not above a quotient. -/
def roundsUp (scaled den : Nat) : Bool :=
  let rest := 2 * (scaled % quotientUnit scaled den)
  rest > quotientUnit scaled den
    || (rest == quotientUnit scaled den && floorPlace (scaled / den) % 2 == 1)

theorem shiftLeft_eq_mul_unitScale (num : Nat) : num <<< 1074 = num * unitScale := by
  rw [unitScale]
  generalize 1074 = scale
  rw [Nat.shiftLeft_eq, Nat.shiftLeft_eq, Nat.one_mul]

theorem nearestPlace_eq (num den : Nat) :
    nearestPlace num den =
      floorPlace (num * unitScale / den) + (if roundsUp (num * unitScale) den then 1 else 0) := by
  unfold nearestPlace roundsUp quotientUnit floorPlace unitsShift
  rw [shiftLeft_eq_mul_unitScale]
  -- The scale must not be evaluated any more.
  generalize num * unitScale = scaled
  simp only [Nat.shiftLeft_eq, Nat.div_div_eq_div_mul]
  split
  · rfl
  · exact (Nat.add_zero _).symm

/-- What is not above the magnitude of a place is not rounded beyond it. -/
theorem nearestPlace_le {num den p : Nat} (hden : 0 < den)
    (h : num * unitScale ≤ placeUnits p * den) : nearestPlace num den ≤ p := by
  rw [nearestPlace_eq]
  have hsum := floorPlace_mul_add_mod (num * unitScale) den
  generalize num * unitScale = scaled at h hsum ⊢
  by_cases hup : roundsUp scaled den = true
  · -- A rest is left, so the place below is still below `p`.
    have hrest : 0 < scaled % quotientUnit scaled den := by
      have hunit : 0 < quotientUnit scaled den := by unfold quotientUnit; positivity
      unfold roundsUp at hup
      simp only [gt_iff_lt, Bool.or_eq_true, decide_eq_true_eq, Bool.and_eq_true, beq_iff_eq] at hup
      omega
    have hlt : placeUnits (floorPlace (scaled / den)) < placeUnits p :=
      Nat.lt_of_mul_lt_mul_right (a := den) (by omega)
    rw [if_pos hup]
    exact placeUnits_strictMono.lt_iff_lt.mp hlt
  · have hle : placeUnits (floorPlace (scaled / den)) ≤ placeUnits p :=
      Nat.le_of_mul_le_mul_right (by omega : _ * den ≤ _ * den) hden
    rw [if_neg hup, Nat.add_zero]
    exact placeUnits_strictMono.le_iff_le.mp hle

/-- What is not below the magnitude of a place is not rounded below it. -/
theorem le_nearestPlace {num den p : Nat} (hden : 0 < den)
    (h : placeUnits p * den ≤ num * unitScale) : p ≤ nearestPlace num den := by
  rw [nearestPlace_eq]
  have hsum := floorPlace_mul_add_mod (num * unitScale) den
  have hsucc := floorPlace_succ_mul (num * unitScale) den
  generalize num * unitScale = scaled at h hsum hsucc ⊢
  have hunit : 0 < quotientUnit scaled den := by unfold quotientUnit; positivity
  have hmod := Nat.mod_lt scaled hunit
  have hlt : placeUnits p < placeUnits (floorPlace (scaled / den) + 1) :=
    Nat.lt_of_mul_lt_mul_right (a := den) (by omega)
  have hplace := placeUnits_strictMono.lt_iff_lt.mp hlt
  omega

/-- The magnitude of a place is rounded to that place. -/
theorem nearestPlace_eq_of_eq {num den p : Nat} (hden : 0 < den)
    (h : num * unitScale = placeUnits p * den) : nearestPlace num den = p := by
  apply Nat.le_antisymm
  · exact nearestPlace_le hden (Nat.le_of_eq h)
  · exact le_nearestPlace hden (Nat.le_of_eq h.symm)

theorem nearestPlace_zero {den : Nat} (hden : 0 < den) : nearestPlace 0 den = 0 := by
  apply nearestPlace_eq_of_eq hden
  rw [placeUnits_zero, Nat.zero_mul, Nat.zero_mul]

/-- Rounding is monotone. -/
theorem nearestPlace_mono {num num' den : Nat} (hden : 0 < den) (h : num ≤ num') :
    nearestPlace num den ≤ nearestPlace num' den := by
  rw [nearestPlace_eq, nearestPlace_eq]
  have hsum := floorPlace_mul_add_mod (num * unitScale) den
  have hsum' := floorPlace_mul_add_mod (num' * unitScale) den
  have hscaled := Nat.mul_le_mul_right unitScale h
  generalize num * unitScale = scaled at hsum hscaled ⊢
  generalize num' * unitScale = scaled' at hsum' hscaled ⊢
  have hsucc' := floorPlace_succ_mul scaled' den
  have hunit' : 0 < quotientUnit scaled' den := by unfold quotientUnit; positivity
  have hmod' := Nat.mod_lt scaled' hunit'
  -- The places below are in order, because the first quotient is below the place behind the second.
  have hle : floorPlace (scaled / den) ≤ floorPlace (scaled' / den) := by
    have hlt : placeUnits (floorPlace (scaled / den)) <
        placeUnits (floorPlace (scaled' / den) + 1) :=
      Nat.lt_of_mul_lt_mul_right (a := den) (by omega)
    exact Nat.lt_succ_iff.mp (placeUnits_strictMono.lt_iff_lt.mp hlt)
  rcases Nat.lt_or_eq_of_le hle with hlt | heq
  · split <;> omega
  · -- Both lie behind the same place, so only the rests can differ.
    have hunit : quotientUnit scaled den = quotientUnit scaled' den := by
      have hsucc := floorPlace_succ_mul scaled den
      rw [heq] at hsucc
      omega
    have hup : roundsUp scaled den = true → roundsUp scaled' den = true := by
      unfold roundsUp
      rw [hunit] at hsum ⊢
      rw [heq] at hsum ⊢
      simp only [gt_iff_lt, Bool.or_eq_true, decide_eq_true_eq, Bool.and_eq_true, beq_iff_eq]
      omega
    rw [heq]
    by_cases hs : roundsUp scaled den = true
    · rw [if_pos hs, if_pos (hup hs)]
    · rw [if_neg hs]
      omega

theorem exists_unitScale_eq_pow : ∃ scale, unitScale = 2 ^ scale := by
  unfold unitScale
  generalize 1074 = scale
  exact ⟨scale, by rw [Nat.shiftLeft_eq, Nat.one_mul]⟩

/-- What the step at a quotient divides is not rounded at all. -/
theorem nearestPlace_of_dvd {n : Nat} (h : 2 ^ unitsShift (n * unitScale) ∣ n * unitScale) :
    placeUnits (nearestPlace n 1) = n * unitScale := by
  rw [nearestPlace_eq, Nat.div_one]
  generalize n * unitScale = units at h ⊢
  have hunit : quotientUnit units 1 = 2 ^ unitsShift units := by
    rw [quotientUnit, Nat.div_one, Nat.one_mul]
  have hstay : ¬roundsUp units 1 = true := by
    have hpos : 0 < 2 ^ unitsShift units := by positivity
    unfold roundsUp
    rw [hunit, Nat.mod_eq_zero_of_dvd h]
    simp only [gt_iff_lt, Bool.or_eq_true, decide_eq_true_eq, Bool.and_eq_true, beq_iff_eq]
    omega
  rw [if_neg hstay, Nat.add_zero, placeUnits_floorPlace, Nat.div_mul_cancel h]

/-- Integers are rounded to integers: either they keep their value, or all units of the place are
whole. -/
theorem unitScale_dvd_nearestPlace (n : Nat) : unitScale ∣ placeUnits (nearestPlace n 1) := by
  obtain ⟨scale, hscale⟩ := exists_unitScale_eq_pow
  by_cases hshift : scale ≤ unitsShift (n * unitScale)
  · have hdvd : unitScale ∣ 2 ^ unitsShift (n * unitScale) := by
      rw [hscale] at hshift ⊢
      exact Nat.pow_dvd_pow 2 hshift
    rw [nearestPlace_eq, Nat.div_one]
    split
    · rw [placeUnits_floorPlace_succ]
      exact hdvd.mul_left _
    · rw [Nat.add_zero, placeUnits_floorPlace]
      exact hdvd.mul_left _
  · have hdvd : 2 ^ unitsShift (n * unitScale) ∣ n * unitScale := by
      have hpow : 2 ^ unitsShift (n * unitScale) ∣ unitScale := by
        rw [hscale] at hshift ⊢
        exact Nat.pow_dvd_pow 2 (Nat.le_of_not_le hshift)
      exact hpow.mul_left n
    rw [nearestPlace_of_dvd hdvd]
    exact Nat.dvd_mul_left unitScale n

end Conform.Double
