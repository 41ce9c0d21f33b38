import Conform.Proofs.Number.Whole

/-!
# Products and quotients of whole numbers

A product of whole numbers is rounded to a whole number, and a short one not at all. A rounded
quotient is at most half a step away from the exact one. The steps between doubles next to an
integer are so small that a quotient of short whole numbers is never rounded to an integer or beyond
it, unless it is one. So its floor and its ceiling are those of the exact quotient.

## Main definitions

- `Double.Rounds` — what rounding may make of a whole number
- `Double.mul_units?` — the product of whole doubles
- `Double.middle_le_of_lt_nearestPlace`, `Double.le_middle_of_nearestPlace_le` — what is rounded to
  a place
- `Double.roundedRatio_ne` — rounding does not reach an integer
- `Number.HasUnits`, `Number.Factors` — numbers that are doubles, and the integers next to a
  quotient
- `Number.Is.factors`, `Number.HasUnits.factors` — the integers next to a rounded quotient
-/

namespace Conform

namespace Double

theorem short_le_unitScale : 2 ^ 53 ≤ unitScale := by decide +kernel

theorem zero_lt_unitScale : 0 < unitScale := Nat.lt_of_lt_of_le (by decide) short_le_unitScale

/-- Powers of two are doubles, beyond all products of short whole numbers. -/
theorem exists_two_pow {e : Nat} (he : e ≤ 110) :
    ∃ p : Fin places, placeUnits p = 2 ^ e * unitScale := by
  obtain ⟨huge, hhuge⟩ : ∃ p : Fin places, placeUnits p = 2 ^ 110 * unitScale :=
    ⟨⟨nearestPlace (2 ^ 110) 1, by decide +kernel⟩, by decide +kernel⟩
  obtain ⟨scale, hscale⟩ := exists_unitScale_eq_pow
  obtain ⟨p, hp⟩ := exists_place (m := 1) (by decide) (e + scale)
  rw [Nat.one_mul, Nat.pow_add, ← hscale] at hp
  refine ⟨⟨p, lt_of_le_of_lt (placeUnits_strictMono.le_iff_le.mp ?_) huge.isLt⟩, hp⟩
  rw [hp, hhuge]
  exact Nat.mul_le_mul_right _ (Nat.pow_le_pow_right (by decide) he)

/-- A quotient may be expanded before it is rounded. -/
theorem nearestPlace_mul_mul {c : Nat} (hc : 0 < c) (num den : Nat) :
    nearestPlace (c * num) (c * den) = nearestPlace num den := by
  have hunit (scaled : Nat) :
      quotientUnit (c * scaled) (c * den) = c * quotientUnit scaled den := by
    rw [quotientUnit, quotientUnit, Nat.mul_div_mul_left _ _ hc, Nat.mul_assoc]
  have hup (scaled : Nat) : roundsUp (c * scaled) (c * den) = roundsUp scaled den := by
    have hlt {x y : Nat} : decide (2 * (c * x) > c * y) = decide (2 * x > y) := by
      rw [Nat.mul_left_comm]
      exact decide_eq_decide.mpr (Nat.mul_lt_mul_left hc)
    have heq {x y : Nat} : (2 * (c * x) == c * y) = (2 * x == y) := by
      rw [Nat.mul_left_comm, Bool.eq_iff_iff, beq_iff_eq, beq_iff_eq]
      exact Nat.mul_right_inj hc.ne'
    unfold roundsUp
    simp only [hunit, Nat.mul_mod_mul_left, Nat.mul_div_mul_left _ _ hc, hlt, heq]
  rw [nearestPlace_eq, nearestPlace_eq, Nat.mul_assoc, hup, Nat.mul_div_mul_left _ _ hc]

/-- What rounding may make of a whole number: a short one stays the same, and any other one stays
as long as that, on the same side of zero. -/
def Rounds (n v : Int) : Prop := v = n ∨ 2 ^ 53 ≤ n ∧ 2 ^ 53 ≤ v ∨ n ≤ -2 ^ 53 ∧ v ≤ -2 ^ 53

section Products

variable {d e : Double} {j k n v s : Int}

theorem Rounds.trans (hjk : Rounds j k) (hkn : Rounds k n) : Rounds j n := by
  unfold Rounds at *
  omega

theorem Rounds.mul (h : Rounds n v) (hs : 0 < s) : Rounds (n * s) (v * s) := by
  rcases h with rfl | ⟨hn, hv⟩ | ⟨hn, hv⟩
  · exact .inl rfl
  · exact .inr (.inl ⟨by nlinarith, by nlinarith⟩)
  · exact .inr (.inr ⟨by nlinarith, by nlinarith⟩)

/-- A short whole number is not rounded. -/
theorem Rounds.eq_of_short (h : Rounds n v) (hshort : n.natAbs < 2 ^ 53 ∨ v.natAbs < 2 ^ 53) :
    n = v := by
  unfold Rounds at h
  omega

theorem roundedInt_whole (hn : n.natAbs ≤ 2 ^ 53) : roundedInt n = n * Int.ofNat unitScale := by
  obtain ⟨p, hp⟩ := exists_whole hn
  rw [← hp]
  exact roundedRatio_eq Nat.one_pos (by rw [hp, Nat.cast_one, Int.mul_one]; rfl)

/-- The double nearest to a whole number is whole. -/
theorem exists_roundedInt (n : Int) : ∃ v, roundedInt n = v * Int.ofNat unitScale ∧ Rounds n v := by
  by_cases hshort : n.natAbs ≤ 2 ^ 53
  · exact ⟨n, roundedInt_whole hshort, .inl rfl⟩
  have hdvd : (unitScale : Int) ∣ roundedInt n := by
    have hplace := Int.natCast_dvd_natCast.mpr (unitScale_dvd_nearestPlace n.natAbs)
    unfold roundedInt signedUnits
    split
    · exact Int.dvd_neg.mpr hplace
    · exact hplace
  obtain ⟨v, hv⟩ := hdvd
  rw [Int.mul_comm] at hv
  have hscale := Number.unitScale_pos
  have hcancel {a b : Int} : a * Int.ofNat unitScale ≤ b * Int.ofNat unitScale → a ≤ b :=
    fun hle => Int.le_of_mul_le_mul_right hle hscale
  have hmono {a b : Int} (h : a ≤ b) : roundedInt a ≤ roundedInt b := roundedInt_mono h
  refine ⟨v, hv, ?_⟩
  by_cases hpos : 2 ^ 53 ≤ n
  · have hle := hmono hpos
    rw [roundedInt_whole (n := 2 ^ 53) (by decide), hv] at hle
    exact .inr (.inl ⟨hpos, hcancel hle⟩)
  · have hneg : n ≤ -2 ^ 53 := by omega
    have hle := hmono hneg
    rw [roundedInt_whole (n := -2 ^ 53) (by decide), hv] at hle
    exact .inr (.inr ⟨hneg, hcancel hle⟩)

/-- An integer of moderate size is rounded to a whole double of moderate size. -/
theorem nearest_int {e : Nat} (he : e ≤ 110) (hn : n.natAbs ≤ 2 ^ e) :
    ∃ d v, (Number.int n).nearest = .ok d ∧ d.units? = some (v * Int.ofNat unitScale) ∧
      Rounds n v ∧ v.natAbs ≤ 2 ^ e := by
  obtain ⟨p, hp⟩ := exists_two_pow he
  have hle : n.natAbs * unitScale ≤ placeUnits p := by
    rw [hp]
    exact Nat.mul_le_mul_right _ hn
  obtain ⟨d, hd⟩ := Option.isSome_iff_exists.mp (ofInt?_isSome_of_le p hle)
  obtain ⟨v, hv, hrounds⟩ := exists_roundedInt n
  refine ⟨d, v, by rw [Number.nearest, Number.toDouble?, hd],
    (units?_of_ofInt? hd).trans (congrArg some hv), hrounds, ?_⟩
  have hbound : (roundedInt n).natAbs ≤ 2 ^ e * unitScale := by
    rw [roundedInt, natAbs_signedUnits, ← hp]
    exact placeUnits_strictMono.monotone (nearestPlace_le Nat.one_pos (by rwa [Nat.mul_one]))
  rw [hv, Int.natAbs_mul] at hbound
  exact Nat.le_of_mul_le_mul_right hbound zero_lt_unitScale

/-- The sign of a number that is not zero. -/
theorem sign_of_units {a : Bool} {place : Nat}
    (h : signedUnits a place = j * Int.ofNat unitScale) (hj : j ≠ 0) : a = decide (j < 0) := by
  have hscale := Number.unitScale_pos
  unfold signedUnits at h
  rcases lt_or_gt_of_ne hj with hneg | hpos
  · have hlt := Int.mul_neg_of_neg_of_pos hneg hscale
    rw [decide_eq_true hneg]
    cases a with
    | true => rfl
    | false =>
      simp only [Bool.false_eq_true, if_false] at h
      omega
  · have hlt := Int.mul_pos hpos hscale
    rw [decide_eq_false (not_lt.mpr hpos.le)]
    cases a with
    | true =>
      simp only [if_true] at h
      omega
    | false => rfl

/-- The product of whole doubles is the double nearest to the product of the whole numbers. -/
theorem mul_units? (hd : d.units? = some (j * Int.ofNat unitScale))
    (he : e.units? = some (k * Int.ofNat unitScale)) (h : (j * k).natAbs ≤ 2 ^ 110) :
    (d.mul e).units? = some (roundedInt (j * k)) := by
  obtain ⟨a, p, rfl, hp⟩ := exists_finite hd
  obtain ⟨b, q, rfl, hq⟩ := exists_finite he
  obtain ⟨huge, hhuge⟩ := exists_two_pow (e := 110) le_rfl
  have hplace : nearestPlace (placeUnits p * placeUnits q) (unitScale * unitScale) =
      nearestPlace (j * k).natAbs 1 := by
    have hexpand := nearestPlace_mul_mul (c := unitScale * unitScale)
      (Nat.mul_pos zero_lt_unitScale zero_lt_unitScale) (j * k).natAbs 1
    rwa [Nat.mul_one, Int.natAbs_mul, Nat.mul_comm, ← Nat.mul_mul_mul_comm,
      ← placeUnits_of_whole hp, ← placeUnits_of_whole hq, ← Int.natAbs_mul] at hexpand
  have hrange : nearestPlace (j * k).natAbs 1 < places := by
    refine (nearestPlace_le Nat.one_pos ?_).trans_lt huge.isLt
    rw [hhuge, Nat.mul_one]
    exact Nat.mul_le_mul_right _ h
  have hmul : (finite a p).mul (finite b q) =
      .finite (a != b) ⟨nearestPlace (j * k).natAbs 1, hrange⟩ := by
    rw [mul, ofRatio, hplace, ofPlace, dif_pos hrange]
  rw [hmul, units?_finite, roundedInt]
  by_cases hzero : j * k = 0
  · simp [hzero, signedUnits, nearestPlace_zero, placeUnits_zero]
  · obtain ⟨hj, hk⟩ := mul_ne_zero_iff.mp hzero
    have hsign : (a != b) = decide (j * k < 0) := by
      rw [sign_of_units hp hj, sign_of_units hq hk, Bool.eq_iff_iff, bne_iff_ne, Ne,
        decide_eq_decide, decide_eq_true_iff, mul_neg_iff]
      omega
    rw [hsign]

end Products

section Places

variable {num den p : Nat}

/-- What is rounded beyond a place is not below the middle between this place and the next one. -/
theorem middle_le_of_lt_nearestPlace (h : p < nearestPlace num den) :
    (placeUnits p + placeUnits (p + 1)) * den ≤ 2 * (num * unitScale) := by
  rw [nearestPlace_eq] at h
  have hsum := floorPlace_mul_add_mod (num * unitScale) den
  have hsucc := floorPlace_succ_mul (num * unitScale) den
  generalize num * unitScale = scaled at h hsum hsucc ⊢
  rw [Nat.add_mul]
  by_cases hbelow : p + 1 ≤ floorPlace (scaled / den)
  · have hfirst := Nat.mul_le_mul_right den
      (placeUnits_strictMono.monotone (Nat.le_of_succ_le hbelow))
    have hsecond := Nat.mul_le_mul_right den (placeUnits_strictMono.monotone hbelow)
    omega
  · -- Then the quotient lies behind the place itself and is rounded up.
    by_cases hup : roundsUp scaled den = true
    · rw [if_pos hup] at h
      obtain rfl : p = floorPlace (scaled / den) := by omega
      unfold roundsUp at hup
      simp only [gt_iff_lt, Bool.or_eq_true, decide_eq_true_eq, Bool.and_eq_true, beq_iff_eq] at hup
      omega
    · rw [if_neg hup] at h
      omega

/-- What is not rounded beyond a place is not above the middle between this place and the next
one. -/
theorem le_middle_of_nearestPlace_le (hden : 0 < den) (h : nearestPlace num den ≤ p) :
    2 * (num * unitScale) ≤ (placeUnits p + placeUnits (p + 1)) * den := by
  rw [nearestPlace_eq] at h
  have hsum := floorPlace_mul_add_mod (num * unitScale) den
  have hsucc := floorPlace_succ_mul (num * unitScale) den
  generalize num * unitScale = scaled at h hsum hsucc ⊢
  have hunit : 0 < quotientUnit scaled den := by unfold quotientUnit; positivity
  have hmod := Nat.mod_lt scaled hunit
  rw [Nat.add_mul]
  by_cases habove : floorPlace (scaled / den) + 1 ≤ p
  · have hfirst := Nat.mul_le_mul_right den (placeUnits_strictMono.monotone habove)
    have hsecond := Nat.mul_le_mul_right den
      (placeUnits_strictMono.monotone (habove.trans (Nat.le_add_right p 1)))
    omega
  · by_cases hup : roundsUp scaled den = true
    · rw [if_pos hup] at h
      omega
    · obtain rfl : p = floorPlace (scaled / den) := by omega
      unfold roundsUp at hup
      simp only [gt_iff_lt, Bool.or_eq_true, decide_eq_true_eq, Bool.and_eq_true, beq_iff_eq] at hup
      omega

/-- The step to the next place is one unit, or small in comparison with the magnitude. -/
theorem exists_step (p : Nat) :
    ∃ step, placeUnits (p + 1) = placeUnits p + step ∧
      (step = 1 ∨ 2 ^ 52 * step ≤ placeUnits p) := by
  obtain ⟨k, m, rfl, hlow, hhigh⟩ := exists_shift p
  rw [placeUnits_succ hlow hhigh, placeUnits_of_shift hlow hhigh]
  refine ⟨2 ^ k, by ring, ?_⟩
  rcases hlow with rfl | hm
  · exact .inl (Nat.pow_zero 2)
  · exact .inr (Nat.mul_le_mul_right _ hm)

end Places

section Short

variable {num den a s c p : Nat}

/-- A step is less than two units of the quotient of short numbers in its range. -/
theorem step_mul_lt {step bound : Nat} (ha : a < 2 ^ 53) (hs : s < 2 ^ 53)
    (hstep : step = 1 ∨ 2 ^ 52 * step ≤ bound) (hbound : bound * s ≤ a * unitScale) :
    step * s < 2 * unitScale := by
  have hscale := short_le_unitScale
  generalize unitScale = scale at hbound hscale ⊢
  rcases hstep with rfl | hstep
  · omega
  · have hmul : 2 ^ 52 * (step * s) ≤ bound * s := by
      rw [← Nat.mul_assoc]
      exact Nat.mul_le_mul_right s hstep
    have hlt : a * scale < 2 ^ 53 * scale := Nat.mul_lt_mul_of_pos_right ha (by omega)
    omega

variable (hden : 0 < den) (hratio : num * s = a * den)
include hden hratio

/-- An inequality between multiples of a quotient and of its denominator, freed of the latter. -/
theorem ratio_le {x y : Nat} (h : x * num ≤ y * den) : x * a ≤ y * s := by
  refine Nat.le_of_mul_le_mul_right ?_ hden
  calc x * a * den = x * num * s := by rw [Nat.mul_assoc, ← hratio, Nat.mul_assoc]
    _ ≤ y * den * s := Nat.mul_le_mul_right s h
    _ = y * s * den := Nat.mul_right_comm y den s

theorem le_ratio {x y : Nat} (h : y * den ≤ x * num) : y * s ≤ x * a := by
  refine Nat.le_of_mul_le_mul_right ?_ hden
  calc y * s * den = y * den * s := Nat.mul_right_comm y s den
    _ ≤ x * num * s := Nat.mul_le_mul_right s h
    _ = x * a * den := by rw [Nat.mul_assoc, hratio, Nat.mul_assoc]

variable (ha : a < 2 ^ 53) (hs : s < 2 ^ 53) (hp : placeUnits p = c * unitScale)
include ha hs hp

/-- A quotient of short numbers that is above a whole number is not rounded to it. -/
theorem lt_nearestPlace_of_lt (h : c * s < a) : p < nearestPlace num den := by
  by_contra hle
  obtain ⟨step, hsucc, hstep⟩ := exists_step p
  have hmiddle := le_middle_of_nearestPlace_le hden (not_lt.mp hle)
  rw [hsucc, hp, Nat.mul_comm num, ← Nat.mul_assoc] at hmiddle
  have hquotient := ratio_le hden hratio hmiddle
  have hsmall : step * s < 2 * unitScale := by
    refine step_mul_lt ha hs (hp ▸ hstep) ?_
    rw [Nat.mul_right_comm]
    exact Nat.mul_le_mul_right _ h.le
  have habove : (c * s + 1) * unitScale ≤ a * unitScale := Nat.mul_le_mul_right _ h
  generalize unitScale = scale at hquotient hsmall habove
  nlinarith

/-- A quotient of short numbers that is below a whole number is not rounded to it. -/
theorem nearestPlace_lt_of_lt (h : a < c * s) : nearestPlace num den < p := by
  by_contra hle
  cases p with
  | zero =>
    rw [placeUnits_zero] at hp
    have hscale := short_le_unitScale
    have hc : c = 0 := (Nat.mul_eq_zero.mp hp.symm).resolve_right (by omega)
    rw [hc, Nat.zero_mul] at h
    omega
  | succ p =>
    obtain ⟨step, hsucc, hstep⟩ := exists_step p
    have hmiddle := middle_le_of_lt_nearestPlace (Nat.lt_of_succ_le (not_lt.mp hle))
    rw [Nat.mul_comm num, ← Nat.mul_assoc] at hmiddle
    have hquotient := le_ratio hden hratio hmiddle
    have hsmall : step * s < 2 * unitScale := by
      refine step_mul_lt ha hs hstep ?_
      rw [hsucc] at hquotient
      generalize unitScale = scale at hquotient
      nlinarith
    have hbelow : (a + 1) * unitScale ≤ c * s * unitScale := Nat.mul_le_mul_right _ h
    rw [hp] at hquotient hsucc
    generalize unitScale = scale at hquotient hsmall hbelow hsucc
    nlinarith

end Short

section Signed

variable {num j s c : Int} {den : Nat}

/-- The magnitude of a short whole number. -/
theorem exists_whole_place (hc : c.natAbs ≤ 2 ^ 53) :
    ∃ p : Fin places, placeUnits p = c.natAbs * unitScale := by
  obtain ⟨p, hp⟩ := exists_whole hc
  exact ⟨p, placeUnits_of_whole hp⟩

variable (hden : 0 < den) (hs : 0 < s) (hratio : num * s = j * den) (hc : c.natAbs ≤ 2 ^ 53)
include hden hs hratio hc

/-- A quotient that is not above a short whole number is not rounded beyond it. -/
theorem roundedRatio_le_whole (h : j ≤ c * s) : roundedRatio num den ≤ c * Int.ofNat unitScale := by
  obtain ⟨p, hp⟩ := exists_whole hc
  rw [← hp]
  refine roundedRatio_le hden ?_
  rw [hp, Int.mul_right_comm]
  refine Int.mul_le_mul_of_nonneg_right ?_ (Int.natCast_nonneg _)
  refine Int.le_of_mul_le_mul_right ?_ hs
  rw [hratio, Int.mul_right_comm]
  exact Int.mul_le_mul_of_nonneg_right h (Int.natCast_nonneg _)

/-- A quotient that is not below a short whole number is not rounded below it. -/
theorem whole_le_roundedRatio (h : c * s ≤ j) : c * Int.ofNat unitScale ≤ roundedRatio num den := by
  have hneg : -num * s = -j * den := by rw [Int.neg_mul, Int.neg_mul, hratio]
  have hle := roundedRatio_le_whole (c := -c) hden hs hneg (by rwa [Int.natAbs_neg])
    (by rw [Int.neg_mul]; exact Int.neg_le_neg h)
  rw [roundedRatio_neg num hden, Int.neg_mul] at hle
  exact Int.neg_le_neg_iff.mp hle

variable (hshort : s < 2 ^ 53) (hj : j.natAbs < 2 ^ 53)
include hshort hj

/-- A quotient of short numbers is not rounded to a whole number that it is not. -/
theorem roundedRatio_ne (h : j ≠ c * s) : roundedRatio num den ≠ c * Int.ofNat unitScale := by
  intro heq
  obtain ⟨p, hp⟩ := exists_whole_place hc
  have hratioAbs : num.natAbs * s.natAbs = j.natAbs * den := by
    rw [← Int.natAbs_mul, hratio, Int.natAbs_mul, Int.natAbs_natCast]
  have hplace : nearestPlace num.natAbs den = p := by
    refine placeUnits_strictMono.injective ?_
    rw [hp, ← natAbs_signedUnits (decide (num < 0)), ← roundedRatio, heq, Int.natAbs_mul]
    rfl
  have habs : j.natAbs = (c * s).natAbs := by
    rw [Int.natAbs_mul]
    refine le_antisymm (not_lt.mp fun hlt => ?_) (not_lt.mp fun hlt => ?_)
    · exact (lt_nearestPlace_of_lt hden hratioAbs hj (by omega) hp hlt).ne' hplace
    · exact (nearestPlace_lt_of_lt hden hratioAbs hj (by omega) hp hlt).ne hplace
  have hopposite : j = -(c * s) := (Int.natAbs_eq_natAbs_iff.mp habs).resolve_left h
  -- A quotient of the opposite sign is rounded to the other side of zero.
  have hscale := Number.unitScale_pos
  rcases lt_trichotomy c 0 with hneg | rfl | hpos
  · have hmul := Int.mul_neg_of_neg_of_pos hneg hs
    have hle := whole_le_roundedRatio (c := 0) hden hs hratio (by decide) (by omega)
    have hlt := Int.mul_neg_of_neg_of_pos hneg hscale
    omega
  · exact h (by rw [hopposite, Int.zero_mul, Int.neg_zero])
  · have hmul := Int.mul_pos hpos hs
    have hle := roundedRatio_le_whole (c := 0) hden hs hratio (by decide) (by omega)
    have hlt := Int.mul_pos hpos hscale
    omega

/-- A quotient of short numbers that is below a whole number is not rounded to it. -/
theorem roundedRatio_lt (h : j < c * s) : roundedRatio num den < c * Int.ofNat unitScale :=
  lt_of_le_of_ne (roundedRatio_le_whole hden hs hratio hc h.le)
    (roundedRatio_ne hden hs hratio hc hshort hj h.ne)

omit hc in
/-- The integer below a quotient of short numbers stays the same when it is rounded. -/
theorem roundedRatio_ediv : roundedRatio num den / Int.ofNat unitScale = j / s := by
  have hscale := Number.unitScale_pos
  have hfloor := Int.natAbs_ediv_le_natAbs j s
  refine le_antisymm (Int.lt_add_one_iff.mp ?_) ?_
  · refine Int.ediv_lt_of_lt_mul hscale ?_
    exact roundedRatio_lt hden hs hratio (by omega) hshort hj (Int.lt_ediv_add_one_mul_self j hs)
  · refine (Int.le_ediv_iff_mul_le hscale).mpr ?_
    exact whole_le_roundedRatio hden hs hratio (by omega) (Int.ediv_mul_le j hs.ne')

end Signed

end Double

namespace Number

open Double

/-- A number is a double of some units, or an integer that is one. -/
structure HasUnits (x : Number) (w : Int) : Prop where
  exact : x.exactValue? = some (.inr w)
  nearest : ∃ d, x.nearest = .ok d ∧ d.units? = some w

variable {x step : Number} {w j s c : Int}

theorem Is.hasUnits (h : x.Is j) (hj : j.natAbs ≤ 2 ^ 53) : x.HasUnits (j * Int.ofNat unitScale) :=
  ⟨h, h.nearest hj⟩

theorem hasUnits_float {d : Double} (h : d.units? = some w) : (Number.float d).HasUnits w :=
  ⟨exactValue?_float_iff.mpr h, d, rfl, h⟩

/-- A division of numbers that are not both integers goes over to their nearest doubles. -/
theorem quotient_cases {y : Number} {d e : Double} (hx : x.nearest = .ok d)
    (hy : y.nearest = .ok e) :
    (∃ m n, x = .int m ∧ y = .int n) ∨ x.quotient y = .ok (d.div e) := by
  have hbind : (do return (← x.nearest).div (← y.nearest)) =
      (Except.ok (d.div e) : Except ArithmeticFault Double) := by
    rw [hx, hy]
    rfl
  cases x with
  | float d' => exact .inr hbind
  | int m =>
    cases y with
    | float e' => exact .inr hbind
    | int n => exact .inl ⟨m, n, rfl, rfl⟩

/-- The double nearest to a quotient of units with a sign. -/
theorem ofRatio_eq_ofUnits (a : Bool) (p den : Nat) :
    ofRatio a (placeUnits p) den = ofUnits a (signedUnits a p) den := by
  rw [ofUnits, natAbs_signedUnits]
  by_cases hzero : signedUnits a p = 0
  · rw [if_pos hzero]
  · have hsign : decide (signedUnits a p < 0) = a := by
      unfold signedUnits at hzero ⊢
      cases a with
      | true =>
        simp only [if_true] at hzero ⊢
        exact decide_eq_true (by omega)
      | false =>
        simp only [Bool.false_eq_true, if_false] at hzero ⊢
        exact decide_eq_false (by omega)
    rw [if_neg hzero, hsign]

/-- The quotient by a short whole number is the exact one, rounded once. -/
theorem HasUnits.quotient (hx : x.HasUnits w) (hw : w.natAbs ≤ 2 ^ 54 * unitScale)
    (hstep : step.Is s) (hs : 0 < s) (hshort : s < 2 ^ 53) :
    ∃ d num den, x.quotient step = .ok d ∧ d.units? = some (roundedRatio num den) ∧ 0 < den ∧
      num * (s * Int.ofNat unitScale) = w * den := by
  obtain ⟨large, hlarge⟩ := exists_large_place
  obtain ⟨hexact, d, hd, hdunits⟩ := hx
  obtain ⟨e, he, heunits⟩ := hstep.nearest (by omega)
  have hscale := unitScale_pos
  rcases quotient_cases hd he with ⟨m, n, rfl, rfl⟩ | hquotient
  · obtain rfl := (is_int n).unique hstep
    obtain rfl : m * Int.ofNat unitScale = w := by
      rw [exactValue?_int] at hexact
      exact Sum.inr.inj (Option.some.inj hexact)
    have hm : m.natAbs ≤ 2 ^ 54 := by
      rw [Int.natAbs_mul] at hw
      exact Nat.le_of_mul_le_mul_right hw zero_lt_unitScale
    have hunits : (ofUnits false m n.natAbs).units? = some (roundedRatio m n.natAbs) := by
      refine ofUnits_units? (by omega) false large ?_
      rw [hlarge]
      calc m.natAbs * unitScale ≤ 2 ^ 54 * unitScale := Nat.mul_le_mul_right _ hm
        _ ≤ 2 ^ 54 * unitScale * n.natAbs := Nat.le_mul_of_pos_right _ (by omega)
    have hsame : ofRatio (decide (m < 0) != decide (n < 0)) m.natAbs n.natAbs =
        ofUnits false m n.natAbs := by
      rw [ofUnits, decide_eq_false (not_lt.mpr hs.le), Bool.bne_false]
      split
      · rename_i hzero
        rw [hzero, decide_eq_false (by decide)]
      · rfl
    refine ⟨_, m, n.natAbs, ?_, hunits, by omega, ?_⟩
    · obtain ⟨b, r, hfinite, -⟩ := exists_finite hunits
      rw [Number.quotient]
      simp only [hsame, hfinite, Double.isInfinite, Bool.false_eq_true, if_false]
    · rw [Int.natCast_natAbs, abs_of_pos hs, Int.mul_assoc, Int.mul_comm n]
  · obtain ⟨a, p, rfl, rfl⟩ := exists_finite hdunits
    obtain ⟨b, q, rfl, hq⟩ := exists_finite heunits
    have hpos : 0 < signedUnits b q := hq ▸ Int.mul_pos hs hscale
    obtain ⟨rfl, hplace⟩ : b = false ∧ (placeUnits q : Int) = s * Int.ofNat unitScale := by
      unfold signedUnits at hpos hq
      cases b with
      | true =>
        simp only [if_true] at hpos
        omega
      | false => exact ⟨rfl, hq⟩
    have hplace_pos : 0 < placeUnits q := by omega
    have hne : q.val ≠ 0 := by
      intro hzero
      rw [hzero, placeUnits_zero] at hplace_pos
      exact absurd hplace_pos (by decide)
    refine ⟨_, signedUnits a p, placeUnits q, hquotient, ?_, hplace_pos, by rw [hplace]⟩
    rw [div_finite hne, Bool.bne_false, ofRatio_eq_ofUnits]
    refine ofUnits_units? hplace_pos a large ?_
    have hle : unitScale ≤ placeUnits q := by
      have hmul := Int.mul_le_mul_of_nonneg_right (by omega : 1 ≤ s) hscale.le
      rw [Int.one_mul, ← hplace] at hmul
      exact Int.ofNat_le.mp hmul
    rw [hlarge]
    exact Nat.mul_le_mul hw hle

/-- The integers next to a quotient, from above and from below. -/
def Factors (x step : Number) (first last : Int) : Prop :=
  ∃ d, x.quotient step = .ok d ∧ (Number.float d).ceil = .ok first ∧
    (Number.float d).floor = .ok last

/-- The integers next to a quotient of short whole numbers are those next to the exact quotient. -/
theorem Is.factors (hx : x.Is j) (hj : j.natAbs < 2 ^ 53) (hstep : step.Is s) (hs : 0 < s)
    (hshort : s < 2 ^ 53) : x.Factors step (-(-j / s)) (j / s) := by
  have hscale := unitScale_pos
  have hw : (j * Int.ofNat unitScale).natAbs ≤ 2 ^ 54 * unitScale := by
    rw [Int.natAbs_mul]
    exact Nat.mul_le_mul_right _ (by omega)
  obtain ⟨d, num, den, hd, hunits, hden, hratio⟩ :=
    (hx.hasUnits hj.le).quotient hw hstep hs hshort
  have hwhole : num * s = j * den := by
    refine Int.eq_of_mul_eq_mul_right hscale.ne' ?_
    rw [Int.mul_assoc, hratio, Int.mul_right_comm]
  have hneg : -num * s = -j * den := by rw [Int.neg_mul, Int.neg_mul, hwhole]
  refine ⟨d, hd, ?_, ?_⟩
  · rw [ceil_of_units? hunits, ← roundedRatio_neg num hden,
      roundedRatio_ediv hden hs hneg hshort (by rwa [Int.natAbs_neg])]
  · rw [floor_of_units? hunits, roundedRatio_ediv hden hs hwhole hshort hj]

/-- A rounded quotient of moderate size is of moderate size. -/
theorem roundedRatio_bounds {num : Int} {den : Nat} (hden : 0 < den) (hs : 0 < s)
    (hratio : num * (s * Int.ofNat unitScale) = w * den) (hw : w.natAbs ≤ 2 ^ 54 * unitScale) :
    -2 ^ 54 * Int.ofNat unitScale ≤ roundedRatio num den ∧
      roundedRatio num den ≤ 2 ^ 54 * Int.ofNat unitScale := by
  have hscale := unitScale_pos
  obtain ⟨large, hlow, hhigh⟩ := exists_large
  have hnum : num.natAbs ≤ 2 ^ 54 * den := by
    have hpos : 0 < (s * Int.ofNat unitScale).natAbs := by
      have hmul := Int.mul_pos hs hscale
      omega
    refine Nat.le_of_mul_le_mul_right ?_ hpos
    calc num.natAbs * (s * Int.ofNat unitScale).natAbs = w.natAbs * den := by
          rw [← Int.natAbs_mul, hratio, Int.natAbs_mul, Int.natAbs_natCast]
      _ ≤ 2 ^ 54 * unitScale * den := Nat.mul_le_mul_right _ hw
      _ = 2 ^ 54 * den * (1 * unitScale) := by ring
      _ ≤ 2 ^ 54 * den * (s.natAbs * unitScale) :=
          Nat.mul_le_mul_left _ (Nat.mul_le_mul_right _ (by omega))
      _ = 2 ^ 54 * den * (s * Int.ofNat unitScale).natAbs := by rw [Int.natAbs_mul]; rfl
  have hmul {a b : Int} (h : a ≤ b) : a * (unitScale : Int) ≤ b * (unitScale : Int) :=
    Int.mul_le_mul_of_nonneg_right h (Int.natCast_nonneg _)
  rw [← hlow, ← hhigh]
  refine ⟨le_roundedRatio hden ?_, roundedRatio_le hden ?_⟩
  · rw [hlow, Int.mul_right_comm]
    exact hmul (by omega)
  · rw [hhigh, Int.mul_right_comm]
    exact hmul (by omega)

/-- The integers next to a rounded quotient are not beyond a short integer that the exact quotient
is not beyond. -/
theorem HasUnits.factors (hx : x.HasUnits w) (hw : w.natAbs ≤ 2 ^ 54 * unitScale)
    (hstep : step.Is s) (hs : 0 < s) (hshort : s < 2 ^ 53) :
    ∃ first last, x.Factors step first last ∧ first.natAbs ≤ 2 ^ 54 ∧ last.natAbs ≤ 2 ^ 54 ∧
      ∀ m : Int, m.natAbs ≤ 2 ^ 53 → (w ≤ m * s * Int.ofNat unitScale → first ≤ m) ∧
        (m * s * Int.ofNat unitScale ≤ w → m ≤ last) := by
  have hscale := unitScale_pos
  obtain ⟨d, num, den, hd, hunits, hden, hratio⟩ := hx.quotient hw hstep hs hshort
  obtain ⟨hlow, hhigh⟩ := roundedRatio_bounds hden hs hratio hw
  have hspos := Int.mul_pos hs hscale
  have hfloor {m : Int} : m ≤ roundedRatio num den / Int.ofNat unitScale ↔
      m * Int.ofNat unitScale ≤ roundedRatio num den := Int.le_ediv_iff_mul_le hscale
  have hceil {m : Int} : -(-roundedRatio num den / Int.ofNat unitScale) ≤ m ↔
      roundedRatio num den ≤ m * Int.ofNat unitScale := by
    rw [neg_le, Int.le_ediv_iff_mul_le hscale, Int.neg_mul, neg_le_neg_iff]
  have hfirst : -roundedRatio num den / Int.ofNat unitScale ≤ 2 ^ 54 :=
    Int.ediv_le_of_le_mul hscale (by omega)
  have hlast : roundedRatio num den / Int.ofNat unitScale ≤ 2 ^ 54 :=
    Int.ediv_le_of_le_mul hscale hhigh
  have hfirst' := hceil.mpr hhigh
  have hlast' := hfloor.mpr hlow
  refine ⟨_, _, ⟨d, hd, ceil_of_units? hunits, floor_of_units? hunits⟩, by omega, by omega,
    fun m hm => ⟨fun hle => hceil.mpr ?_, fun hle => hfloor.mpr ?_⟩⟩
  · exact roundedRatio_le_whole hden hspos hratio hm (by rwa [← Int.mul_assoc])
  · exact whole_le_roundedRatio hden hspos hratio hm (by rwa [← Int.mul_assoc])

theorem Factors.unique {first last first' last' : Int} (h : x.Factors step first last)
    (h' : x.Factors step first' last') : first = first' ∧ last = last' := by
  obtain ⟨d, hd, hfirst, hlast⟩ := h
  obtain ⟨e, he, hfirst', hlast'⟩ := h'
  obtain rfl := Except.ok.inj (hd.symm.trans he)
  exact ⟨Except.ok.inj (hfirst.symm.trans hfirst'), Except.ok.inj (hlast.symm.trans hlast')⟩

/-- The factors of the multiples of a step that are next to a number, from above and from below. -/
structure Neighbours (s j first last : Int) : Prop where
  le_first : j ≤ first * s
  before_first : (first - 1) * s < j
  last_le : last * s ≤ j
  behind_last : j < (last + 1) * s

theorem Is.exists_factors (hx : x.Is j) (hj : j.natAbs < 2 ^ 53) (hstep : step.Is s) (hs : 0 < s)
    (hshort : s < 2 ^ 53) : ∃ first last, x.Factors step first last ∧ first.natAbs ≤ 2 ^ 53 ∧
      last.natAbs ≤ 2 ^ 53 ∧ Neighbours s j first last := by
  have hfirst := Int.natAbs_ediv_le_natAbs (-j) s
  have hlast := Int.natAbs_ediv_le_natAbs j s
  refine ⟨_, _, hx.factors hj hstep hs hshort, by omega, by omega, ?_, ?_, ?_, ?_⟩
  · have hle := Int.ediv_mul_le (-j) hs.ne'
    rw [Int.neg_mul]
    omega
  · have hlt := Int.lt_ediv_add_one_mul_self (-j) hs
    rw [show -(-j / s) - 1 = -(-j / s + 1) by omega, Int.neg_mul]
    omega
  · exact Int.ediv_mul_le j hs.ne'
  · exact Int.lt_ediv_add_one_mul_self j hs

theorem sub_float (x : Number) (d : Double) : x.sub (.float d) = x.add (.float d.neg) := by
  cases x <;> rfl

/-- The integers next to the quotient of a rounded sum. They are those next to the exact quotient if
the sum is short, and else not beyond the factor of a short multiple that the sum is not beyond. -/
theorem Is.add_factors {d : Double} {k : Int} (hx : x.Is j) (hd : (Number.float d).Is k)
    (hj : j.natAbs ≤ 2 ^ 53) (hk : k.natAbs ≤ 2 ^ 53) (hstep : step.Is s) (hs : 0 < s)
    (hshort : s < 2 ^ 53) :
    ∃ z first last, x.add (.float d) = .ok z ∧ z.Factors step first last ∧ first.natAbs ≤ 2 ^ 54 ∧
      last.natAbs ≤ 2 ^ 54 ∧
      (∀ m : Int, (m * s).natAbs ≤ 2 ^ 53 →
        (j + k ≤ m * s → first ≤ m) ∧ (m * s ≤ j + k → m ≤ last)) ∧
      ((j + k).natAbs < 2 ^ 53 → Neighbours s (j + k) first last) := by
  obtain ⟨e, he, hunits⟩ := hx.nearest hj
  obtain ⟨w, hw, hnear, hlow, hhigh⟩ := exists_add_whole hunits (exactValue?_float_iff.mp hd) hj hk
  have hadd : x.add (.float d) = .ok (.float (e.add d)) := by
    rcases combine_cases (· + ·) Double.add he (y := .float d) rfl with ⟨m, n, -, hn⟩ | hadd
    · exact nomatch hn
    · exact hadd
  have hsum : (Number.float (e.add d)).HasUnits w := hasUnits_float hw
  obtain ⟨first, last, hfactors, hfirst, hlast, hbeyond⟩ :=
    hsum.factors (by rw [Int.ofNat_eq_natCast] at hlow hhigh; omega) hstep hs hshort
  refine ⟨_, first, last, hadd, hfactors, hfirst, hlast, fun m hm => ?_, fun hexact => ?_⟩
  · have hfactor : m.natAbs ≤ 2 ^ 53 := by
      rw [Int.natAbs_mul] at hm
      exact (Nat.le_mul_of_pos_right _ (by omega)).trans hm
    exact ⟨fun hle => (hbeyond m hfactor).1 ((hnear _ hm).2 hle),
      fun hle => (hbeyond m hfactor).2 ((hnear _ hm).1 hle)⟩
  · obtain ⟨hle, hge⟩ := hnear (j + k) hexact.le
    have his : (Number.float (e.add d)).Is (j + k) := by
      rw [Is, exactValue?_float_iff, hw, le_antisymm (hge le_rfl) (hle le_rfl)]
    obtain ⟨first', last', hfactors', -, -, hnext⟩ := his.exists_factors hexact hstep hs hshort
    obtain ⟨rfl, rfl⟩ := hfactors.unique hfactors'
    exact hnext

end Number

end Conform
