import Conform.Proofs.Number.Order
import Mathlib.Tactic.Linarith

/-!
# Whole numbers among numbers

An integer and a double may be the same whole number. Up to `2^53` every whole number is a double,
so that rounding, comparing and adding such numbers is exact, and every half of one is a double.

## Main definitions

- `Number.Is`, `Number.Halves` — a number is a certain whole number, or number of halves
- `Double.exists_whole`, `Double.exists_half` — short whole numbers and their halves are doubles
- `Double.exists_add_units` — on which side of a double a rounded sum is
- `Number.Is.nearest`, `Number.Is.add`, `Number.Is.half` — exact operations
- `Number.Is.add_floor`, `Number.Is.sub_ceil` — the integers next to a rounded sum or difference
-/

namespace Conform

namespace Double

theorem unitsShift_le {units s : Nat} (h : units < 2 ^ (53 + s)) : unitsShift units ≤ s := by
  unfold unitsShift
  rcases Nat.eq_zero_or_pos units with rfl | hpos
  · simp
  · have hlog := (Nat.log2_lt hpos.ne').mpr h
    omega

/-- Multiples of powers of two are magnitudes if the factor is short. -/
theorem exists_place {m : Nat} (hm : m ≤ 2 ^ 53) (s : Nat) : ∃ p, placeUnits p = m * 2 ^ s := by
  have hshort {m s : Nat} (hm : m < 2 ^ 53) : placeUnits (floorPlace (m * 2 ^ s)) = m * 2 ^ s := by
    have hunits : m * 2 ^ s < 2 ^ (53 + s) := by
      rw [Nat.pow_add]
      exact Nat.mul_lt_mul_of_pos_right hm (Nat.two_pow_pos s)
    rw [placeUnits_floorPlace]
    exact Nat.div_mul_cancel ((Nat.pow_dvd_pow 2 (unitsShift_le hunits)).mul_left m)
  rcases Nat.lt_or_eq_of_le hm with hlt | rfl
  · exact ⟨_, hshort hlt⟩
  · refine ⟨_, (hshort (m := 2 ^ 52) (s := s + 1) (by norm_num)).trans ?_⟩
    rw [Nat.pow_succ 2 s]
    ring

/-- A double beyond all short whole numbers. -/
theorem exists_large_place : ∃ p : Fin places, placeUnits p = 2 ^ 54 * unitScale :=
  ⟨⟨nearestPlace (2 ^ 54) 1, by decide +kernel⟩, by decide +kernel⟩

/-- A double beyond all short whole numbers, on either side of zero. -/
theorem exists_large : ∃ p : Fin places, signedUnits true p = -2 ^ 54 * Int.ofNat unitScale ∧
    signedUnits false p = 2 ^ 54 * Int.ofNat unitScale := by
  obtain ⟨p, hp⟩ := exists_large_place
  refine ⟨p, ?_⟩
  simp [signedUnits, hp]

/-- A short multiple of a power of two that is not above one is the magnitude of a double. -/
theorem exists_magnitude {m s : Nat} (hm : m ≤ 2 ^ 53) (hs : 2 ^ s ≤ unitScale) :
    ∃ p : Fin places, placeUnits p = m * 2 ^ s := by
  obtain ⟨p, hp⟩ := exists_place hm s
  obtain ⟨large, hlarge⟩ := exists_large_place
  refine ⟨⟨p, lt_of_le_of_lt (placeUnits_strictMono.le_iff_le.mp ?_) large.isLt⟩, hp⟩
  rw [hp, hlarge]
  exact Nat.mul_le_mul (hm.trans (by norm_num)) hs

theorem natAbs_signedUnits (negative : Bool) (place : Nat) :
    (signedUnits negative place).natAbs = placeUnits place := by
  cases negative <;> simp [signedUnits]

/-- The magnitude of a whole double. -/
theorem placeUnits_of_whole {k : Int} {negative : Bool} {place : Nat}
    (h : signedUnits negative place = k * Int.ofNat unitScale) :
    placeUnits place = k.natAbs * unitScale := by
  rw [← natAbs_signedUnits negative, h, Int.natAbs_mul]
  rfl

/-- A short whole number is a double. -/
theorem exists_whole {k : Int} (hk : k.natAbs ≤ 2 ^ 53) :
    ∃ p : Fin places, signedUnits (decide (k < 0)) p = k * Int.ofNat unitScale := by
  obtain ⟨scale, hscale⟩ := exists_unitScale_eq_pow
  obtain ⟨p, hp⟩ := exists_magnitude hk hscale.ge
  refine ⟨p, ?_⟩
  have hcast : (placeUnits p : Int) = |k| * Int.ofNat unitScale := by
    rw [hp, ← hscale, Nat.cast_mul, Int.natCast_natAbs]
    rfl
  unfold signedUnits
  rw [hcast]
  by_cases hneg : k < 0
  · rw [if_pos (decide_eq_true hneg), abs_of_neg hneg, Int.neg_mul, Int.neg_neg]
  · rw [if_neg (by simpa using hneg), abs_of_nonneg (not_lt.mp hneg)]

/-- Half a short whole number is a double. -/
theorem exists_half {k : Int} (hk : k.natAbs ≤ 2 ^ 53) :
    ∃ p : Fin places, 2 * placeUnits p = k.natAbs * unitScale := by
  obtain ⟨scale, hscale⟩ := exists_unitScale_eq_pow
  have hscale_ne : scale ≠ 0 := by
    rintro rfl
    exact absurd hscale (by decide +kernel)
  obtain ⟨s, rfl⟩ := Nat.exists_eq_succ_of_ne_zero hscale_ne
  obtain ⟨p, hp⟩ := exists_magnitude (s := s) hk (by rw [hscale, Nat.pow_succ]; omega)
  refine ⟨p, ?_⟩
  rw [hp, hscale, Nat.pow_succ]
  ring

theorem ofRatio_eq {num den : Nat} {negative : Bool} {p : Fin places} (hden : 0 < den)
    (h : num * unitScale = placeUnits p * den) : ofRatio negative num den = .finite negative p := by
  rw [ofRatio, nearestPlace_eq_of_eq hden h, ofPlace, dif_pos p.isLt]

/-- A quotient that is a double is not rounded. -/
theorem roundedRatio_eq {n : Int} {den place : Nat} {negative : Bool} (hden : 0 < den)
    (h : n * (unitScale : Int) = signedUnits negative place * den) :
    roundedRatio n den = signedUnits negative place :=
  le_antisymm (roundedRatio_le hden h.le) (le_roundedRatio hden h.ge)

/-- A number with units is finite. -/
theorem exists_finite {d : Double} {u : Int} (h : d.units? = some u) :
    ∃ s p, d = .finite s p ∧ signedUnits s p = u := by
  cases d with
  | nan => exact nomatch h
  | infinite s => exact nomatch h
  | finite s p => exact ⟨s, p, rfl, Option.some.inj h⟩

/-- The quotient by a finite number that is not zero is rounded once. -/
theorem div_finite {s t : Bool} {p q : Fin places} (hq : q.val ≠ 0) :
    (finite s p).div (finite t q) = ofRatio (s != t) (placeUnits p) (placeUnits q) := by
  have hdiv : (finite s p).div (finite t q) =
      if (finite t q).isZero then (if (finite s p).isZero then .nan else .infinite (s != t))
      else ofRatio (s != t) (placeUnits p) (placeUnits q) := rfl
  have hzero : (finite t q).isZero = false := by simpa [isZero] using hq
  exact hdiv.trans (if_neg (Bool.eq_false_iff.mp hzero))

/-- The double nearest to a whole number of units over `den`, if it is in range. -/
theorem ofUnits_units? {n : Int} {den : Nat} (hden : 0 < den) (z : Bool) (large : Fin places)
    (h : n.natAbs * unitScale ≤ placeUnits large * den) :
    (ofUnits z n den).units? = some (roundedRatio n den) := by
  have hplace : nearestPlace n.natAbs den < places :=
    (nearestPlace_le hden h).trans_lt large.isLt
  have hfinite (negative : Bool) : ofRatio negative n.natAbs den =
      .finite negative ⟨nearestPlace n.natAbs den, hplace⟩ := by
    rw [ofRatio, ofPlace, dif_pos hplace]
  rw [ofUnits, hfinite, units?_finite, roundedRatio]
  by_cases hn : n = 0
  · subst hn
    simp [signedUnits, nearestPlace_zero hden, placeUnits_zero]
  · rw [if_neg hn]

/-- The sum of two doubles of moderate size is on the same side of every double as the exact sum. -/
theorem exists_add_units {d e : Double} {u v : Int} (hd : d.units? = some u)
    (he : e.units? = some v) (h : (u + v).natAbs ≤ 2 ^ 54 * unitScale) :
    ∃ w, (d.add e).units? = some w ∧ ∀ (s : Bool) (p : Fin places),
      (signedUnits s p ≤ u + v → signedUnits s p ≤ w) ∧
      (u + v ≤ signedUnits s p → w ≤ signedUnits s p) := by
  have hscale : 0 < unitScale := Nat.pos_of_ne_zero (by decide +kernel)
  obtain ⟨large, hlarge⟩ := exists_large_place
  have hadd : d.add e = ofUnits (d.isNegative && e.isNegative) (u + v) unitScale := by
    obtain ⟨s, p, rfl, rfl⟩ := exists_finite hd
    obtain ⟨t, q, rfl, rfl⟩ := exists_finite he
    rfl
  refine ⟨roundedRatio (u + v) unitScale, ?_, fun s p => ?_⟩
  · rw [hadd]
    exact ofUnits_units? hscale _ large (by rw [hlarge]; exact Nat.mul_le_mul_right _ h)
  · have hmul {a b : Int} (hab : a ≤ b) : a * (unitScale : Int) ≤ b * (unitScale : Int) :=
      Int.mul_le_mul_of_nonneg_right hab (Int.natCast_nonneg _)
    exact ⟨fun hle => le_roundedRatio hscale (hmul hle),
      fun hle => roundedRatio_le hscale (hmul hle)⟩

end Double

namespace Number

open Double

/-- A number is a certain whole number. -/
def Is (n : Number) (k : Int) : Prop := n.exactValue? = some (.inr (k * Int.ofNat unitScale))

/-- A number is a certain number of halves. -/
def Halves (n : Number) (h : Int) : Prop :=
  ∃ u, n.exactValue? = some (.inr u) ∧ 2 * u = h * Int.ofNat unitScale

section Is

variable {x y : Number} {j k : Int}

theorem is_int (k : Int) : (Number.int k).Is k := exactValue?_int k

theorem is_float {s : Bool} {p : Fin places} :
    (Number.float (.finite s p)).Is k ↔ signedUnits s p = k * Int.ofNat unitScale := by
  rw [Is, exactValue?_finite, Option.some_inj, Sum.inr.injEq]

theorem exactValue?_float_iff {d : Double} {u : Int} :
    (Number.float d).exactValue? = some (.inr u) ↔ d.units? = some u := by
  cases d with
  | nan => exact ⟨nofun, nofun⟩
  | infinite s => exact ⟨nofun, nofun⟩
  | finite s p =>
    rw [exactValue?_finite, units?_finite, Option.some_inj, Option.some_inj, Sum.inr.injEq]

/-- What a number that is whole looks like. -/
theorem Is.cases (h : x.Is k) :
    x = .int k ∨ ∃ s p, x = .float (.finite s p) ∧ signedUnits s p = k * Int.ofNat unitScale := by
  cases x with
  | int n =>
    rw [Is, exactValue?_int, Option.some_inj, Sum.inr.injEq] at h
    exact .inl (congrArg Number.int (Int.eq_of_mul_eq_mul_right unitScale_pos.ne' h))
  | float d =>
    cases d with
    | nan => exact nomatch h
    | infinite s => exact nomatch h
    | finite s p => exact .inr ⟨s, p, rfl, is_float.mp h⟩

theorem Is.unique (hj : x.Is j) (hk : x.Is k) : j = k := by
  rw [Is, hj, Option.some_inj, Sum.inr.injEq] at hk
  exact Int.eq_of_mul_eq_mul_right unitScale_pos.ne' hk

theorem Is.halves (h : x.Is k) : x.Halves (2 * k) := ⟨_, h, (Int.mul_assoc _ _ _).symm⟩

theorem Halves.unique (hj : x.Halves j) (hk : x.Halves k) : j = k := by
  obtain ⟨u, hu, hj⟩ := hj
  obtain ⟨v, hv, hk⟩ := hk
  rw [hu, Option.some_inj, Sum.inr.injEq] at hv
  rw [hv, hk] at hj
  exact (Int.eq_of_mul_eq_mul_right unitScale_pos.ne' hj).symm

theorem Halves.below (hx : x.Halves j) (hy : y.Halves k) : x.below y = true ↔ j < k := by
  obtain ⟨u, hu, hj⟩ := hx
  obtain ⟨v, hv, hk⟩ := hy
  have hdouble : u < v ↔ 2 * u < 2 * v := by omega
  rw [below_iff hu hv, hdouble, hj, hk]
  exact Int.mul_lt_mul_right unitScale_pos

theorem Halves.atMost (hx : x.Halves j) (hy : y.Halves k) : x.atMost y = true ↔ j ≤ k := by
  obtain ⟨u, hu, hj⟩ := hx
  obtain ⟨v, hv, hk⟩ := hy
  have hdouble : u ≤ v ↔ 2 * u ≤ 2 * v := by omega
  rw [atMost_iff hu hv, hdouble, hj, hk]
  exact Int.mul_le_mul_right unitScale_pos

theorem Is.below (hx : x.Is j) (hy : y.Is k) : x.below y = true ↔ j < k :=
  (hx.halves.below hy.halves).trans (by omega)

theorem Is.atMost (hx : x.Is j) (hy : y.Is k) : x.atMost y = true ↔ j ≤ k :=
  (hx.halves.atMost hy.halves).trans (by omega)

theorem Is.same (hx : x.Is j) (hy : y.Is k) : x.same y = true ↔ j = k := by
  rw [same_iff, hx, hy]
  simp only [Option.some_inj, exists_eq_left', Sum.inr.injEq, mul_eq_mul_right_iff,
    unitScale_pos.ne', or_false]
  exact eq_comm

theorem Is.infinite_below (h : x.Is k) : (Number.float (.infinite true)).below x = true := by
  obtain rfl | ⟨s, p, rfl, -⟩ := h.cases <;> rfl

theorem Is.below_infinite (h : x.Is k) : x.below (.float (.infinite false)) = true := by
  obtain rfl | ⟨s, p, rfl, -⟩ := h.cases <;> rfl

theorem Is.infinite_atMost (h : x.Is k) : (Number.float (.infinite true)).atMost x = true := by
  rw [Number.atMost, h.infinite_below, Bool.true_or]

theorem Is.atMost_infinite (h : x.Is k) : x.atMost (.float (.infinite false)) = true := by
  rw [Number.atMost, h.below_infinite, Bool.true_or]

/-- The greater one of two numbers. -/
theorem Is.greater (hx : x.Is j) (hy : y.Is k) : (x.greater y).Is (max j k) := by
  unfold Number.greater
  split
  · rename_i h
    rw [max_eq_right ((hx.below hy).mp h).le]
    exact hy
  · rename_i h
    rw [max_eq_left (not_lt.mp fun hlt => h ((hx.below hy).mpr hlt))]
    exact hx

/-- The lesser one of two numbers. -/
theorem Is.lesser (hx : x.Is j) (hy : y.Is k) : (x.lesser y).Is (min j k) := by
  unfold Number.lesser
  split
  · rename_i h
    rw [min_eq_right ((hy.below hx).mp h).le]
    exact hy
  · rename_i h
    rw [min_eq_left (not_lt.mp fun hlt => h ((hy.below hx).mpr hlt))]
    exact hx

theorem toDouble?_of_nearest {d : Double} (h : x.nearest = .ok d) : x.toDouble? = some d := by
  unfold Number.nearest at h
  split at h
  · rename_i hd
    rw [hd, Except.ok.inj h]
  · exact nomatch h

/-- The nearest double of a short whole number is the same number. -/
theorem Is.nearest (h : x.Is k) (hk : k.natAbs ≤ 2 ^ 53) :
    ∃ d, x.nearest = .ok d ∧ d.units? = some (k * Int.ofNat unitScale) := by
  obtain rfl | ⟨s, p, rfl, hunits⟩ := h.cases
  · obtain ⟨p, hp⟩ := exists_whole hk
    obtain ⟨d, hd⟩ := Option.isSome_iff_exists.mp
      (ofInt?_isSome_of_le p (placeUnits_of_whole hp).ge)
    refine ⟨d, by rw [Number.nearest, toDouble?, hd], ?_⟩
    rw [units?_of_ofInt? hd, ← hp]
    exact congrArg some
      (roundedRatio_eq Nat.one_pos (by rw [hp, Nat.cast_one, Int.mul_one]; rfl))
  · exact ⟨_, rfl, by rw [units?_finite, hunits]⟩

theorem isWhole_of_units? {d : Double} (h : d.units? = some (k * Int.ofNat unitScale)) :
    d.isWhole = true := by
  obtain ⟨s, p, rfl, hunits⟩ := exists_finite h
  rw [isWhole, beq_iff_eq]
  have hdvd : (unitScale : Int) ∣ placeUnits p := by
    have hsigned : (unitScale : Int) ∣ signedUnits s p := hunits ▸ Dvd.intro_left k rfl
    unfold signedUnits at hsigned
    split at hsigned
    · exact (Int.dvd_neg).mp hsigned
    · exact hsigned
  exact Nat.mod_eq_zero_of_dvd (Int.natCast_dvd_natCast.mp hdvd)

/-- A double is whole if it is an even number of halves. -/
theorem Halves.isWhole_iff {d : Double} (h : (Number.float d).Halves k) :
    d.isWhole = true ↔ 2 ∣ k := by
  obtain ⟨u, hu, hk⟩ := h
  have hunits := exactValue?_float_iff.mp hu
  constructor
  · intro hwhole
    obtain ⟨s, p, rfl, rfl⟩ := exists_finite hunits
    rw [isWhole, beq_iff_eq] at hwhole
    obtain ⟨m, hm⟩ := Nat.dvd_of_mod_eq_zero hwhole
    refine ⟨if s then -(m : Int) else m, Int.eq_of_mul_eq_mul_right unitScale_pos.ne' ?_⟩
    rw [← hk, Int.ofNat_eq_natCast]
    unfold signedUnits
    cases s <;> simp [hm] <;> ring
  · rintro ⟨m, rfl⟩
    rw [Int.mul_assoc] at hk
    exact isWhole_of_units?
      (hunits.trans (congrArg some (Int.eq_of_mul_eq_mul_left (by decide) hk)))

theorem Halves.isNaN (h : x.Halves k) : x.isNaN = false := by
  obtain ⟨u, hu, -⟩ := h
  cases x with
  | int n => rfl
  | float d =>
    obtain ⟨s, p, rfl, -⟩ := exists_finite (exactValue?_float_iff.mp hu)
    rfl

end Is

section Arithmetic

variable {x y : Number} {j k m : Int}

/-- Integers of moderate size are in range. -/
theorem inRange_int_of_natAbs_le (h : k.natAbs ≤ 2 ^ 54) : (Number.int k).InRange := by
  obtain ⟨p, hp⟩ := exists_large_place
  rw [InRange, toDouble?]
  exact ofInt?_isSome_of_le p (by rw [hp]; exact Nat.mul_le_mul_right _ h)

theorem floor_of_units? {d : Double} {u : Int} (h : d.units? = some u) :
    (Number.float d).floor = .ok (u / Int.ofNat unitScale) := by
  obtain ⟨s, p, rfl, rfl⟩ := exists_finite h
  exact congrArg Except.ok (Int.fdiv_eq_ediv_of_nonneg _ unitScale_pos.le)

theorem ceil_of_units? {d : Double} {u : Int} (h : d.units? = some u) :
    (Number.float d).ceil = .ok (-(-u / Int.ofNat unitScale)) := by
  obtain ⟨s, p, rfl, rfl⟩ := exists_finite h
  exact congrArg (fun q => Except.ok (-q)) (Int.fdiv_eq_ediv_of_nonneg _ unitScale_pos.le)

theorem Is.floor (h : x.Is k) : x.floor = .ok k := by
  obtain rfl | ⟨s, p, rfl, hunits⟩ := h.cases
  · rfl
  · rw [floor_of_units? (units?_finite s p), hunits, Int.mul_ediv_cancel _ unitScale_pos.ne']

theorem Is.ceil (h : x.Is k) : x.ceil = .ok k := by
  obtain rfl | ⟨s, p, rfl, hunits⟩ := h.cases
  · rfl
  · rw [ceil_of_units? (units?_finite s p), hunits, ← Int.neg_mul,
      Int.mul_ediv_cancel _ unitScale_pos.ne', Int.neg_neg]

theorem Is.truncate (h : x.Is k) : x.truncate = .ok k := by
  obtain rfl | ⟨a, p, rfl, hunits⟩ := h.cases
  · rfl
  · have htruncate : (Number.float (.finite a p)).truncate =
        .ok ((signedUnits a p).tdiv (Int.ofNat unitScale)) := rfl
    rw [htruncate, hunits, Int.mul_tdiv_cancel _ unitScale_pos.ne']

/-- An operation on numbers that are not both integers goes over to their nearest doubles. -/
theorem combine_cases (onInts : Int → Int → Int) (onDoubles : Double → Double → Double)
    {d e : Double} (hx : x.nearest = .ok d) (hy : y.nearest = .ok e) :
    (∃ m n, x = .int m ∧ y = .int n) ∨
      combine onInts onDoubles x y = .ok (.float (onDoubles d e)) := by
  have hbind : (do return Number.float (onDoubles (← x.nearest) (← y.nearest))) =
      (Except.ok (.float (onDoubles d e)) : Except ArithmeticFault Number) := by
    rw [hx, hy]
    rfl
  cases x with
  | float d' => exact .inr hbind
  | int m =>
    cases y with
    | float e' => exact .inr hbind
    | int n => exact .inl ⟨m, n, rfl, rfl⟩

/-- The sum of two doubles that are short whole numbers is on the same side of every short whole
number as the exact sum. -/
theorem exists_add_whole {d e : Double} (hd : d.units? = some (j * Int.ofNat unitScale))
    (he : e.units? = some (k * Int.ofNat unitScale)) (hj : j.natAbs ≤ 2 ^ 53)
    (hk : k.natAbs ≤ 2 ^ 53) :
    ∃ w, (d.add e).units? = some w ∧
      (∀ m : Int, m.natAbs ≤ 2 ^ 53 → (m ≤ j + k → m * Int.ofNat unitScale ≤ w) ∧
        (j + k ≤ m → w ≤ m * Int.ofNat unitScale)) ∧
      -2 ^ 54 * Int.ofNat unitScale ≤ w ∧ w ≤ 2 ^ 54 * Int.ofNat unitScale := by
  have hmul {a b : Int} (hab : a ≤ b) : a * Int.ofNat unitScale ≤ b * Int.ofNat unitScale :=
    Int.mul_le_mul_of_nonneg_right hab unitScale_pos.le
  have hsum : (j * Int.ofNat unitScale + k * Int.ofNat unitScale).natAbs ≤ 2 ^ 54 * unitScale := by
    rw [← Int.add_mul, Int.natAbs_mul]
    exact Nat.mul_le_mul_right _ (by omega)
  obtain ⟨w, hw, hnear⟩ := exists_add_units hd he hsum
  rw [← Int.add_mul] at hnear
  obtain ⟨large, hlow, hhigh⟩ := exists_large
  refine ⟨w, hw, fun m hm => ?_, ?_, ?_⟩
  · obtain ⟨r, hr⟩ := exists_whole hm
    rw [← hr]
    exact ⟨fun hle => (hnear _ r).1 (hr ▸ hmul hle), fun hle => (hnear _ r).2 (hr ▸ hmul hle)⟩
  · rw [← hlow]
    exact (hnear true large).1 (hlow ▸ hmul (by omega))
  · rw [← hhigh]
    exact (hnear false large).2 (hhigh ▸ hmul (by omega))

/-- Sums of short whole numbers are exact. -/
theorem Is.add (hx : x.Is j) (hy : y.Is k) (hj : j.natAbs ≤ 2 ^ 53) (hk : k.natAbs ≤ 2 ^ 53)
    (hsum : (j + k).natAbs ≤ 2 ^ 53) : ∃ z, x.add y = .ok z ∧ z.Is (j + k) := by
  obtain ⟨d, hd, hj'⟩ := hx.nearest hj
  obtain ⟨e, he, hk'⟩ := hy.nearest hk
  rcases combine_cases (· + ·) Double.add hd he with ⟨m, n, rfl, rfl⟩ | hadd
  · rw [← (is_int m).unique hx, ← (is_int n).unique hy]
    exact ⟨_, rfl, is_int _⟩
  · obtain ⟨w, hw, hnear, -⟩ := exists_add_whole hj' hk' hj hk
    obtain ⟨hle, hge⟩ := hnear (j + k) hsum
    refine ⟨_, hadd, exactValue?_float_iff.mpr ?_⟩
    rw [hw, le_antisymm (hge le_rfl) (hle le_rfl)]

/-- A sum is not rounded below a short whole number. -/
theorem Is.add_floor (hx : x.Is j) (hy : y.Is k) (hj : j.natAbs ≤ 2 ^ 53)
    (hk : k.natAbs ≤ 2 ^ 53) (hm : m.natAbs ≤ 2 ^ 53) (hle : m ≤ j + k) :
    ∃ z n, x.add y = .ok z ∧ z.floor = .ok n ∧ m ≤ n ∧ n ≤ 2 ^ 54 := by
  obtain ⟨d, hd, hj'⟩ := hx.nearest hj
  obtain ⟨e, he, hk'⟩ := hy.nearest hk
  rcases combine_cases (· + ·) Double.add hd he with ⟨a, b, rfl, rfl⟩ | hadd
  · obtain rfl := (is_int a).unique hx
    obtain rfl := (is_int b).unique hy
    refine ⟨_, a + b, rfl, rfl, hle, by omega⟩
  · obtain ⟨w, hw, hnear, -, hlarge⟩ := exists_add_whole hj' hk' hj hk
    refine ⟨_, _, hadd, floor_of_units? hw, ?_, Int.ediv_le_of_le_mul unitScale_pos hlarge⟩
    exact (Int.le_ediv_iff_mul_le unitScale_pos).mpr ((hnear m hm).1 hle)

theorem units?_neg {d : Double} {u : Int} (h : d.units? = some u) : d.neg.units? = some (-u) := by
  obtain ⟨s, p, rfl, rfl⟩ := exists_finite h
  rw [← signedUnits_not]
  rfl

theorem Is.neg {d : Double} (h : (Number.float d).Is k) : (Number.float d.neg).Is (-k) := by
  rw [Is, exactValue?_float_iff] at h ⊢
  rw [units?_neg h, Int.neg_mul]

/-- A difference is not rounded above a short whole number. -/
theorem Is.sub_ceil (hx : x.Is j) (hy : y.Is k) (hj : j.natAbs ≤ 2 ^ 53)
    (hk : k.natAbs ≤ 2 ^ 53) (hm : m.natAbs ≤ 2 ^ 53) (hle : j - k ≤ m) :
    ∃ z n, x.sub y = .ok z ∧ z.ceil = .ok n ∧ -2 ^ 54 ≤ n ∧ n ≤ m := by
  obtain ⟨d, hd, hj'⟩ := hx.nearest hj
  obtain ⟨e, he, hk'⟩ := hy.nearest hk
  rcases combine_cases (· - ·) Double.sub hd he with ⟨a, b, rfl, rfl⟩ | hsub
  · obtain rfl := (is_int a).unique hx
    obtain rfl := (is_int b).unique hy
    refine ⟨_, a - b, rfl, rfl, by omega, hle⟩
  · have hneg := units?_neg hk'
    rw [← Int.neg_mul] at hneg
    obtain ⟨w, hw, hnear, hlarge, -⟩ := exists_add_whole hj' hneg hj (by rwa [Int.natAbs_neg])
    refine ⟨_, _, hsub, ceil_of_units? hw, Int.neg_le_neg ?_, ?_⟩
    · refine Int.ediv_le_of_le_mul unitScale_pos ?_
      rw [Int.neg_mul] at hlarge
      exact Int.neg_le_of_neg_le hlarge
    · have hdiv : -m ≤ -w / Int.ofNat unitScale := by
        rw [Int.le_ediv_iff_mul_le unitScale_pos, Int.neg_mul]
        exact Int.neg_le_neg ((hnear m hm).2 hle)
      omega

theorem quotient_of_nearest (d : Double) {e : Double} {n : Int}
    (h : (Number.int n).nearest = .ok e) : (Number.float d).quotient (.int n) = .ok (d.div e) := by
  unfold quotient
  simp only [h]
  rfl

/-- The half of a short whole number is exact. -/
theorem Is.half (hx : x.Is k) (hk : k.natAbs ≤ 2 ^ 53) :
    ∃ s p, x.quotient (.int 2) = .ok (.finite s p) ∧
      2 * signedUnits s p = k * Int.ofNat unitScale := by
  obtain ⟨r, hr⟩ := exists_half hk
  have htwice {s : Bool} {p : Fin places} (h : signedUnits s p = k * Int.ofNat unitScale) :
      2 * signedUnits s r = k * Int.ofNat unitScale ∧ placeUnits p = k.natAbs * unitScale := by
    have habs := placeUnits_of_whole h
    refine ⟨?_, habs⟩
    rw [← h]
    unfold signedUnits
    split <;> omega
  obtain rfl | ⟨s, p, rfl, hunits⟩ := hx.cases
  · obtain ⟨p, hp⟩ := exists_whole hk
    have hratio : ofRatio (decide (k < 0) != decide ((2 : Int) < 0)) k.natAbs (2 : Int).natAbs =
        .finite (decide (k < 0)) r := by
      rw [show (decide (k < 0) != decide ((2 : Int) < 0)) = decide (k < 0) by simp]
      exact ofRatio_eq (by decide) (by rw [← hr, Nat.mul_comm]; rfl)
    refine ⟨_, r, ?_, (htwice hp).1⟩
    rw [quotient]
    simp only [hratio, Double.isInfinite, Bool.false_eq_true, if_false]
  · obtain ⟨d, hd, hd'⟩ := (is_int 2).nearest (by decide)
    obtain ⟨t, q, rfl, htwo⟩ := exists_finite hd'
    obtain ⟨hhalf, hp⟩ := htwice hunits
    have hpos := unitScale_pos
    rw [Int.ofNat_eq_natCast] at hpos htwo
    obtain ⟨rfl, hq'⟩ : t = false ∧ placeUnits q = 2 * unitScale := by
      unfold signedUnits at htwo
      cases t <;> simp only [if_true, Bool.false_eq_true, if_false, true_and] at htwo ⊢ <;> omega
    have hne : q.val ≠ 0 := by
      intro hzero
      rw [hzero, placeUnits_zero] at hq'
      omega
    refine ⟨s, r, ?_, hhalf⟩
    rw [quotient_of_nearest _ hd, div_finite hne, Bool.bne_false]
    rw [ofRatio_eq (p := r) (by omega) (by rw [hq', hp, ← hr]; ring)]

end Arithmetic

end Number

end Conform
