import Conform.Number.Multiple
import Conform.Proofs.Number.Factors
import Conform.Proofs.Source.Scanning

/-!
# The written form of short whole numbers

The digits of a short whole number read back as it, so the search for the fewest digits ends with no
more than these. The written form therefore has no decimals but a zero, and whether one short whole
number is a multiple of another is decided on the numbers themselves.

## Main definitions

- `Double.searchDigits_le` — the search ends at a count of digits that reads back
- `Double.shortest_whole`, `Double.Digits.text_whole` — the written form of a short whole number
- `Double.decimalPlaces_whole` — short whole numbers have no decimals
- `Double.isMultipleOf_whole` — multiples among short whole numbers
-/

namespace Conform.Double

/-- The search for digits ends at a count that reads back, if not before. -/
theorem searchDigits_le {place count fuel : Nat} {magnitude : Int} (hfuel : 17 ≤ count + fuel)
    (hcount : count ≤ 16) (h : (digitsOf? place count magnitude).isSome = true) :
    (searchDigits place magnitude fuel).1 ≤ count ∧
      17 ≤ (searchDigits place magnitude fuel).1 + fuel ∧
      digitsOf? place (searchDigits place magnitude fuel).1 magnitude =
        some (searchDigits place magnitude fuel).2 := by
  induction fuel with
  | zero => omega
  | succ fuel ih =>
    rw [searchDigits]
    cases hfirst : digitsOf? place (17 - (fuel + 1)) magnitude with
    | some n =>
      simp only
      exact ⟨by omega, by omega, hfirst⟩
    | none =>
      have hne : count ≠ 17 - (fuel + 1) := by
        rintro rfl
        rw [hfirst] at h
        exact nomatch h
      obtain ⟨hle, hge, hdigits⟩ := ih (by omega)
      simp only
      exact ⟨hle, by omega, hdigits⟩

/-- The step between candidates of some digits in front of zeros. -/
theorem shiftLeft_eq_mul_two_unitScale (n : Nat) : n <<< 1075 = n * (2 * unitScale) := by
  have hscale : 2 * unitScale = 1 <<< 1075 := by decide +kernel
  rw [hscale]
  generalize 1075 = scale
  rw [Nat.shiftLeft_eq, Nat.shiftLeft_eq, Nat.one_mul]

/-- Digits that read back are not above the middle behind the number. -/
theorem digitsOf?_le_middle {place count zeros digits : Nat}
    (h : digitsOf? place count (Int.ofNat (count + zeros)) = some digits) :
    digits * (Nat.pow 10 zeros * (2 * unitScale)) ≤
      placeUnits place + placeUnits (place + 1) := by
  unfold digitsOf? at h
  extract_lets value low high exponent step den fits below rest first second at h
  have hexponent : exponent = Int.ofNat zeros := by
    simp only [exponent, Int.ofNat_eq_natCast]
    omega
  have hnonneg : exponent ≥ 0 := hexponent ▸ Int.natCast_nonneg zeros
  have hstep : step = Nat.pow 10 zeros * (2 * unitScale) := by
    rw [← shiftLeft_eq_mul_two_unitScale]
    exact (if_pos hnonneg).trans (by rw [hexponent]; rfl)
  have hden : den = 1 := if_pos hnonneg
  have hfits : fits digits = true := by
    split at h
    · exact Option.some.inj h ▸ ‹fits first = true›
    · split at h
      · exact Option.some.inj h ▸ ‹fits second = true›
      · exact nomatch h
  simp only [fits, hstep, hden, Nat.mul_one] at hfits
  split at hfits
  · simp only [Bool.and_eq_true, decide_eq_true_eq] at hfits
    exact hfits.2
  · simp only [Bool.and_eq_true, decide_eq_true_eq] at hfits
    exact hfits.2.le

section Whole

variable {place n : Nat} (hplace : placeUnits place = n * unitScale)
include hplace

/-- The digits of a whole number read back as it. -/
theorem digitsOf?_whole (hn : 0 < n) (count : Nat) :
    digitsOf? place count (Int.ofNat count) = some n := by
  have hscale := zero_lt_unitScale
  have hpos : 0 < place := by
    refine Nat.pos_of_ne_zero fun hzero => ?_
    rw [hzero, placeUnits_zero] at hplace
    exact (Nat.mul_pos hn hscale).ne hplace
  have hbelow : placeUnits (place - 1) < placeUnits place := placeUnits_strictMono (by omega)
  have habove : placeUnits place < placeUnits (place + 1) := placeUnits_strictMono (by omega)
  have hstep : Nat.pow 10 0 <<< 1075 = 2 * unitScale := by decide +kernel
  unfold digitsOf?
  rw [Int.sub_self]
  simp only [-Nat.reduceShiftLeft, ge_iff_le, le_refl, if_true, Int.toNat_zero, hstep, hplace,
    Nat.mul_one]
  have hdiv : 2 * (n * unitScale) / (2 * unitScale) = n := by
    rw [Nat.mul_left_comm]
    exact Nat.mul_div_cancel _ (by omega)
  have hmod : 2 * (n * unitScale) % (2 * unitScale) = 0 := by
    rw [Nat.mul_left_comm]
    exact Nat.mul_mod_left _ _
  have hexact : (decide (2 * 0 > 2 * unitScale) || 2 * 0 == 2 * unitScale && n % 2 == 1) =
      false := by
    have hne : unitScale ≠ 0 := hscale.ne'
    simp [hne]
  have htwice : n * (2 * unitScale) = n * unitScale + n * unitScale := by ring
  rw [hplace] at hbelow habove
  rw [hdiv, hmod, hexact]
  simp only [Bool.false_eq_true, if_false, htwice]
  -- The number lies between the two middles, whether or not these count.
  refine if_pos ?_
  split
  · simp only [Bool.and_eq_true, decide_eq_true_eq]
    omega
  · simp only [Bool.and_eq_true, decide_eq_true_eq]
    omega

/-- Digits that read back as a short whole number are not above it. -/
theorem digitsOf?_le (hn : n < 2 ^ 53) {count zeros digits : Nat}
    (h : digitsOf? place count (Int.ofNat (count + zeros)) = some digits) :
    digits * Nat.pow 10 zeros ≤ n := by
  have hmiddle := digitsOf?_le_middle h
  obtain ⟨p, hp⟩ := exists_whole_place (c := Int.ofNat (n + 1)) (Nat.succ_le_of_lt hn)
  have hscale := zero_lt_unitScale
  have hlt : placeUnits place < placeUnits p := by
    rw [hplace, hp]
    exact Nat.mul_lt_mul_of_pos_right (Nat.lt_succ_self n) hscale
  have hnext : placeUnits (place + 1) ≤ (n + 1) * unitScale :=
    (placeUnits_strictMono.monotone (placeUnits_strictMono.lt_iff_lt.mp hlt)).trans hp.le
  rw [hplace, ← Nat.mul_assoc] at hmiddle
  refine Nat.le_of_lt_succ (Nat.lt_of_mul_lt_mul_right (a := 2 * unitScale) ?_)
  generalize digits * Nat.pow 10 zeros * (2 * unitScale) = below at hmiddle ⊢
  generalize unitScale = scale at hmiddle hnext hscale ⊢
  nlinarith

/-- A short whole number has no more digits in front of the point than those it is written with. -/
theorem shortest_whole (hn : 0 < n) (hshort : n < 2 ^ 53) :
    ∃ digits point : Nat, shortest place = ⟨digits, Int.ofNat point⟩ ∧
      (Text.ofNat digits).length ≤ point ∧ point ≤ 16 := by
  have hscale := zero_lt_unitScale
  have hmagnitude : decimalMagnitude (placeUnits place) unitScale =
      Int.ofNat (Text.ofNat n).length := by
    rw [decimalMagnitude, hplace, if_pos (Nat.le_mul_of_pos_left _ hn), Nat.mul_div_cancel _ hscale]
  have hcount : (Text.ofNat n).length ≤ 16 :=
    Text.length_ofNat_le (by decide) (hshort.trans (by decide))
  have hpos : 0 < (Text.ofNat n).length := List.length_pos_of_ne_nil (Text.ofNat_ne_nil n)
  have hbound : n < Nat.pow 10 (Text.ofNat n).length :=
    (Nat.length_toDigits_le_iff (by decide) hpos).mp (List.length_map _).ge
  have hsome := digitsOf?_whole hplace hn (Text.ofNat n).length
  simp only [shortest, hmagnitude]
  generalize (Text.ofNat n).length = length at hcount hpos hbound hsome ⊢
  obtain ⟨hle, hfew, hfound⟩ := @searchDigits_le place length 16 _ (by omega) hcount
    (Option.isSome_iff_exists.mpr ⟨n, hsome⟩)
  generalize searchDigits place (Int.ofNat length) 16 = found at hle hfew hfound ⊢
  obtain ⟨count, digits⟩ := found
  obtain ⟨zeros, rfl⟩ := Nat.exists_eq_add_of_le hle
  have hdigits : (Text.ofNat digits).length ≤ count := by
    refine Text.length_ofNat_le (by omega) (Nat.lt_of_mul_lt_mul_right (a := Nat.pow 10 zeros) ?_)
    exact (digitsOf?_le hplace hshort hfound).trans_lt
      (hbound.trans_eq (Nat.pow_add 10 count zeros))
  refine ⟨digits, (Text.ofNat digits).length + zeros, ?_, by omega, by omega⟩
  simp only [Digits.mk.injEq, Int.ofNat_eq_natCast, true_and]
  omega

end Whole

section Texts

variable {t : Text}

/-- Without zeros at their end there are no more digits, and still digits. -/
theorem significant_spec (hdigits : ∀ c ∈ t, Text.isDigit c = true) (hne : t ≠ []) :
    (significant t).length ≤ t.length ∧ ∀ c ∈ significant t, Text.isDigit c = true := by
  unfold significant
  split
  · exact ⟨List.length_pos_of_ne_nil hne, List.forall_mem_singleton.mpr (by decide)⟩
  · refine ⟨?_, fun c hc => hdigits c ?_⟩
    · rw [Text.dropRightWhile, List.length_reverse]
      exact (List.length_dropWhile_le _ _).trans_eq List.length_reverse
    · rw [Text.dropRightWhile, List.mem_reverse] at hc
      exact List.mem_reverse.mp ((List.dropWhile_suffix _).subset hc)

/-- Digits in front of the point are written with one decimal, a zero. -/
theorem Digits.text_whole {digits point : Nat} (hlength : (Text.ofNat digits).length ≤ point)
    (hpoint : point ≤ 16) :
    ∃ whole, (⟨digits, Int.ofNat point⟩ : Digits).text = whole ++ ".0" ∧
      ∀ c ∈ whole, Text.isDigit c = true := by
  obtain ⟨hfew, hdigits⟩ := significant_spec
    (fun c hc => Text.isDigit_of_mem_ofNat (n := digits) hc) (Text.ofNat_ne_nil digits)
  have hpos : 0 < (Text.ofNat digits).length := List.length_pos_of_ne_nil (Text.ofNat_ne_nil digits)
  have hlayout : layout.lowest ≤ (point : Int) - 1 ∧ (point : Int) - 1 < layout.limit := by
    simp only [layout]
    omega
  have hbehind : ¬(point : Int) ≤ 0 := by omega
  generalize hkept : significant (Text.ofNat digits) = kept at hfew hdigits
  have hfilled : (kept ++ List.replicate (point - kept.length) '0'.toNat).length = point := by
    rw [List.length_append, List.length_replicate]
    omega
  refine ⟨kept ++ List.replicate (point - kept.length) '0'.toNat, ?_, fun c hc => ?_⟩
  · simp only [Digits.text, hkept, if_pos hlayout, if_neg hbehind, Int.ofNat_eq_natCast,
      Int.toNat_natCast]
    rw [List.take_of_length_le hfilled.le, List.drop_of_length_le hfilled.le, List.append_assoc]
    rfl
  · rcases List.mem_append.mp hc with hc | hc
    · exact hdigits c hc
    · rw [List.eq_of_mem_replicate hc]
      decide

theorem splitExponent?_eq_none (h : 'e'.toNat ∉ t) : splitExponent? t = none := by
  induction t with
  | nil => rfl
  | cons c t ih =>
    obtain ⟨hc, ht⟩ := not_or.mp (mt List.mem_cons.mpr h)
    have hafter : Text.after? "e-" (c :: t) = none := if_neg hc
    rw [splitExponent?, hafter, ih ht]
    rfl

/-- A text of digits and a single decimal, a zero, has no decimals. -/
theorem decimalPlaces_of_text {d : Double} (h : d.text = t ++ ".0") (hpoint : '.'.toNat ∉ t)
    (hmark : 'e'.toNat ∉ t) : d.decimalPlaces = 0 := by
  have hplain : 'e'.toNat ∉ t ++ (".0" : Text) := by
    rw [List.mem_append, not_or]
    exact ⟨hmark, by decide⟩
  have hsplit : Text.splitFirst? '.'.toNat (t ++ (".0" : Text)) = some (t, Text.ofString "0") :=
    Text.splitFirst?_append hpoint _
  rw [decimalPlaces, h, splitExponent?_eq_none hplain]
  simp only [placesOf, hsplit]
  decide

end Texts

section Multiples

variable {d e : Double} {v s : Int}

/-- Short whole numbers have no decimals. -/
theorem decimalPlaces_whole (hd : d.units? = some (v * Int.ofNat unitScale))
    (hv : v.natAbs < 2 ^ 53) : d.decimalPlaces = 0 := by
  obtain ⟨negative, p, rfl, hp⟩ := exists_finite hd
  have hplace := placeUnits_of_whole hp
  obtain ⟨whole, htext, hdigits⟩ : ∃ whole, (finite negative p).text =
      (if negative then ("-" : Text) else []) ++ (whole ++ ".0") ∧
        ∀ c ∈ whole, Text.isDigit c = true := by
    by_cases hzero : p.val = 0
    · exact ⟨"0", if_pos hzero, by decide⟩
    · have hpos : 0 < v.natAbs := by
        refine Nat.pos_of_ne_zero fun hv => hzero (placeUnits_strictMono.injective ?_)
        rw [hplace, hv, Nat.zero_mul, placeUnits_zero]
      obtain ⟨digits, point, hshortest, hlength, hpoint⟩ := shortest_whole hplace hpos hv
      obtain ⟨whole, htext, hdigits⟩ := Digits.text_whole hlength hpoint
      refine ⟨whole, (if_neg hzero).trans ?_, hdigits⟩
      rw [hshortest, htext]
  rw [← List.append_assoc] at htext
  have hno {mark : CodePoint} (hdigit : Text.isDigit mark = false) (hminus : mark ≠ '-'.toNat) :
      mark ∉ (if negative then ("-" : Text) else []) ++ whole := by
    rw [List.mem_append, not_or]
    refine ⟨?_, fun hmem => Bool.false_ne_true (hdigit.symm.trans (hdigits mark hmem))⟩
    cases negative with
    | false => exact List.not_mem_nil
    | true => exact fun hmem => hminus (List.mem_singleton.mp hmem)
  refine decimalPlaces_of_text htext (hno ?_ ?_) (hno ?_ ?_) <;> decide

theorem roundQuotient_mul (n : Nat) : roundQuotient (n * unitScale) unitScale = n := by
  have hscale := zero_lt_unitScale
  have hne : (0 == unitScale) = false := beq_false_of_ne hscale.ne
  simp [roundQuotient, Nat.mul_div_cancel _ hscale, Nat.mul_mod_left, hne]

theorem round?_whole (hd : d.units? = some (v * Int.ofNat unitScale)) : d.round? = some v := by
  obtain ⟨negative, p, rfl, hp⟩ := exists_finite hd
  have hplace := placeUnits_of_whole hp
  have hround : signedUnits negative p = (if negative then -(v.natAbs : Int) else v.natAbs) *
      Int.ofNat unitScale := by
    rw [signedUnits, hplace]
    cases negative <;> simp
  rw [round?, hplace, roundQuotient_mul, Option.some_inj]
  exact Int.eq_of_mul_eq_mul_right Number.unitScale_pos.ne' (hround.symm.trans hp)

/-- Rounded to no decimals, a whole number stays the same. -/
theorem roundPlaces_whole (hd : d.units? = some (v * Int.ofNat unitScale)) :
    d.roundPlaces 0 = d := by
  obtain ⟨negative, p, rfl, hp⟩ := exists_finite hd
  have hplace := placeUnits_of_whole hp
  have hround : roundQuotient (placeUnits p * Nat.pow 10 0) unitScale = v.natAbs := by
    rw [show Nat.pow 10 0 = 1 from rfl, Nat.mul_one, hplace, roundQuotient_mul]
  rw [roundPlaces, hround]
  exact ofRatio_eq Nat.one_pos (by rw [hplace]; exact (Nat.mul_one _).symm)

/-- Scaled by one, a short whole number stays the same. -/
theorem scaled?_whole (hd : d.units? = some (v * Int.ofNat unitScale)) (hv : v.natAbs < 2 ^ 53) :
    scaled? d 0 = some v := by
  obtain ⟨one, hone, hunits⟩ := (Number.is_int 1).nearest (by decide)
  have hpower := Number.toDouble?_of_nearest hone
  rw [Number.toDouble?] at hpower
  have hmul := mul_units? hd hunits (by omega)
  rw [Int.mul_one, roundedInt_whole hv.le] at hmul
  rw [scaled?, show Int.ofNat (Nat.pow 10 0) = 1 from rfl, hpower]
  exact round?_whole hmul

/-- A short whole number is a multiple of another if it is one as an integer. -/
theorem isMultipleOf_whole (hd : d.units? = some (v * Int.ofNat unitScale))
    (he : e.units? = some (s * Int.ofNat unitScale)) (hv : v.natAbs < 2 ^ 53)
    (hs : s.natAbs < 2 ^ 53) : d.isMultipleOf e = true ↔ s ∣ v := by
  have hvalue := scaled?_whole hd hv
  have hstep := scaled?_whole he hs
  have hremainder : d.isMultipleOf e = (v % s == 0) := by
    unfold isMultipleOf
    extract_lets places
    have hplaces : places = 0 := by
      simp only [places, decimalPlaces_whole hd hv, decimalPlaces_whole he hs, Nat.max_self]
    rw [hplaces, hvalue, hstep]
  rw [hremainder, beq_iff_eq, Int.dvd_iff_emod_eq_zero]

end Multiples

end Conform.Double
