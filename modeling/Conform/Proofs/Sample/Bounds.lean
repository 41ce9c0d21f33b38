import Conform.Proofs.Sample.Conformance
import Conform.Proofs.Sample.Plans

/-!
# Samples of bounded numbers

A number with bounds is drawn from the bounds cut down to the preferred range from 0 to 100, if
they meet, and from the bounds alone if they do not. A bound that is left out is taken away from the
ends of the cut range, so that a range of one number may be left without any. Then its middle is
taken, which is the end that was left out.

## Main definitions

- `OpenAbove`, `OpenBelow` — the tightest bound leaves its number out
- `Missed` — bounds whose samples are taken from outside
- `exists_window` — the range to draw from
- `within_middle_iff` — whether the middle of a range is within the bounds
- `Schema.sampleWith_bounded` — samples of bounded numbers conform, unless they are missed
-/

namespace Conform

open Drawing Number

/-- The greatest lower bound of some rules is at a number and leaves it out. -/
def OpenAbove (rules : List NumberRule) (k : Int) : Prop :=
  IsGreatest (limits NumberRule.StartsAt rules) (firstHalf true k)

/-- The least upper bound of some rules is at a number and leaves it out. -/
def OpenBelow (rules : List NumberRule) (k : Int) : Prop :=
  IsLeast (limits NumberRule.EndsAt rules) (lastHalf true k)

/-- The range from 0 to 100 has a single number in common with the bounds of some rules, and that
one is left out; or it has an interval between two integers in common, and an integer is asked for.
In the latter case a bound outside the range counts as one at its end. -/
def Missed (rules : List NumberRule) : Prop :=
  OpenAbove rules 100 ∨ OpenBelow rules 0 ∨
    NumberRule.int ∈ rules ∧
      ((∃ k < 0, OpenAbove rules k) ∧ OpenBelow rules 1 ∨
        OpenAbove rules 99 ∧ ∃ k > 100, OpenBelow rules k)

section Numbers

variable {x y : Number} {j k : Int}

theorem Number.Is.isInfinite (h : x.Is k) (hk : k.natAbs ≤ 2 ^ 53) : x.isInfinite = .ok false := by
  obtain ⟨d, hd, hunits⟩ := h.nearest hk
  obtain ⟨s, p, rfl, -⟩ := Double.exists_finite hunits
  rw [Number.isInfinite, hd]
  rfl

theorem Number.Is.isOpenAt (h : x.Is k) (hk : k.natAbs ≤ 2 ^ 53) (isOpen : Bool) :
    isOpenAt isOpen x = .ok isOpen := by
  unfold Conform.isOpenAt
  cases isOpen with
  | false => rfl
  | true =>
    obtain ⟨d, hd, hunits⟩ := h.nearest hk
    rw [if_pos rfl, hd, ← isWhole_of_units? hunits]
    rfl

theorem Number.Is.firstFrom (h : x.Is k) (hk : k.natAbs ≤ 2 ^ 53) (isOpen : Bool) :
    firstFrom isOpen x = .ok (firstWhole isOpen k) := by
  rw [Conform.firstFrom, h.isOpenAt hk, h.floor, h.ceil]
  cases isOpen <;> rfl

theorem Number.Is.lastTo (h : x.Is k) (hk : k.natAbs ≤ 2 ^ 53) (isOpen : Bool) :
    lastTo isOpen x = .ok (lastWhole isOpen k) := by
  rw [Conform.lastTo, h.isOpenAt hk, h.floor, h.ceil]
  cases isOpen <;> rfl

/-- The middle of two short whole numbers is exact. -/
theorem Number.Is.middle (hx : x.Is j) (hy : y.Is k) (hj : j.natAbs ≤ 2 ^ 53)
    (hk : k.natAbs ≤ 2 ^ 53) (hsum : (j + k).natAbs ≤ 2 ^ 53) :
    ∃ d, middle x y = .ok (.float d) ∧ (Number.float d).Halves (j + k) := by
  obtain ⟨z, hz, hsumIs⟩ := hx.add hy hj hk hsum
  obtain ⟨s, p, hhalf, hunits⟩ := hsumIs.half hsum
  refine ⟨.finite s p, ?_, _, exactValue?_finite s p, hunits⟩
  rw [Conform.middle, hz]
  exact congrArg (fun q => do return Number.float (← q)) hhalf

end Numbers

namespace NumberPlan

section Bounds

variable {plan : NumberPlan} {rules : List NumberRule} {low high : Option Int} {x : Number}
  {j k : Int}

theorem openAbove_iff (hlow : plan.LowerOf rules low) :
    OpenAbove rules k ↔ low = some k ∧ plan.lowerOpen = true := by
  cases low with
  | none => simp [OpenAbove, hlow.2.2, IsGreatest]
  | some j =>
    obtain ⟨-, -, hgreatest⟩ := hlow
    constructor
    · intro hopen
      obtain ⟨heq, rfl⟩ := firstHalf_inj.mp (hopen.unique hgreatest)
      exact ⟨rfl, heq.symm⟩
    · rintro ⟨⟨⟩, hopen⟩
      rwa [hopen] at hgreatest

theorem openBelow_iff (hhigh : plan.UpperOf rules high) :
    OpenBelow rules k ↔ high = some k ∧ plan.upperOpen = true := by
  cases high with
  | none => simp [OpenBelow, hhigh.2.2, IsLeast]
  | some j =>
    obtain ⟨-, -, hleast⟩ := hhigh
    constructor
    · intro hopen
      obtain ⟨heq, rfl⟩ := lastHalf_inj.mp (hopen.unique hleast)
      exact ⟨rfl, heq.symm⟩
    · rintro ⟨⟨⟩, hopen⟩
      rwa [hopen] at hleast

/-- Where the numbers from `j` on start that a plan leaves. -/
theorem LowerOf.greater (hlow : plan.LowerOf rules low) (hx : x.Is j) :
    (plan.lower.greater x).Is (low.elim j (max · j)) := by
  cases low with
  | none =>
    rw [hlow.1, Number.greater, if_pos hx.infinite_below]
    exact hx
  | some k => exact hlow.1.greater hx

/-- Where the numbers up to `j` end that a plan leaves. -/
theorem UpperOf.lesser (hhigh : plan.UpperOf rules high) (hx : x.Is j) :
    (plan.upper.lesser x).Is (high.elim j (min · j)) := by
  cases high with
  | none =>
    rw [hhigh.1, Number.lesser, if_pos hx.below_infinite]
    exact hx
  | some k => exact hhigh.1.lesser hx

theorem LowerOf.isOpen_false (hlow : plan.LowerOf rules low) (h : low = none) :
    plan.lowerOpen = false := by
  subst h
  exact hlow.2.1

theorem UpperOf.isOpen_false (hhigh : plan.UpperOf rules high) (h : high = none) :
    plan.upperOpen = false := by
  subst h
  exact hhigh.2.1

end Bounds

/-- There are integers in a range, and all of them are within some rules. -/
def DrawsWithin (plan : NumberPlan) (rules : List NumberRule) (x y : Number) : Prop :=
  ∃ first last, firstFrom plan.lowerOpen x = .ok first ∧ lastTo plan.upperOpen y = .ok last ∧
    first ≤ last ∧ ∀ n, first ≤ n → n ≤ last → n.natAbs ≤ 2 ^ 54 ∧ Within rules (2 * n)

section Window

variable {plan : NumberPlan} {rules : List NumberRule} {low high : Option Int} {d e : Double}
  {j k m : Int}

/-- The window of bounds that do not meet the preferred range. -/
theorem window_apart
    (h : ¬(plan.lower.greater (.float d)).atMost (plan.upper.lesser (.float e)) = true) :
    plan.window d e = (do
      if ← plan.upper.isInfinite then
        return (plan.lower, ← plan.lower.add (.float (e.sub d)))
      else if ← plan.lower.isInfinite then
        return (← plan.upper.sub (.float (e.sub d)), plan.upper)
      else return (plan.lower, plan.upper)) := if_neg h

theorem span_is (hd : (Number.float d).Is 0) (he : (Number.float e).Is 100) :
    (Number.float (e.sub d)).Is 100 := by
  obtain ⟨z, hz, hsum⟩ := he.add hd.neg (by decide) (by decide) (by decide)
  cases hz
  exact hsum

/-- Without a lower bound the range ends at the upper one. Its start is rounded to no more than the
integer below. -/
theorem window_below (hlow : plan.LowerOf rules none) (hhigh : plan.UpperOf rules (some k))
    (happart : ¬(plan.lower.greater (.float d)).atMost (plan.upper.lesser (.float e)) = true)
    (hspan : (Number.float (e.sub d)).Is 100) :
    ∃ x y, plan.window d e = .ok (x, y) ∧ plan.DrawsWithin rules x y := by
  have ⟨hlower, hopen, _⟩ := hlow
  have ⟨hupper, hk, _⟩ := hhigh
  obtain ⟨z, first, hz, hfirst, hlarge, hle_first⟩ :=
    hupper.sub_ceil hspan (by omega) (by decide) (m := k - 1) (by omega) (by omega)
  refine ⟨z, plan.upper, ?_, first, _, ?_, hupper.lastTo (by omega) _, ?_, fun n hn hnlast => ?_⟩
  · rw [window_apart happart, hupper.isInfinite (by omega), hlower, hz]
    rfl
  · rw [hopen]
    exact hfirst
  · unfold lastWhole
    split <;> omega
  · have hle_k := hnlast.trans lastWhole_le
    rw [within_integer_iff hlow hhigh]
    exact ⟨by omega, nofun, by simpa using hnlast⟩

/-- Without an upper bound the range starts at the lower one. Its end is rounded to no less than the
integer above. -/
theorem window_above (hlow : plan.LowerOf rules (some j)) (hhigh : plan.UpperOf rules none)
    (happart : ¬(plan.lower.greater (.float d)).atMost (plan.upper.lesser (.float e)) = true)
    (hspan : (Number.float (e.sub d)).Is 100) :
    ∃ x y, plan.window d e = .ok (x, y) ∧ plan.DrawsWithin rules x y := by
  have ⟨hlower, hj, _⟩ := hlow
  have ⟨hupper, hopen, _⟩ := hhigh
  obtain ⟨z, last, hz, hlast, hle_last, hlarge⟩ :=
    hlower.add_floor hspan (by omega) (by decide) (m := j + 1) (by omega) (by omega)
  refine ⟨plan.lower, z, ?_, _, last, hlower.firstFrom (by omega) _, ?_, ?_, fun n hn hnlast => ?_⟩
  · rw [window_apart happart, hupper, hz]
    rfl
  · rw [hopen]
    exact hlast
  · unfold firstWhole
    split <;> omega
  · have hj_le := le_firstWhole.trans hn
    rw [within_integer_iff hlow hhigh]
    exact ⟨by omega, by simpa using hn, nofun⟩

/-- Between two bounds there is an integer if one satisfies the rules. -/
theorem window_between (hlow : plan.LowerOf rules (some j)) (hhigh : plan.UpperOf rules (some k))
    (happart : ¬(plan.lower.greater (.float d)).atMost (plan.upper.lesser (.float e)) = true)
    (hsat : Within rules (2 * m)) :
    ∃ x y, plan.window d e = .ok (x, y) ∧ plan.DrawsWithin rules x y := by
  have ⟨hlower, hj, _⟩ := hlow
  have ⟨hupper, hk, _⟩ := hhigh
  rw [within_integer_iff hlow hhigh] at hsat
  refine ⟨plan.lower, plan.upper, ?_, _, _, hlower.firstFrom (by omega) _,
    hupper.lastTo (by omega) _, (hsat.1 j rfl).trans (hsat.2 k rfl), fun n hn hnlast => ?_⟩
  · rw [window_apart happart, hlower.isInfinite (by omega), hupper.isInfinite (by omega)]
    rfl
  · have hj_le := le_firstWhole.trans hn
    have hle_k := hnlast.trans lastWhole_le
    rw [within_integer_iff hlow hhigh]
    exact ⟨by omega, by simpa using hn, by simpa using hnlast⟩

/-- The range to draw from. If the bounds of a plan meet the preferred range, it is what they have
in common; otherwise there are integers in it, and all of them are within the rules. -/
theorem exists_window (hlow : plan.LowerOf rules low) (hhigh : plan.UpperOf rules high)
    (hd : (Number.float d).Is 0) (he : (Number.float e).Is 100) (hsat : Within rules (2 * m)) :
    ∃ x y, plan.window d e = .ok (x, y) ∧
      ((low.elim 0 (max · 0) ≤ high.elim 100 (min · 100) ∧
          x.Is (low.elim 0 (max · 0)) ∧ y.Is (high.elim 100 (min · 100))) ∨
        (high.elim 100 (min · 100) < low.elim 0 (max · 0) ∧ plan.DrawsWithin rules x y)) := by
  have hx := hlow.greater hd
  have hy := hhigh.lesser he
  by_cases hle : low.elim 0 (max · 0) ≤ high.elim 100 (min · 100)
  · refine ⟨_, _, ?_, .inl ⟨hle, hx, hy⟩⟩
    rw [NumberPlan.window]
    exact if_pos ((hx.atMost hy).mpr hle)
  · have happart := mt (hx.atMost hy).mp hle
    have hspan := span_is hd he
    obtain ⟨x, y, hwindow, hdraws⟩ :
        ∃ x y, plan.window d e = .ok (x, y) ∧ plan.DrawsWithin rules x y := by
      rcases low with _ | j <;> rcases high with _ | k
      · exact absurd (by decide) hle
      · exact window_below hlow hhigh happart hspan
      · exact window_above hlow hhigh happart hspan
      · exact window_between hlow hhigh happart hsat
    exact ⟨x, y, hwindow, .inr ⟨not_le.mp hle, hdraws⟩⟩

end Window

end NumberPlan

open NumberPlan

/-- The start of what a lower bound leaves of the numbers from zero on. -/
theorem elim_max_spec {low : Option Int} {first : Int} (h : first = low.elim 0 (max · 0)) :
    0 ≤ first ∧ (∀ k ∈ low, k ≤ first) ∧ (first = 0 ∨ low = some first) := by
  cases low with
  | none => simp [h]
  | some k =>
    simp only [Option.elim_some] at h
    simp only [Option.mem_some_iff, forall_eq', Option.some_inj]
    omega

/-- The end of what an upper bound leaves of the numbers up to 100. -/
theorem elim_min_spec {high : Option Int} {last : Int} (h : last = high.elim 100 (min · 100)) :
    last ≤ 100 ∧ (∀ k ∈ high, last ≤ k) ∧ (last = 100 ∨ high = some last) := by
  cases high with
  | none => simp [h]
  | some k =>
    simp only [Option.elim_some] at h
    simp only [Option.mem_some_iff, forall_eq', Option.some_inj]
    omega

/-- If a lower bound admits an integer in front of the range, the range starts at zero. -/
theorem eq_zero_of_lt {low : Option Int} {isOpen : Bool} {first m : Int}
    (hstart : first = 0 ∨ low = some first) (hsat : ∀ k ∈ low, firstWhole isOpen k ≤ m)
    (hlt : m < first) : first = 0 :=
  hstart.resolve_right fun hlow =>
    absurd (le_firstWhole.trans (hsat first hlow)) (not_le.mpr hlt)

/-- If an upper bound admits an integer behind the range, the range ends at 100. -/
theorem eq_hundred_of_lt {high : Option Int} {isOpen : Bool} {last m : Int}
    (hend : last = 100 ∨ high = some last) (hsat : ∀ k ∈ high, m ≤ lastWhole isOpen k)
    (hlt : last < m) : last = 100 :=
  hend.resolve_right fun hhigh =>
    absurd ((hsat last hhigh).trans lastWhole_le) (not_le.mpr hlt)

section Missing

variable {plan : NumberPlan} {rules : List NumberRule} {low high : Option Int} {m : Int}
  (hlow : plan.LowerOf rules low) (hhigh : plan.UpperOf rules high)
include hlow hhigh

theorem missed_iff :
    Missed rules ↔ (low = some 100 ∧ plan.lowerOpen = true) ∨
      (high = some 0 ∧ plan.upperOpen = true) ∨
        NumberRule.int ∈ rules ∧ plan.lowerOpen = true ∧ plan.upperOpen = true ∧
          ((∃ k ∈ low, k < 0) ∧ high = some 1 ∨ low = some 99 ∧ ∃ k ∈ high, 100 < k) := by
  unfold Missed
  simp only [openAbove_iff hlow, openBelow_iff hhigh]
  cases plan.lowerOpen <;> cases plan.upperOpen <;> cases low <;> cases high <;> simp

/-- Rules are missed only if they meet the preferred range, with no integer left to draw. -/
theorem Missed.apart {first last : Int} (hfirst : first = low.elim 0 (max · 0))
    (hlast : last = high.elim 100 (min · 100)) (hmissed : Missed rules)
    (hsat : Within rules (2 * m)) :
    first ≤ last ∧ lastWhole plan.upperOpen last < firstWhole plan.lowerOpen first := by
  obtain ⟨hfirst_nonneg, hlow_le, hstart⟩ := elim_max_spec hfirst
  obtain ⟨hlast_le, hle_high, hend⟩ := elim_min_spec hlast
  rw [within_integer_iff hlow hhigh] at hsat
  obtain ⟨hsat_low, hsat_high⟩ := hsat
  rcases (missed_iff hlow hhigh).mp hmissed with
    ⟨rfl, ho⟩ | ⟨rfl, hp⟩ | ⟨-, ho, hp, ⟨⟨k, hk, hneg⟩, rfl⟩ | ⟨rfl, k, hk, hbig⟩⟩
  · have hm := hsat_low 100 rfl
    have hle := hlow_le 100 rfl
    have hlastWhole : lastWhole plan.upperOpen last ≤ last := lastWhole_le
    rw [ho, firstWhole, if_pos rfl] at hm ⊢
    have hhundred := eq_hundred_of_lt hend hsat_high (by omega)
    simp only [Option.some_inj] at hstart
    omega
  · have hm := hsat_high 0 rfl
    have hle := hle_high 0 rfl
    have hfirstWhole : first ≤ firstWhole plan.lowerOpen first := le_firstWhole
    rw [hp, lastWhole, if_pos rfl] at hm ⊢
    have hzero := eq_zero_of_lt hstart hsat_low (by omega)
    simp only [Option.some_inj] at hend
    omega
  · cases hk
    have hle := hle_high 1 rfl
    rw [ho, hp, firstWhole, lastWhole, if_pos rfl, if_pos rfl]
    simp only [Option.some_inj] at hstart hend
    omega
  · cases hk
    have hle := hlow_le 99 rfl
    rw [ho, hp, firstWhole, lastWhole, if_pos rfl, if_pos rfl]
    simp only [Option.some_inj] at hstart hend
    omega

/-- Where no integer is left to draw, the middle of the range is within the rules unless they are
missed: a range of one number has it as its middle, and a longer one lies between two integers. -/
theorem within_middle_iff {first last : Int} (hfirst : first = low.elim 0 (max · 0))
    (hlast : last = high.elim 100 (min · 100)) (hsat : Within rules (2 * m)) (hle : first ≤ last)
    (hlt : lastWhole plan.upperOpen last < firstWhole plan.lowerOpen first) :
    Within rules (first + last) ↔ ¬Missed rules := by
  obtain ⟨hfirst_nonneg, hlow_le, hstart⟩ := elim_max_spec hfirst
  obtain ⟨hlast_le, hle_high, hend⟩ := elim_min_spec hlast
  rw [within_integer_iff hlow hhigh] at hsat
  obtain ⟨hsat_low, hsat_high⟩ := hsat
  have hlowClosed := hlow.isOpen_false
  have hhighClosed := hhigh.isOpen_false
  rw [within_iff hlow hhigh, missed_iff hlow hhigh]
  generalize plan.lowerOpen = o at *
  generalize plan.upperOpen = p at *
  constructor
  · rintro ⟨hfirstHalf, hlastHalf, hint⟩ (⟨rfl, rfl⟩ | ⟨rfl, rfl⟩ | ⟨hi, rfl, rfl, hends⟩)
    · have hbeyond := hfirstHalf 100 rfl
      rw [firstHalf, if_pos rfl] at hbeyond
      omega
    · have hbeyond := hlastHalf 0 rfl
      rw [lastHalf, if_pos rfl] at hbeyond
      omega
    · have hdvd := hint hi
      rcases hends with ⟨⟨k, hk, hneg⟩, rfl⟩ | ⟨rfl, k, hk, hbig⟩
      · cases hk
        have hone := hle_high 1 rfl
        simp only [Option.some_inj] at hstart hend
        omega
      · cases hk
        have hone := hlow_le 99 rfl
        simp only [Option.some_inj] at hstart hend
        omega
  · intro hmet
    refine ⟨fun k hk => ?_, fun k hk => ?_, fun hi => ?_⟩
    · by_contra hbeyond
      obtain ⟨rfl, hk_eq⟩ : o = true ∧ k = last := by
        have hk_le := hlow_le k hk
        cases o <;> simp [firstHalf] at hbeyond ⊢ <;> omega
      have hm := hsat_low k hk
      rw [firstWhole, if_pos rfl] at hm
      have hhundred := eq_hundred_of_lt hend hsat_high (by omega)
      exact hmet (.inl ⟨hk.trans (by rw [hk_eq, hhundred]), rfl⟩)
    · by_contra hbeyond
      obtain ⟨rfl, hk_eq⟩ : p = true ∧ k = first := by
        have hle_k := hle_high k hk
        cases p <;> simp [lastHalf] at hbeyond ⊢ <;> omega
      have hm := hsat_high k hk
      rw [lastWhole, if_pos rfl] at hm
      have hzero := eq_zero_of_lt hstart hsat_low (by omega)
      exact hmet (.inr (.inl ⟨hk.trans (by rw [hk_eq, hzero]), rfl⟩))
    · by_contra hodd
      -- The range lies between two integers, and both of them are left out.
      obtain ⟨rfl, rfl, hnext⟩ : o = true ∧ p = true ∧ last = first + 1 := by
        cases o <;> cases p <;> simp [firstWhole, lastWhole] at hlt ⊢ <;> omega
      obtain ⟨j, rfl⟩ := Option.ne_none_iff_exists'.mp fun h =>
        Bool.false_ne_true (hlowClosed h).symm
      obtain ⟨k, rfl⟩ := Option.ne_none_iff_exists'.mp fun h =>
        Bool.false_ne_true (hhighClosed h).symm
      have hj := hlow_le j rfl
      have hk := hle_high k rfl
      have hjm := hsat_low j rfl
      have hmk := hsat_high k rfl
      rw [firstWhole, if_pos rfl] at hjm
      rw [lastWhole, if_pos rfl] at hmk
      refine hmet (.inr (.inr ⟨hi, rfl, rfl, ?_⟩))
      simp only [Option.some_inj, Option.mem_some_iff, exists_eq_left'] at hstart hend ⊢
      omega

end Missing

section Samples

variable {S : Type} {o : SampleOptions} {checks : List (Check NumberRule)}

/-- A sample is a number of halves, which are within the rules unless these are missed. -/
theorem always_sampleNumber_whole (hmin : o.minNumber = .int 0) (hmax : o.maxNumber = .int 100)
    (hrules : ∀ check ∈ checks, check.rule.IsWhole) {m : Int}
    (hsat : Within (checks.map Check.rule) (2 * m)) :
    Always (sampleNumber o checks : Sampling S Number) fun x => x.InRange ∧
      ∃ h, x.Halves h ∧
        (Within (checks.map Check.rule) h ↔ ¬Missed (checks.map Check.rule)) := by
  have hplan := fits_foldl fits_nil hrules
  rw [List.nil_append] at hplan
  unfold sampleNumber
  generalize checks.foldl (fun plan check => plan.add check.rule) ({} : NumberPlan) = plan
    at hplan ⊢
  generalize checks.map Check.rule = rules at *
  obtain ⟨⟨low, hlow⟩, ⟨high, hhigh⟩, hstep⟩ := hplan
  obtain ⟨d, hd, hzero⟩ := (is_int 0).nearest (by decide)
  obtain ⟨e, he, hhundred⟩ := (is_int 100).nearest (by decide)
  obtain ⟨x, y, hwindow, hdraw⟩ := exists_window hlow hhigh (exactValue?_float_iff.mpr hzero)
    (exactValue?_float_iff.mpr hhundred) hsat
  refine (always_lift ⟨d, by rw [hmin]; exact hd, rfl⟩).bind fun d' heq => ?_
  subst heq
  refine (always_lift ⟨e, by rw [hmax]; exact he, rfl⟩).bind fun e' heq => ?_
  subst heq
  refine (always_lift ⟨(x, y), hwindow, rfl⟩).bind fun window heq => ?_
  subst heq
  simp only [hstep]
  rcases hdraw with ⟨hle, hx, hy⟩ | ⟨hlt, first, last, hfirst, hlast, hle, hdrawn⟩
  · obtain ⟨first, hfirst⟩ : ∃ first, first = low.elim 0 (max · 0) := ⟨_, rfl⟩
    obtain ⟨last, hlast⟩ : ∃ last, last = high.elim 100 (min · 100) := ⟨_, rfl⟩
    obtain ⟨hfirst_nonneg, hlow_le, -⟩ := elim_max_spec hfirst
    obtain ⟨hlast_le, hle_high, -⟩ := elim_min_spec hlast
    rw [← hfirst] at hx hle
    rw [← hlast] at hy hle
    have hfrom := hx.firstFrom (by omega) plan.lowerOpen
    have hto := hy.lastTo (by omega) plan.upperOpen
    rcases le_or_gt (firstWhole plan.lowerOpen first) (lastWhole plan.upperOpen last) with
      hmeet | hapart
    · refine (always_sampleBetween_integer hfrom hto hmeet).mono ?_
      rintro _ ⟨n, rfl, hn⟩
      have hfirst_le := le_firstWhole.trans hn.1
      have hle_last := hn.2.trans lastWhole_le
      refine ⟨inRange_int_of_natAbs_le (by omega), 2 * n, (is_int n).halves, iff_of_true ?_ ?_⟩
      · rw [within_integer_iff hlow hhigh]
        exact ⟨fun k hk => (firstWhole_mono (hlow_le k hk)).trans hn.1,
          fun k hk => hn.2.trans (lastWhole_mono (hle_high k hk))⟩
      · intro hmissed
        exact absurd (Missed.apart hlow hhigh hfirst hlast hmissed hsat).2 (not_lt.mpr hmeet)
    · obtain ⟨z, hz, hhalves⟩ := hx.middle hy (by omega) (by omega) (by omega)
      refine always_sampleBetween_middle hfrom hto hapart ⟨_, hz, rfl, _, hhalves, ?_⟩
      exact within_middle_iff hlow hhigh hfirst hlast hsat hle hapart
  · refine (always_sampleBetween_integer hfirst hlast hle).mono ?_
    rintro _ ⟨n, rfl, hn⟩
    obtain ⟨hsmall, hwithin⟩ := hdrawn n hn.1 hn.2
    refine ⟨inRange_int_of_natAbs_le hsmall, 2 * n, (is_int n).halves, iff_of_true hwithin ?_⟩
    intro hmissed
    exact absurd (Missed.apart hlow hhigh rfl rfl hmissed hsat).1 (not_le.mpr hlt)

/-- **Samples of bounded numbers**: for rules by short whole numbers that some integer satisfies,
samples are generated, whatever is drawn, and all of them conform unless the rules are missed. -/
theorem Schema.sampleWith_bounded (description : Option Text)
    (hrules : ∀ check ∈ checks, check.rule.IsWhole)
    (hsat : ∃ m : Int, ∀ check ∈ checks, check.rule.Holds (.int m)) (hmin : o.minNumber = .int 0)
    (hmax : o.maxNumber = .int 100) (draws : Draws S) (state : S) (policy : Option Policy) :
    ∃ result, (Schema.mk description (.number checks)).sampleWith draws state o
        (policy.map Policy.name) = .ok result ∧
      (result.success = true ↔ ¬Missed (checks.map Check.rule)) := by
  have hforall (x : Number) : (∀ check ∈ checks, check.rule.Holds x) ↔
      ∀ rule ∈ checks.map Check.rule, rule.Holds x := by rw [List.forall_mem_map]
  have hwhole : ∀ rule ∈ checks.map Check.rule, rule.IsWhole := List.forall_mem_map.mpr hrules
  obtain ⟨m, hm⟩ := hsat
  rw [hforall, forall_holds_iff hwhole (is_int m).halves] at hm
  have hbuilt : (Schema.mk description (.number checks)).WellBuilt :=
    .mk trivial (List.forall_mem_nil _)
  have hrange : (Schema.mk description (.number checks)).InRange := by
    refine .mk (fun check hcheck step hstep => ?_) (List.forall_mem_nil _)
    exact (hstep ▸ hrules check hcheck : (NumberRule.multipleOf step).IsWhole).elim
  have hvalues : Always ((Schema.mk description (.number checks)).sample o : Sampling S Value)
      fun v => ((Schema.mk description (.number checks)).validate (policy.map Policy.name)
        v).isEmpty = true ↔ ¬Missed (checks.map Check.rule) := by
    refine (always_sampleNumber_whole hmin hmax hrules hm).map ?_
    rintro x ⟨hx, h, hhalves, hwithin⟩
    rw [isEmpty_validate_iff hbuilt hrange (.number hx), ← hwithin,
      ← forall_holds_iff hwhole hhalves, ← hforall]
    exact ⟨fun ⟨n, hn, _, hholds⟩ => by cases hn; exact hholds,
      fun hholds => ⟨x, rfl, hhalves.isNaN, hholds⟩⟩
  obtain ⟨values, hlength, hall, hrun⟩ := sampleWith_of_always hvalues draws state
    (policy.map Policy.name)
  refine ⟨_, hrun, SampleResult.success_ofValues_iff.trans ⟨fun hvalid => ?_, fun hmet v hv => ?_⟩⟩
  · obtain ⟨v, hv⟩ := List.exists_mem_of_length_pos (hlength ▸ o.count_pos)
    exact (hall v hv).mp (hvalid v hv)
  · exact (hall v hv).mpr hmet

end Samples

/-- A lower bound that is left out is one of the rules. -/
theorem OpenAbove.exists_gt {rules : List NumberRule} {k : Int} (h : OpenAbove rules k) :
    ∃ n, NumberRule.gt n ∈ rules ∧ n.Is k := by
  obtain ⟨⟨rule, hrule, hstart⟩, -⟩ := h
  generalize hs : firstHalf true k = s at hstart
  cases hstart with
  | gte hn => exact absurd (firstHalf_inj.mp hs).1 (by decide)
  | gt hn => exact ⟨_, hrule, (firstHalf_inj.mp hs).2 ▸ hn⟩

/-- An upper bound that is left out is one of the rules. -/
theorem OpenBelow.exists_lt {rules : List NumberRule} {k : Int} (h : OpenBelow rules k) :
    ∃ n, NumberRule.lt n ∈ rules ∧ n.Is k := by
  obtain ⟨⟨rule, hrule, hend⟩, -⟩ := h
  generalize he : lastHalf true k = e at hend
  cases hend with
  | lte hn => exact absurd (lastHalf_inj.mp he).1 (by decide)
  | lt hn => exact ⟨_, hrule, (lastHalf_inj.mp he).2 ▸ hn⟩

namespace Schema

/-- Integers from 5 on and below 200 are sampled well. -/
theorem sampleWith_bounded_interval :
    let checks : List (Check NumberRule) :=
      [⟨.int, none⟩, ⟨.gte (.int 5), none⟩, ⟨.lt (.int 200), none⟩]
    (∀ check ∈ checks, check.rule.IsWhole) ∧
      (∃ m : Int, ∀ check ∈ checks, check.rule.Holds (.int m)) ∧
      SampleOptions.standard.minNumber = .int 0 ∧ SampleOptions.standard.maxNumber = .int 100 ∧
      ∃ result, (Schema.mk none (.number checks)).sampleWith Draws.least () .standard
        (some Policy.strict.name) = .ok result ∧
        (result.success = true ↔ ¬Missed (checks.map Check.rule)) ∧ result.success = true := by
  intro checks
  have hrules : ∀ check ∈ checks, check.rule.IsWhole := by
    simp only [checks, List.forall_mem_cons, List.not_mem_nil, false_imp_iff, implies_true,
      and_true]
    exact ⟨trivial, ⟨5, is_int 5, by decide⟩, ⟨200, is_int 200, by decide⟩⟩
  have hsat : ∃ m : Int, ∀ check ∈ checks, check.rule.Holds (.int m) := by
    refine ⟨5, ?_⟩
    simp only [checks, List.forall_mem_cons, List.not_mem_nil, false_imp_iff, implies_true,
      and_true]
    exact ⟨trivial, rfl, rfl⟩
  have hclosed (k : Int) : ¬OpenAbove (checks.map Check.rule) k := by
    intro hopen
    obtain ⟨n, hn, -⟩ := hopen.exists_gt
    simp [checks] at hn
  have hmet : ¬Missed (checks.map Check.rule) := by
    rintro (hopen | hopen | ⟨-, ⟨⟨k, -, hopen⟩, -⟩ | ⟨hopen, -⟩⟩)
    · exact hclosed _ hopen
    · obtain ⟨n, hn, hzero⟩ := hopen.exists_lt
      obtain rfl : n = .int 200 := by simpa [checks] using hn
      exact absurd ((is_int 200).unique hzero) (by decide)
    · exact hclosed _ hopen
    · exact hclosed _ hopen
  obtain ⟨result, hrun, hsuccess⟩ :=
    sampleWith_bounded (o := .standard) none hrules hsat rfl rfl Draws.least () (some .strict)
  exact ⟨hrules, hsat, rfl, rfl, result, hrun, hsuccess, hsuccess.mpr hmet⟩

/-- Bounds that integers satisfy and whose samples do not: for numbers below zero it is zero that is
taken, the end of the preferred range that is left out, and for the integer between -1 and 1 it is
the middle between 0 and 1. -/
theorem sampleWith_missed :
    ((NumberRule.lt (.int 0)).Holds (.int (-1)) ∧
        ¬∃ result, (plain (.number [⟨.lt (.int 0), none⟩])).sampleWith Draws.least () .standard
          none = .ok result ∧ result.success = true) ∧
      ((NumberRule.gt (.int (-1))).Holds (.int 0) ∧ (NumberRule.lt (.int 1)).Holds (.int 0) ∧
        ¬∃ result, (plain (.number [⟨.int, none⟩, ⟨.gt (.int (-1)), none⟩,
          ⟨.lt (.int 1), none⟩])).sampleWith Draws.least () .standard none = .ok result ∧
            result.success = true) := by
  have hbelow : (Number.int 0).atMost (.int (-1)) = false := by decide
  exact ⟨⟨hbelow, SampleResult.not_success (by decide +kernel)⟩, hbelow, rfl,
    SampleResult.not_success (by decide +kernel)⟩

end Schema

end Conform
