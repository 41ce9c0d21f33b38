import Conform.Proofs.Sample.Bounds
import Conform.Proofs.Sample.Candidates

/-!
# Samples of multiples

A multiple of a whole step is looked for in the range of the bounds. If these meet the preferred
range or are there on both sides, an admitted multiple is found. If there is only a lower one, an
empty range still gives the first multiple behind it. But if there is only an upper one, and that is
below zero, an empty range gives a multiple behind the bound. Beyond `2^53` numbers are rounded, and
what is taken need not be a multiple any more.

## Main definitions

- `OutOfReach` — upper bounds with no multiple in the range
- `Beyond` — bounds whose multiples may be rounded
- `Settled` — what is known of a multiple that is taken
- `NumberPlan.settled_meeting`, `NumberPlan.settled_between`, `NumberPlan.settled_above`,
  `NumberPlan.settled_below` — the ranges
- `Schema.sampleWith_multiples` — samples of multiples conform, unless they are out of reach
-/

namespace Conform

open Drawing Number Double

/-- The greatest lower bound of some rules is at a number. -/
def LowerAt (rules : List NumberRule) (k : Int) : Prop :=
  ∃ isOpen, IsGreatest (limits NumberRule.StartsAt rules) (firstHalf isOpen k)

/-- The least upper bound of some rules is at a number. -/
def UpperAt (rules : List NumberRule) (k : Int) : Prop :=
  ∃ isOpen, IsLeast (limits NumberRule.EndsAt rules) (lastHalf isOpen k)

/-- Without a lower bound, and with an upper one below zero, numbers are drawn from a hundred below
the upper bound on. None of these is a multiple of the step, or only one that is rounded. -/
def OutOfReach (rules : List NumberRule) (s : Int) : Prop :=
  limits NumberRule.StartsAt rules = ∅ ∧ ∃ k < 0, UpperAt rules k ∧
    ¬∃ n : Int, s ∣ n ∧ k - 100 ≤ n ∧ n ≤ k ∧ -2 ^ 53 < n

/-- There are only bounds on one side, behind the preferred range or in front of it, and the
tightest one is less than a hundred or less than a step away from where numbers are rounded. -/
def Beyond (rules : List NumberRule) (s : Int) : Prop :=
  (limits NumberRule.EndsAt rules = ∅ ∧ ∃ k > 100, LowerAt rules k ∧ 2 ^ 53 ≤ k + max 100 s) ∨
    (limits NumberRule.StartsAt rules = ∅ ∧ ∃ k < 0, UpperAt rules k ∧ k - max 100 s ≤ -2 ^ 53)

/-- Whether a multiple is within some rules is known: it is unless the multiples are out of reach.
The multiple must not be rounded, which it is not unless the bounds are beyond that. -/
def Settled (rules : List NumberRule) (s n : Int) : Prop :=
  (¬Beyond rules s → n.natAbs < 2 ^ 53) ∧
    (n.natAbs < 2 ^ 53 → (Within rules (2 * n) ↔ ¬OutOfReach rules s))

theorem Settled.of_rounds {rules : List NumberRule} {s n v : Int} (h : Settled rules s n)
    (hrounds : Rounds n v) : Settled rules s v := by
  refine ⟨fun hnear => ?_, fun hv => ?_⟩
  · have hn := h.1 hnear
    exact hrounds.eq_of_short (.inl hn) ▸ hn
  · obtain rfl := hrounds.eq_of_short (.inr hv)
    exact h.2 hv

namespace NumberPlan

variable {plan : NumberPlan} {rules : List NumberRule} {low high : Option Int} {n v : Int}
  (hlow : plan.LowerOf rules low) (hhigh : plan.UpperOf rules high)
include hlow hhigh

section Bounds

omit hhigh in
theorem limits_starts_iff : limits NumberRule.StartsAt rules = ∅ ↔ low = none := by
  cases low with
  | none => exact iff_of_true hlow.2.2 rfl
  | some k => exact iff_of_false (Set.nonempty_iff_ne_empty.mp ⟨_, hlow.2.2.1⟩) nofun

omit hlow in
theorem limits_ends_iff : limits NumberRule.EndsAt rules = ∅ ↔ high = none := by
  cases high with
  | none => exact iff_of_true hhigh.2.2 rfl
  | some k => exact iff_of_false (Set.nonempty_iff_ne_empty.mp ⟨_, hhigh.2.2.1⟩) nofun

omit hhigh in
theorem lowerAt_iff {k : Int} : LowerAt rules k ↔ low = some k := by
  cases low with
  | none => simp [LowerAt, hlow.2.2, IsGreatest]
  | some j =>
    obtain ⟨-, -, hgreatest⟩ := hlow
    constructor
    · rintro ⟨o, ho⟩
      rw [(firstHalf_inj.mp (hgreatest.unique ho)).2]
    · rintro ⟨⟩
      exact ⟨_, hgreatest⟩

omit hlow in
theorem upperAt_iff {k : Int} : UpperAt rules k ↔ high = some k := by
  cases high with
  | none => simp [UpperAt, hhigh.2.2, IsLeast]
  | some j =>
    obtain ⟨-, -, hleast⟩ := hhigh
    constructor
    · rintro ⟨o, ho⟩
      rw [(lastHalf_inj.mp (hleast.unique ho)).2]
    · rintro ⟨⟩
      exact ⟨_, hleast⟩

theorem outOfReach_iff {s : Int} : OutOfReach rules s ↔ low = none ∧ ∃ k < 0, high = some k ∧
    ¬∃ n : Int, s ∣ n ∧ k - 100 ≤ n ∧ n ≤ k ∧ -2 ^ 53 < n := by
  simp only [OutOfReach, limits_starts_iff hlow, upperAt_iff hhigh]

/-- With a lower bound there is always a multiple behind it. -/
theorem not_outOfReach (hlow_ne : low ≠ none) {s : Int} : ¬OutOfReach rules s :=
  fun hreach => hlow_ne ((outOfReach_iff hlow hhigh).mp hreach).1

theorem beyond_iff {s : Int} : Beyond rules s ↔
    (high = none ∧ ∃ k > 100, low = some k ∧ 2 ^ 53 ≤ k + max 100 s) ∨
      (low = none ∧ ∃ k < 0, high = some k ∧ k - max 100 s ≤ -2 ^ 53) := by
  simp only [Beyond, limits_starts_iff hlow, limits_ends_iff hhigh, lowerAt_iff hlow,
    upperAt_iff hhigh]

theorem within_iff_from_upTo : Within rules (2 * n) ↔ plan.From low n ∧ plan.UpTo high n :=
  within_integer_iff hlow hhigh

end Bounds

section Windows

variable {s first last l f c j k : Int} (hpos : 0 < s) (hshort : s < 2 ^ 53)
include hpos hshort

omit hlow hhigh in
/-- A multiple is short if its neighbours are not beyond the preferred range. -/
theorem short_of_neighbours (hbefore : (c - 1) * s ≤ 100) (hbehind : 0 ≤ (c + 1) * s) :
    (c * s).natAbs < 2 ^ 53 := by
  have hstep : c * s = (c - 1) * s + s := by ring
  rcases le_or_gt 2 c with hlarge | hsmall
  · have hle : 1 * s ≤ (c - 1) * s := Int.mul_le_mul_of_nonneg_right (by omega) hpos.le
    omega
  · rcases le_or_gt (-1) c with hnext | hneg
    · have hlow : -1 * s ≤ c * s := Int.mul_le_mul_of_nonneg_right hnext hpos.le
      have hhigh : c * s ≤ 1 * s := Int.mul_le_mul_of_nonneg_right (by omega) hpos.le
      omega
    · exact absurd hbehind (not_le.mpr (Int.mul_neg_of_neg_of_pos (by omega) hpos))

/-- Bounds that meet the preferred range. -/
theorem settled_meeting (hj : j = low.elim 0 (max · 0))
    (hk : k = high.elim 100 (min · 100)) (hle : j ≤ k) (hfirst : Neighbours s j first l)
    (hlast : Neighbours s k f last) (hsat : ∃ m, plan.AdmitsMultiple low high s m)
    (hc : Picks (plan.AdmitsMultiple low high s) first last c) :
    Settled rules s (c * s) := by
  obtain ⟨hj_nonneg, hlow_le, hstart⟩ := elim_max_spec hj
  obtain ⟨hk_le, hle_high, -⟩ := elim_min_spec hk
  have hle_first := hfirst.le_first
  have hlast_le := hlast.last_le
  have hmono {m n : Int} (h : m ≤ n) : m * s ≤ n * s := Int.mul_le_mul_of_nonneg_right h hpos.le
  have hreach : ¬OutOfReach rules s := by
    rw [outOfReach_iff hlow hhigh]
    rintro ⟨-, i, hneg, hi, -⟩
    have hle_i := hle_high i hi
    omega
  suffices h : (c * s).natAbs < 2 ^ 53 ∧ plan.AdmitsMultiple low high s c from
    ⟨fun _ => h.1, fun _ => iff_of_true ((within_iff_from_upTo hlow hhigh).mpr h.2) hreach⟩
  rcases le_or_gt first last with hmeet | hapart
  · have hends := hmono hmeet
    obtain ⟨hadmitted, hplace⟩ := picks_admitted hpos
      (fun i hi => (hlow_le i hi).trans hle_first) (fun i hi => hlast_le.trans (hle_high i hi))
      hsat hmeet hc
    refine ⟨short_of_neighbours hpos hshort ?_ ?_, hadmitted⟩
    · have hbefore : (c - 1) * s ≤ last * s := hmono (by omega)
      omega
    · have hbehind : first * s ≤ (c + 1) * s := hmono (by omega)
      omega
  · -- No multiple is in the range, and the one behind it is taken. It lies between the bounds, as the
    -- one that does cannot be in front of it.
    obtain rfl := hc.eq_first hapart
    have hbeyond : k < c * s := hlast.behind_last.trans_le (hmono hapart)
    have hbefore := hfirst.before_first
    refine ⟨short_of_neighbours hpos hshort (by omega) ?_, from_of_lt fun i hi => ?_, ?_⟩
    · have hbehind : c * s ≤ (c + 1) * s := hmono (by omega)
      omega
    · have hi := hlow_le i hi
      omega
    · -- A multiple in front of the range would be below the lower bound, or the range contain zero.
      obtain ⟨m, hm, hm'⟩ := hsat
      refine hm'.mono (hmono ?_)
      by_contra hlt
      have hbelow : m * s ≤ (c - 1) * s := hmono (by omega)
      rcases hstart with rfl | hlow_eq
      · have hzero := lt_of_mul_lt_mul_right (hbefore.trans_eq (Int.zero_mul s).symm) hpos.le
        have hend := lt_of_mul_lt_mul_right
          (((Int.zero_mul s).trans_le hle).trans_lt hlast.behind_last) hpos.le
        omega
      · have hj_le := le_firstWhole.trans (hm j hlow_eq)
        omega

omit hshort in
/-- Bounds on both sides that do not meet the preferred range. -/
theorem settled_between (hj : low = some j) (hk : high = some k) (hfirst : Neighbours s j first l)
    (hlast : Neighbours s k f last) (hsat : ∃ m, plan.AdmitsMultiple low high s m)
    (hc : Picks (plan.AdmitsMultiple low high s) first last c) :
    Settled rules s (c * s) := by
  subst hj hk
  have hreach := not_outOfReach hlow hhigh (Option.some_ne_none j) (s := s)
  have hle : first ≤ last := by
    obtain ⟨m, hm, hm'⟩ := hsat
    have hj_le := le_firstWhole.trans (hm j rfl)
    have hle_k := (hm' k rfl).trans lastWhole_le
    have hfirst_le := lt_of_mul_lt_mul_right (hfirst.before_first.trans_le hj_le) hpos.le
    have hle_last := lt_of_mul_lt_mul_right (hle_k.trans_lt hlast.behind_last) hpos.le
    omega
  obtain ⟨hadmitted, -⟩ := picks_admitted hpos
    (fun i hi => by cases hi; exact hfirst.le_first)
    (fun i hi => by cases hi; exact hlast.last_le) hsat hle hc
  have hj_le := le_firstWhole.trans (hadmitted.1 j rfl)
  have hle_k := (hadmitted.2 k rfl).trans lastWhole_le
  have hj := hlow.2.1
  have hk := hhigh.2.1
  exact ⟨fun _ => by omega,
    fun _ => iff_of_true ((within_iff_from_upTo hlow hhigh).mpr hadmitted) hreach⟩

/-- A lower bound behind the preferred range. -/
theorem settled_above (hj : low = some j) (hk : high = none) (hlarge : 100 < j)
    (hfirst : Neighbours s j first l)
    (hlast : ∀ m : Int, (m * s).natAbs ≤ 2 ^ 53 → m * s ≤ j + 100 → m ≤ last)
    (hexact : (j + 100).natAbs < 2 ^ 53 → Neighbours s (j + 100) f last)
    (hc : Picks (plan.AdmitsMultiple low high s) first last c) :
    Settled rules s (c * s) := by
  subst hj hk
  have hmono {m n : Int} (h : m ≤ n) : m * s ≤ n * s := Int.mul_le_mul_of_nonneg_right h hpos.le
  have hle_first := hfirst.le_first
  have hbefore := hfirst.before_first
  have hnext : c * s = (c - 1) * s + s := by ring
  have hupTo (n : Int) : plan.UpTo none n := nofun
  have hreach := not_outOfReach hlow hhigh (Option.some_ne_none j) (s := s)
  have hnear (h : ¬Beyond rules s) : j + max 100 s < 2 ^ 53 := by
    rw [beyond_iff hlow hhigh] at h
    by_contra hfar
    exact h (.inl ⟨rfl, j, hlarge, rfl, not_lt.mp hfar⟩)
  have hj := hlow.2.1
  rcases le_or_gt first last with hle | hlt
  · have hlow_le : ∀ i ∈ some j, i ≤ first * s := by
      rintro i ⟨⟩
      exact hle_first
    have hbehind : plan.From (some j) ((first + 1) * s) := by
      refine from_of_lt fun i hi => ?_
      have hi := hlow_le i hi
      rw [Int.add_mul]
      omega
    obtain ⟨hadmitted, hplace⟩ := picks_admitted hpos hlow_le
      (fun i hi => absurd hi (Option.not_mem_none i)) ⟨_, hbehind, hupTo _⟩ hle hc
    have hj_le := le_firstWhole.trans (hadmitted.1 j rfl)
    refine ⟨fun h => ?_,
      fun _ => iff_of_true ((within_iff_from_upTo hlow hhigh).mpr hadmitted) hreach⟩
    have hshort := hnear h
    have hlast_le := (hexact (by omega)).last_le
    rcases hplace with ⟨-, hin⟩ | ⟨rfl, hout⟩ | ⟨-, hout⟩
    · have hin := hmono hin
      omega
    · have heq : ¬j < first * s := fun hlt => hout (from_of_lt fun i hi => by cases hi; exact hlt)
      rw [Int.add_mul] at hj_le ⊢
      omega
    · exact absurd (hupTo _) hout
  · obtain rfl := hc.eq_first hlt
    have hadmitted : plan.From (some j) (c * s) := by
      refine from_of_lt fun i hi => ?_
      cases hi
      -- The bound itself is no multiple: it would be in the range.
      by_contra hge
      have hin := hlast c (by omega) (by omega)
      omega
    refine ⟨fun h => ?_,
      fun _ => iff_of_true ((within_iff_from_upTo hlow hhigh).mpr ⟨hadmitted, hupTo _⟩) hreach⟩
    have hshort := hnear h
    omega

/-- An upper bound in front of the preferred range. -/
theorem settled_below (hj : low = none) (hk : high = some k) (hneg : k < 0)
    (hfirst : ∀ m : Int, (m * s).natAbs ≤ 2 ^ 53 → k - 100 ≤ m * s → first ≤ m)
    (hexact : (k - 100).natAbs < 2 ^ 53 → Neighbours s (k - 100) first l)
    (hlast : Neighbours s k f last)
    (hc : Picks (plan.AdmitsMultiple low high s) first last c) :
    Settled rules s (c * s) := by
  subst hj hk
  have hmono {m n : Int} (h : m ≤ n) : m * s ≤ n * s := Int.mul_le_mul_of_nonneg_right h hpos.le
  have hlast_le := hlast.last_le
  have hnext : c * s = (c - 1) * s + s := by ring
  have hfrom (n : Int) : plan.From none n := nofun
  have hnear (h : ¬Beyond rules s) : -2 ^ 53 < k - max 100 s := by
    rw [beyond_iff hlow hhigh] at h
    by_contra hfar
    exact h (.inr ⟨rfl, k, hneg, rfl, not_lt.mp hfar⟩)
  have hk := hhigh.2.1
  rcases le_or_gt first last with hle | hlt
  · have hle_high : ∀ i ∈ some k, last * s ≤ i := by
      rintro i ⟨⟩
      exact hlast_le
    have hbefore : plan.UpTo (some k) ((last - 1) * s) := by
      refine upTo_of_lt fun i hi => ?_
      have hi := hle_high i hi
      rw [Int.sub_mul]
      omega
    obtain ⟨hadmitted, hplace⟩ := picks_admitted hpos
      (fun i hi => absurd hi (Option.not_mem_none i)) hle_high ⟨_, hfrom _, hbefore⟩ hle hc
    have hle_k := (hadmitted.2 k rfl).trans lastWhole_le
    refine ⟨fun h => ?_, fun hc_short =>
      iff_of_true ((within_iff_from_upTo hlow hhigh).mpr hadmitted) fun hreach => ?_⟩
    · have hshort := hnear h
      have hle_first := (hexact (by omega)).le_first
      rcases hplace with ⟨hin, -⟩ | ⟨-, hout⟩ | ⟨rfl, hout⟩
      · have hin := hmono hin
        omega
      · exact absurd (hfrom _) hout
      · have heq : ¬last * s < k := fun hlt => hout (upTo_of_lt fun i hi => by cases hi; exact hlt)
        rw [Int.sub_mul]
        omega
    · -- The last multiple in the range is short: it is not in front of the one that is taken.
      obtain ⟨-, i, -, hi, hnone⟩ := (outOfReach_iff hlow hhigh).mp hreach
      cases hi
      have hc_le : c * s ≤ last * s := by
        refine hmono ?_
        have hlt := lt_of_mul_lt_mul_right (hle_k.trans_lt hlast.behind_last) hpos.le
        omega
      refine hnone ⟨last * s, Dvd.intro_left last rfl, ?_, hlast_le, by omega⟩
      by_cases hrange : -2 ^ 53 < k - 100
      · have hle_first := (hexact (by omega)).le_first
        have hends := hmono hle
        omega
      · omega
  · -- The multiple behind an empty range is taken here as well, and is above the bound.
    obtain rfl := hc.eq_first hlt
    have hbeyond : k < c * s := hlast.behind_last.trans_le (hmono hlt)
    have hnot : ¬Within rules (2 * (c * s)) := by
      rw [within_iff_from_upTo hlow hhigh]
      rintro ⟨-, hupTo⟩
      have hle_k := (hupTo k rfl).trans lastWhole_le
      omega
    refine ⟨fun h => ?_, fun _ => iff_of_false hnot (not_not.mpr ?_)⟩
    · have hshort := hnear h
      have hbefore := (hexact (by omega)).before_first
      omega
    · refine (outOfReach_iff hlow hhigh).mpr ⟨rfl, k, hneg, rfl, ?_⟩
      rintro ⟨n, ⟨m, rfl⟩, hle_n, hn_le, hn_short⟩
      rw [Int.mul_comm] at hle_n hn_le hn_short
      have hfirst_le := hfirst m (by omega) hle_n
      have hle_last := lt_of_mul_lt_mul_right (hn_le.trans_lt hlast.behind_last) hpos.le
      omega

end Windows

/-- Of the factors in a range one is taken for which it is known whether its multiple is within the
rules. -/
def Offers (plan : NumberPlan) (rules : List NumberRule) (low high : Option Int) (step : Number)
    (s : Int) (x y : Number) : Prop :=
  ∃ first last l f, x.Factors step first l ∧ y.Factors step f last ∧ first.natAbs ≤ 2 ^ 54 ∧
    last.natAbs ≤ 2 ^ 54 ∧
      ∀ c, Picks (plan.AdmitsMultiple low high s) first last c →
        Settled rules s (c * s)

/-- The range to draw from has multiples of the step on offer, whether or not the bounds meet the
preferred range. -/
theorem exists_offers {step : Number} {s : Int} (hstep : step.Is s) (hpos : 0 < s)
    (hshort : s < 2 ^ 53) {d e : Double} (hd : (Number.float d).Is 0) (he : (Number.float e).Is 100)
    (hsat : ∃ m, plan.AdmitsMultiple low high s m) :
    ∃ x y, plan.window d e = .ok (x, y) ∧ plan.Offers rules low high step s x y := by
  have hx := hlow.greater hd
  have hy := hhigh.lesser he
  by_cases hle : low.elim 0 (max · 0) ≤ high.elim 100 (min · 100)
  · have hstart := @elim_max_spec low _ rfl
    have hend := @elim_min_spec high _ rfl
    obtain ⟨first, l, hfirst, hfirst_le, -, hnext⟩ :=
      hx.exists_factors (by omega) hstep hpos hshort
    obtain ⟨f, last, hlast, -, hlast_le, hnext'⟩ := hy.exists_factors (by omega) hstep hpos hshort
    refine ⟨_, _, ?_, first, last, l, f, hfirst, hlast, by omega, by omega, fun c hc =>
      settled_meeting hlow hhigh hpos hshort rfl rfl hle hnext hnext' hsat hc⟩
    rw [NumberPlan.window]
    exact if_pos ((hx.atMost hy).mpr hle)
  have happart := mt (hx.atMost hy).mp hle
  have hspan := span_is hd he
  rcases low with _ | j <;> rcases high with _ | k
  · exact absurd (by decide) hle
  · have hupper := hhigh.1
    have hk := hhigh.2.1
    obtain ⟨z, first, l, hz, hfirst, hfirst_le, -, hbeyond, hexact⟩ :=
      hupper.add_factors hspan.neg (by omega) (by decide) hstep hpos hshort
    obtain ⟨f, last, hlast, -, hlast_le, hnext⟩ := hupper.exists_factors hk hstep hpos hshort
    refine ⟨z, plan.upper, ?_, first, last, l, f, hfirst, hlast, by omega, by omega, fun c hc =>
      settled_below hlow hhigh hpos hshort rfl rfl ?_ (fun m hm => (hbeyond m hm).1) hexact hnext
        hc⟩
    · rw [window_apart happart, hupper.isInfinite (by omega), hlow.1, sub_float, hz]
      rfl
    · simp only [Option.elim_none, Option.elim_some] at hle
      omega
  · have hlower := hlow.1
    have hj := hlow.2.1
    obtain ⟨first, l, hfirst, hfirst_le, -, hnext⟩ := hlower.exists_factors hj hstep hpos hshort
    obtain ⟨z, f, last, hz, hlast, -, hlast_le, hbeyond, hexact⟩ :=
      hlower.add_factors hspan (by omega) (by decide) hstep hpos hshort
    refine ⟨plan.lower, z, ?_, first, last, l, f, hfirst, hlast, by omega, by omega, fun c hc =>
      settled_above hlow hhigh hpos hshort rfl rfl ?_ hnext (fun m hm => (hbeyond m hm).2) hexact
        hc⟩
    · rw [window_apart happart, hhigh.1, hz]
      rfl
    · simp only [Option.elim_none, Option.elim_some] at hle
      omega
  · have hlower := hlow.1
    have hupper := hhigh.1
    have hj := hlow.2.1
    have hk := hhigh.2.1
    obtain ⟨first, l, hfirst, hfirst_le, -, hnext⟩ := hlower.exists_factors hj hstep hpos hshort
    obtain ⟨f, last, hlast, -, hlast_le, hnext'⟩ := hupper.exists_factors hk hstep hpos hshort
    refine ⟨plan.lower, plan.upper, ?_, first, last, l, f, hfirst, hlast, by omega, by omega,
      fun c hc => settled_between hlow hhigh hpos rfl rfl hnext hnext' hsat hc⟩
    rw [window_apart happart, hlower.isInfinite (by omega), hupper.isInfinite (by omega)]
    rfl

end NumberPlan

open NumberPlan

section Samples

variable {S : Type} {o : SampleOptions} {before behind checks : List (Check NumberRule)}
  {step x : Number} {message : Option Text} {s v : Int}

/-- Short whole numbers are multiples as integers are. -/
theorem multipleOf_holds_iff (hx : x.Is v) (hv : v.natAbs < 2 ^ 53) (hstep : step.Is s)
    (hs : s.natAbs < 2 ^ 53) : (NumberRule.multipleOf step).Holds x ↔ s ∣ v := by
  obtain ⟨d, hd, hvalue⟩ := hx.nearest hv.le
  obtain ⟨e, he, hunits⟩ := hstep.nearest hs.le
  rw [← isMultipleOf_whole hvalue hunits hv hs]
  constructor
  · rintro ⟨d', e', hd', he', -, hmultiple⟩
    rw [toDouble?_of_nearest hd] at hd'
    rw [toDouble?_of_nearest he] at he'
    cases hd'
    cases he'
    exact hmultiple
  · intro hmultiple
    obtain ⟨a, p, rfl, -⟩ := exists_finite hvalue
    exact ⟨_, e, toDouble?_of_nearest hd, toDouble?_of_nearest he, rfl, hmultiple⟩

/-- A sample is an integer about which it is known whether it is within the rules, and a multiple of
the step if it is short. -/
theorem always_sampleNumber_multiple (hmin : o.minNumber = .int 0) (hmax : o.maxNumber = .int 100)
    (hrules : ∀ check ∈ before ++ behind, check.rule.IsWhole) (hstep : step.Is s) (hpos : 0 < s)
    (hshort : s < 2 ^ 53) {m : Int}
    (hsat : Within ((before ++ behind).map Check.rule) (2 * (m * s))) :
    Always (sampleNumber o (before ++ ⟨.multipleOf step, message⟩ :: behind) : Sampling S Number)
      fun x => ∃ v : Int, x = .int v ∧ Settled ((before ++ behind).map Check.rule) s v ∧
        (v.natAbs < 2 ^ 53 → s ∣ v) := by
  have hplan := fits_foldl fits_nil hrules
  rw [List.nil_append] at hplan
  unfold sampleNumber
  rw [foldl_multipleOf hrules]
  generalize (before ++ behind).foldl (fun plan check => plan.add check.rule) ({} : NumberPlan) =
    plan at hplan ⊢
  generalize (before ++ behind).map Check.rule = rules at *
  obtain ⟨⟨low, hlow⟩, ⟨high, hhigh⟩, -⟩ := hplan
  replace hlow : { plan with step := some step }.LowerOf rules low := hlow.congr rfl rfl rfl
  replace hhigh : { plan with step := some step }.UpperOf rules high := hhigh.congr rfl rfl rfl
  generalize hwith : ({ plan with step := some step } : NumberPlan) = full at hlow hhigh ⊢
  obtain ⟨d, hd, hzero⟩ := (is_int 0).nearest (by decide)
  obtain ⟨e, he, hhundred⟩ := (is_int 100).nearest (by decide)
  obtain ⟨x, y, hwindow, first, last, l, f, hx, hy, hfirst, hlast, hsettled⟩ :=
    exists_offers hlow hhigh hstep hpos hshort (exactValue?_float_iff.mpr hzero)
      (exactValue?_float_iff.mpr hhundred) ⟨m, (within_iff_from_upTo hlow hhigh).mp hsat⟩
  refine (always_lift ⟨d, by rw [hmin]; exact hd, rfl⟩).bind fun d' heq => ?_
  subst heq
  refine (always_lift ⟨e, by rw [hmax]; exact he, rfl⟩).bind fun e' heq => ?_
  subst heq
  refine (always_lift ⟨(x, y), hwindow, rfl⟩).bind fun window heq => ?_
  subst heq
  have hkept : full.step = some step := by rw [← hwith]
  simp only [hkept]
  refine (always_sampleMultiple hlow hhigh hstep hpos hshort hx hy hfirst hlast).mono ?_
  rintro _ ⟨c, v, rfl, hrounds, hc⟩
  exact ⟨v, rfl, (hsettled c hc).of_rounds hrounds, fun hv =>
    hrounds.eq_of_short (.inr hv) ▸ Dvd.intro_left c rfl⟩

/-- A short integer is found valid if it is within the bounds and a multiple of the step. -/
theorem Schema.validate_multiple_iff (description message : Option Text)
    (hrules : ∀ check ∈ before ++ behind, check.rule.IsWhole) (hstep : step.Is s)
    (hs : s.natAbs < 2 ^ 53) (hv : v.natAbs < 2 ^ 53) (policy : Option Policy) :
    ((Schema.mk description (.number (before ++ ⟨.multipleOf step, message⟩ :: behind))).validate
      (policy.map Policy.name) (.number (.int v))).isEmpty = true ↔
        Within ((before ++ behind).map Check.rule) (2 * v) ∧ s ∣ v := by
  have hwhole : ∀ rule ∈ (before ++ behind).map Check.rule, rule.IsWhole :=
    List.forall_mem_map.mpr hrules
  have hparts : (∀ check ∈ before ++ ⟨.multipleOf step, message⟩ :: behind,
      check.rule.Holds (.int v)) ↔ (∀ check ∈ before ++ behind, check.rule.Holds (.int v)) ∧
        (NumberRule.multipleOf step).Holds (.int v) := by
    simp only [List.forall_mem_append, List.forall_mem_cons]
    exact and_congr_right' and_comm |>.trans and_assoc.symm
  have hrange (check : Check NumberRule)
      (hcheck : check ∈ before ++ ⟨.multipleOf step, message⟩ :: behind) (step' : Number)
      (hrule : check.rule = .multipleOf step') : step'.InRange := by
    have hmem : check = ⟨.multipleOf step, message⟩ ∨ check ∈ before ++ behind := by
      simp only [List.mem_append, List.mem_cons] at hcheck ⊢
      exact or_left_comm.mp hcheck
    rcases hmem with rfl | hmem
    · cases hrule
      obtain ⟨d, hd, -⟩ := hstep.nearest hs.le
      exact Option.isSome_iff_exists.mpr ⟨d, toDouble?_of_nearest hd⟩
    · exact (hrule ▸ hrules check hmem : (NumberRule.multipleOf step').IsWhole).elim
  generalize before ++ ⟨.multipleOf step, message⟩ :: behind = checks at hparts hrange ⊢
  have hbuilt : (Schema.mk description (.number checks)).WellBuilt :=
    .mk trivial (List.forall_mem_nil _)
  have hnumbers : (Schema.mk description (.number checks)).InRange :=
    .mk hrange (List.forall_mem_nil _)
  rw [isEmpty_validate_iff hbuilt hnumbers (.number (inRange_int_of_natAbs_le (by omega))),
    ← multipleOf_holds_iff (is_int v) hv hstep hs, ← forall_holds_iff hwhole (is_int v).halves,
    List.forall_mem_map, ← hparts]
  exact ⟨fun ⟨x, hx, _, hholds⟩ => by cases hx; exact hholds,
    fun hholds => ⟨.int v, rfl, rfl, hholds⟩⟩

/-- **Samples of multiples**: for bounds at short whole numbers that a multiple of a short whole
step satisfies, integers are generated, whatever is drawn. They are short unless the bounds are
beyond that, and if they are, all of them conform unless the multiples are out of reach. -/
theorem Schema.sampleWith_multiples (description message : Option Text)
    (hchecks : checks = before ++ ⟨.multipleOf step, message⟩ :: behind)
    (hrules : ∀ check ∈ before ++ behind, check.rule.IsWhole) (hstep : step.Is s) (hpos : 0 < s)
    (hshort : s < 2 ^ 53)
    (hsat : ∃ m : Int, ∀ check ∈ before ++ behind, check.rule.Holds (.int (m * s)))
    (hmin : o.minNumber = .int 0) (hmax : o.maxNumber = .int 100) (draws : Draws S) (state : S)
    (policy : Option Policy) :
    ∃ numbers : List Int, numbers.length = o.count ∧
      (Schema.mk description (.number checks)).sampleWith draws state o (policy.map Policy.name) =
        .ok (.ofValues (.mk description (.number checks)) (policy.map Policy.name)
          (numbers.map fun n => .number (.int n))) ∧
      (¬Beyond ((before ++ behind).map Check.rule) s → ∀ n ∈ numbers, n.natAbs < 2 ^ 53) ∧
      ((∀ n ∈ numbers, n.natAbs < 2 ^ 53) →
        ((SampleResult.ofValues (.mk description (.number checks)) (policy.map Policy.name)
          (numbers.map fun n => .number (.int n))).success = true ↔
            ¬OutOfReach ((before ++ behind).map Check.rule) s)) := by
  subst hchecks
  obtain ⟨m, hm⟩ := hsat
  replace hm : Within ((before ++ behind).map Check.rule) (2 * (m * s)) := by
    rw [← forall_holds_iff (List.forall_mem_map.mpr hrules) (is_int _).halves, List.forall_mem_map]
    exact hm
  have hvalid {n : Int} (hn : n.natAbs < 2 ^ 53) :=
    validate_multiple_iff description message hrules hstep (by omega) hn policy
  generalize hschema : Schema.mk description
    (.number (before ++ ⟨.multipleOf step, message⟩ :: behind)) = schema at hvalid ⊢
  have hvalues : Always (schema.sample o : Sampling S Value) fun v => ∃ n : Int,
      Value.number (.int n) = v ∧ Settled ((before ++ behind).map Check.rule) s n ∧
        (n.natAbs < 2 ^ 53 → s ∣ n) := by
    subst hschema
    refine (always_sampleNumber_multiple hmin hmax hrules hstep hpos hshort hm).map ?_
    rintro _ ⟨n, rfl, hn⟩
    exact ⟨n, rfl, hn⟩
  obtain ⟨numbers, hlength, hall, hrun⟩ :=
    sampleWith_of_always_map hvalues draws state (policy.map Policy.name)
  refine ⟨numbers, hlength, hrun, fun hnear n hn => (hall n hn).1.1 hnear, fun hexact => ?_⟩
  rw [SampleResult.success_ofValues_iff, List.forall_mem_map]
  constructor
  · intro hsuccess
    obtain ⟨n, hn⟩ := List.exists_mem_of_length_pos (hlength ▸ o.count_pos)
    exact ((hall n hn).1.2 (hexact n hn)).mp ((hvalid (hexact n hn)).mp (hsuccess n hn)).1
  · intro hreach n hn
    exact (hvalid (hexact n hn)).mpr
      ⟨((hall n hn).1.2 (hexact n hn)).mpr hreach, (hall n hn).2 (hexact n hn)⟩

namespace Schema

/-- Multiples of seven from 5 to 50 are sampled well. -/
theorem sampleWith_multiples_interval :
    let before : List (Check NumberRule) := [⟨.gte (.int 5), none⟩]
    let behind : List (Check NumberRule) := [⟨.lte (.int 50), none⟩]
    let checks := before ++ ⟨.multipleOf (.int 7), none⟩ :: behind
    (∀ check ∈ before ++ behind, check.rule.IsWhole) ∧ (Number.int 7).Is 7 ∧ (0 : Int) < 7 ∧
      (7 : Int) < 2 ^ 53 ∧
      (∃ m : Int, ∀ check ∈ before ++ behind, check.rule.Holds (.int (m * 7))) ∧
      SampleOptions.standard.minNumber = .int 0 ∧ SampleOptions.standard.maxNumber = .int 100 ∧
      ∃ numbers : List Int, numbers.length = 1 ∧
        (Schema.mk none (.number checks)).sampleWith Draws.least () .standard
          (some Policy.strict.name) = .ok (.ofValues (.mk none (.number checks))
            (some Policy.strict.name) (numbers.map fun n => .number (.int n))) ∧
        (SampleResult.ofValues (.mk none (.number checks)) (some Policy.strict.name)
          (numbers.map fun n => .number (.int n))).success = true := by
  intro before behind checks
  have hrules : ∀ check ∈ before ++ behind, check.rule.IsWhole := by
    simp only [before, behind, List.cons_append, List.nil_append, List.forall_mem_cons,
      List.not_mem_nil, false_imp_iff, implies_true, and_true]
    exact ⟨⟨5, is_int 5, by decide⟩, ⟨50, is_int 50, by decide⟩⟩
  have hsat : ∃ m : Int, ∀ check ∈ before ++ behind, check.rule.Holds (.int (m * 7)) := by
    refine ⟨1, ?_⟩
    simp only [before, behind, List.cons_append, List.nil_append, List.forall_mem_cons,
      List.not_mem_nil, false_imp_iff, implies_true, and_true]
    exact ⟨rfl, rfl⟩
  have hstarts : limits NumberRule.StartsAt ((before ++ behind).map Check.rule) ≠ ∅ :=
    Set.nonempty_iff_ne_empty.mp ⟨_, _, List.mem_cons_self, .gte (is_int 5)⟩
  have hends : limits NumberRule.EndsAt ((before ++ behind).map Check.rule) ≠ ∅ :=
    Set.nonempty_iff_ne_empty.mp ⟨_, _, List.mem_cons_of_mem _ List.mem_cons_self, .lte (is_int 50)⟩
  obtain ⟨numbers, hlength, hrun, hexact, hsuccess⟩ :=
    sampleWith_multiples (o := .standard) none none
      (rfl : checks = before ++ ⟨.multipleOf (.int 7), none⟩ :: behind) hrules (is_int 7)
      (by decide) (by decide) hsat rfl rfl Draws.least () (some .strict)
  have hnear : ¬Beyond ((before ++ behind).map Check.rule) 7 :=
    fun h => h.elim (fun h => hends h.1) fun h => hstarts h.1
  exact ⟨hrules, is_int 7, by decide, by decide, hsat, rfl, rfl, numbers, hlength, hrun,
    (hsuccess (hexact hnear)).mpr fun h => hstarts h.1⟩

/-- Bounds that multiples satisfy and whose samples do not conform: none of the numbers from -101 to
-1 is a multiple of a thousand, and a multiple of five is checked as a rounded one that is none. -/
theorem sampleWith_multiples_missed :
    ((NumberRule.lte (.int (-1))).Holds (.int (-1 * 1000)) ∧
        ¬∃ result, (plain (.number [⟨.lte (.int (-1)), none⟩,
          ⟨.multipleOf (.int 1000), none⟩])).sampleWith Draws.least () .standard none = .ok result ∧
            result.success = true) ∧
      ((NumberRule.gt (.int 9007199254740990)).Holds (.int (1801439850948199 * 5)) ∧
        ¬∃ result, (plain (.number [⟨.gt (.int 9007199254740990), none⟩,
          ⟨.multipleOf (.int 5), none⟩])).sampleWith Draws.least () .standard none = .ok result ∧
            result.success = true) := by
  refine ⟨⟨rfl, SampleResult.not_success ?_⟩, ⟨rfl, SampleResult.not_success ?_⟩⟩
  · decide +kernel
  · decide +kernel

end Schema

end Samples

end Conform
