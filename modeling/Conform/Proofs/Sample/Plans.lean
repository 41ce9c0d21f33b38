import Conform.Proofs.Checking.Refinement
import Conform.Proofs.Number.Whole
import Conform.Sample.Leaves
import Mathlib.Order.Bounds.Basic

/-!
# Plans for bounded numbers

Bounds by whole numbers are compared in halves: a sample is an integer or lies in the middle of two
integers, and a bound that is left out admits no half nearer than the next one. The rules of a
number are folded into a plan, which keeps the greatest of the lower bounds and the least of the
upper ones.

## Main definitions

- `firstHalf`, `lastHalf` — the halves next to a bound
- `limits` — the halves where the bounds of some rules start or end
- `Within` — a half is within the bounds of some rules
- `NumberPlan.Fits` — a plan has the tightest bounds of some rules
- `NumberPlan.fits_foldl` — the plan for some rules
- `NumberPlan.foldl_multipleOf` — the plan for some rules and a step
-/

namespace Conform

open Number

/-- The least number of halves that a lower bound admits. -/
def firstHalf (isOpen : Bool) (k : Int) : Int := if isOpen then 2 * k + 1 else 2 * k

/-- The greatest number of halves that an upper bound admits. -/
def lastHalf (isOpen : Bool) (k : Int) : Int := if isOpen then 2 * k - 1 else 2 * k

/-- The least integer that a lower bound admits. -/
def firstWhole (isOpen : Bool) (k : Int) : Int := if isOpen then k + 1 else k

/-- The greatest integer that an upper bound admits. -/
def lastWhole (isOpen : Bool) (k : Int) : Int := if isOpen then k - 1 else k

section Halves

variable {o p same : Bool} {j k n : Int}

theorem firstHalf_le_iff : firstHalf o k ≤ 2 * n ↔ firstWhole o k ≤ n := by
  unfold firstHalf firstWhole
  split <;> omega

theorem le_lastHalf_iff : 2 * n ≤ lastHalf o k ↔ n ≤ lastWhole o k := by
  unfold lastHalf lastWhole
  split <;> omega

theorem le_firstWhole : k ≤ firstWhole o k := by
  unfold firstWhole
  split <;> omega

theorem lastWhole_le : lastWhole o k ≤ k := by
  unfold lastWhole
  split <;> omega

theorem firstWhole_mono (hle : j ≤ k) : firstWhole o j ≤ firstWhole o k := by
  unfold firstWhole
  split <;> omega

theorem lastWhole_mono (hle : j ≤ k) : lastWhole o j ≤ lastWhole o k := by
  unfold lastWhole
  split <;> omega

theorem firstHalf_inj : firstHalf o j = firstHalf p k ↔ o = p ∧ j = k := by
  cases o <;> cases p <;> simp [firstHalf] <;> omega

theorem lastHalf_inj : lastHalf o j = lastHalf p k ↔ o = p ∧ j = k := by
  cases o <;> cases p <;> simp [lastHalf] <;> omega

theorem firstHalf_le (hlt : k < j) : firstHalf o k ≤ firstHalf p j := by
  unfold firstHalf
  split <;> split <;> omega

theorem le_lastHalf (hlt : j < k) : lastHalf p j ≤ lastHalf o k := by
  unfold lastHalf
  split <;> split <;> omega

/-- Of two lower bounds at one number, one that leaves it out is the greater one. -/
theorem max_firstHalf (hsame : same = true ↔ k = j) (hle : j ≤ k) :
    max (firstHalf o k) (firstHalf p j) = firstHalf (o || same && p) k := by
  cases o <;> cases p <;> cases same <;> simp_all [firstHalf] <;> omega

/-- Of two upper bounds at one number, one that leaves it out is the lesser one. -/
theorem min_lastHalf (hsame : same = true ↔ k = j) (hle : k ≤ j) :
    min (lastHalf o k) (lastHalf p j) = lastHalf (o || same && p) k := by
  cases o <;> cases p <;> cases same <;> simp_all [lastHalf] <;> omega

end Halves

namespace NumberRule

/-- The least half that a lower bound at a whole number admits. -/
inductive StartsAt : NumberRule → Int → Prop
  | gte {n : Number} {k : Int} (h : n.Is k) : StartsAt (.gte n) (firstHalf false k)
  | gt {n : Number} {k : Int} (h : n.Is k) : StartsAt (.gt n) (firstHalf true k)

/-- The greatest half that an upper bound at a whole number admits. -/
inductive EndsAt : NumberRule → Int → Prop
  | lte {n : Number} {k : Int} (h : n.Is k) : EndsAt (.lte n) (lastHalf false k)
  | lt {n : Number} {k : Int} (h : n.Is k) : EndsAt (.lt n) (lastHalf true k)

/-- A rule asks for an integer, or it is a bound at a whole number below `2^53` in magnitude. -/
def IsWhole : NumberRule → Prop
  | .int => True
  | .gte n => ∃ k : Int, n.Is k ∧ k.natAbs < 2 ^ 53
  | .gt n => ∃ k : Int, n.Is k ∧ k.natAbs < 2 ^ 53
  | .lte n => ∃ k : Int, n.Is k ∧ k.natAbs < 2 ^ 53
  | .lt n => ∃ k : Int, n.Is k ∧ k.natAbs < 2 ^ 53
  | .multipleOf _ => False
  | .finite => False

variable {rule : NumberRule} {x : Number} {h s e : Int}

theorem StartsAt.holds_iff (hs : rule.StartsAt s) (hx : x.Halves h) : rule.Holds x ↔ s ≤ h := by
  cases hs with
  | gte hn =>
    rw [Holds, Bool.eq_false_iff, Ne, hx.below hn.halves, not_lt]
    rfl
  | gt hn =>
    rw [Holds, Bool.eq_false_iff, Ne, hx.atMost hn.halves, not_le]
    rfl

theorem EndsAt.holds_iff (he : rule.EndsAt e) (hx : x.Halves h) : rule.Holds x ↔ h ≤ e := by
  cases he with
  | lte hn =>
    rw [Holds, Bool.eq_false_iff, Ne, hn.halves.below hx, not_lt]
    rfl
  | lt hn =>
    rw [Holds, Bool.eq_false_iff, Ne, hn.halves.atMost hx, not_le]
    exact Int.le_sub_one_iff.symm

theorem int_holds_iff (hx : x.Halves h) : NumberRule.int.Holds x ↔ 2 ∣ h := by
  cases x with
  | int n => exact ⟨fun _ => ⟨n, hx.unique (is_int n).halves⟩, fun _ => trivial⟩
  | float d => exact hx.isWhole_iff

theorem IsWhole.cases (hrule : rule.IsWhole) :
    rule = .int ∨ (∃ s, rule.StartsAt s) ∨ ∃ e, rule.EndsAt e := by
  cases rule with
  | int => exact .inl rfl
  | gte n =>
    obtain ⟨k, hk, -⟩ := hrule
    exact .inr (.inl ⟨_, .gte hk⟩)
  | gt n =>
    obtain ⟨k, hk, -⟩ := hrule
    exact .inr (.inl ⟨_, .gt hk⟩)
  | lte n =>
    obtain ⟨k, hk, -⟩ := hrule
    exact .inr (.inr ⟨_, .lte hk⟩)
  | lt n =>
    obtain ⟨k, hk, -⟩ := hrule
    exact .inr (.inr ⟨_, .lt hk⟩)
  | multipleOf n => exact hrule.elim
  | finite => exact hrule.elim

end NumberRule

/-- The halves where the bounds of some rules start or end. -/
def limits (limit : NumberRule → Int → Prop) (rules : List NumberRule) : Set Int :=
  {h | ∃ rule ∈ rules, limit rule h}

section Limits

variable {limit : NumberRule → Int → Prop} {rules : List NumberRule} {rule : NumberRule} {h : Int}

theorem limits_append_of_unique (hlimit : ∀ g, limit rule g ↔ g = h) :
    limits limit (rules ++ [rule]) = insert h (limits limit rules) := by
  ext g
  simp only [limits, List.mem_append, List.mem_singleton, Set.mem_ofPred_eq, Set.mem_insert_iff]
  constructor
  · rintro ⟨r, hr | rfl, hg⟩
    · exact .inr ⟨r, hr, hg⟩
    · exact .inl ((hlimit g).mp hg)
  · rintro (rfl | ⟨r, hr, hg⟩)
    · exact ⟨rule, .inr rfl, (hlimit g).mpr rfl⟩
    · exact ⟨r, .inl hr, hg⟩

theorem limits_append_of_none (hlimit : ∀ g, ¬limit rule g) :
    limits limit (rules ++ [rule]) = limits limit rules := by
  ext g
  simp only [limits, List.mem_append, List.mem_singleton, Set.mem_ofPred_eq]
  constructor
  · rintro ⟨r, hr | rfl, hg⟩
    · exact ⟨r, hr, hg⟩
    · exact absurd hg (hlimit g)
  · rintro ⟨r, hr, hg⟩
    exact ⟨r, .inl hr, hg⟩

end Limits

/-- A number of halves is within the bounds of some rules, and whole if they ask for an integer. -/
def Within (rules : List NumberRule) (h : Int) : Prop :=
  h ∈ upperBounds (limits NumberRule.StartsAt rules) ∧
    h ∈ lowerBounds (limits NumberRule.EndsAt rules) ∧ (NumberRule.int ∈ rules → 2 ∣ h)

/-- Whole rules hold of the halves within their bounds. -/
theorem forall_holds_iff {rules : List NumberRule} (hrules : ∀ rule ∈ rules, rule.IsWhole)
    {x : Number} {h : Int} (hx : x.Halves h) :
    (∀ rule ∈ rules, rule.Holds x) ↔ Within rules h := by
  constructor
  · intro hall
    refine ⟨?_, ?_, fun hint => (NumberRule.int_holds_iff hx).mp (hall _ hint)⟩
    · rintro s ⟨rule, hrule, hs⟩
      exact (hs.holds_iff hx).mp (hall rule hrule)
    · rintro e ⟨rule, hrule, he⟩
      exact (he.holds_iff hx).mp (hall rule hrule)
  · rintro ⟨hstarts, hends, hint⟩ rule hrule
    obtain rfl | ⟨s, hs⟩ | ⟨e, he⟩ := (hrules rule hrule).cases
    · exact (NumberRule.int_holds_iff hx).mpr (hint hrule)
    · exact (hs.holds_iff hx).mpr (hstarts ⟨rule, hrule, hs⟩)
    · exact (he.holds_iff hx).mpr (hends ⟨rule, hrule, he⟩)

namespace NumberPlan

/-- The lower bound of a plan is the greatest one of some rules; without one there is none. -/
def LowerOf (plan : NumberPlan) (rules : List NumberRule) : Option Int → Prop
  | none => plan.lower = .float (.infinite true) ∧ plan.lowerOpen = false ∧
      limits NumberRule.StartsAt rules = ∅
  | some k => plan.lower.Is k ∧ k.natAbs < 2 ^ 53 ∧
      IsGreatest (limits NumberRule.StartsAt rules) (firstHalf plan.lowerOpen k)

/-- The upper bound of a plan is the least one of some rules; without one there is none. -/
def UpperOf (plan : NumberPlan) (rules : List NumberRule) : Option Int → Prop
  | none => plan.upper = .float (.infinite false) ∧ plan.upperOpen = false ∧
      limits NumberRule.EndsAt rules = ∅
  | some k => plan.upper.Is k ∧ k.natAbs < 2 ^ 53 ∧
      IsLeast (limits NumberRule.EndsAt rules) (lastHalf plan.upperOpen k)

/-- A plan has the tightest bounds of some rules and no step. -/
structure Fits (plan : NumberPlan) (rules : List NumberRule) : Prop where
  lower : ∃ low, plan.LowerOf rules low
  upper : ∃ high, plan.UpperOf rules high
  step : plan.step = none

variable {plan : NumberPlan} {rules : List NumberRule} {rule : NumberRule} {n : Number} {k : Int}
  {low high : Option Int}

theorem LowerOf.congr {plan' : NumberPlan} {rules' : List NumberRule}
    (hlow : plan.LowerOf rules low) (hlower : plan'.lower = plan.lower)
    (hopen : plan'.lowerOpen = plan.lowerOpen)
    (hlimits : limits NumberRule.StartsAt rules' = limits NumberRule.StartsAt rules) :
    plan'.LowerOf rules' low := by
  unfold LowerOf
  rw [hlower, hopen, hlimits]
  exact hlow

theorem UpperOf.congr {plan' : NumberPlan} {rules' : List NumberRule}
    (hhigh : plan.UpperOf rules high) (hupper : plan'.upper = plan.upper)
    (hopen : plan'.upperOpen = plan.upperOpen)
    (hlimits : limits NumberRule.EndsAt rules' = limits NumberRule.EndsAt rules) :
    plan'.UpperOf rules' high := by
  unfold UpperOf
  rw [hupper, hopen, hlimits]
  exact hhigh

/-- A lower bound leaves the upper one as it is. -/
theorem atLeast_frame (plan : NumberPlan) (n : Number) (isOpen : Bool) :
    (plan.atLeast n isOpen).upper = plan.upper ∧
      (plan.atLeast n isOpen).upperOpen = plan.upperOpen ∧
      (plan.atLeast n isOpen).step = plan.step := by
  unfold atLeast
  split <;> exact ⟨rfl, rfl, rfl⟩

/-- An upper bound leaves the lower one as it is. -/
theorem atMost_frame (plan : NumberPlan) (n : Number) (isOpen : Bool) :
    (plan.atMost n isOpen).lower = plan.lower ∧
      (plan.atMost n isOpen).lowerOpen = plan.lowerOpen ∧
      (plan.atMost n isOpen).step = plan.step := by
  unfold atMost
  split <;> exact ⟨rfl, rfl, rfl⟩

/-- The greatest lower bound is kept. -/
theorem Fits.atLeast (hplan : plan.Fits rules) (hn : n.Is k) (hk : k.natAbs < 2 ^ 53)
    {isOpen : Bool} (hstarts : ∀ g, rule.StartsAt g ↔ g = firstHalf isOpen k)
    (hends : ∀ g, ¬rule.EndsAt g) : (plan.atLeast n isOpen).Fits (rules ++ [rule]) := by
  obtain ⟨⟨low, hlow⟩, ⟨high, hhigh⟩, hstep⟩ := hplan
  obtain ⟨hupper, hopen, hstep'⟩ := atLeast_frame plan n isOpen
  refine ⟨?_, ⟨high, hhigh.congr hupper hopen (limits_append_of_none hends)⟩, hstep'.trans hstep⟩
  unfold LowerOf
  rw [limits_append_of_unique hstarts]
  cases low with
  | none =>
    obtain ⟨hlower, hopen, hnone⟩ := hlow
    refine ⟨some k, ?_⟩
    rw [NumberPlan.atLeast, if_pos (hlower ▸ hn.infinite_atMost), hopen, Bool.and_false,
      Bool.or_false, hnone, insert_empty_eq]
    exact ⟨hn, hk, isGreatest_singleton⟩
  | some j =>
    obtain ⟨hlower, hj, hgreatest⟩ := hlow
    have hinsert := hgreatest.insert (firstHalf isOpen k)
    unfold NumberPlan.atLeast
    by_cases hle : j ≤ k
    · rw [if_pos ((hlower.atMost hn).mpr hle)]
      refine ⟨some k, hn, hk, ?_⟩
      rwa [max_firstHalf (hn.same hlower) hle] at hinsert
    · rw [if_neg (mt (hlower.atMost hn).mp hle)]
      refine ⟨some j, hlower, hj, ?_⟩
      rwa [max_eq_right (firstHalf_le (not_le.mp hle))] at hinsert

/-- The least upper bound is kept. -/
theorem Fits.atMost (hplan : plan.Fits rules) (hn : n.Is k) (hk : k.natAbs < 2 ^ 53)
    {isOpen : Bool} (hends : ∀ g, rule.EndsAt g ↔ g = lastHalf isOpen k)
    (hstarts : ∀ g, ¬rule.StartsAt g) : (plan.atMost n isOpen).Fits (rules ++ [rule]) := by
  obtain ⟨⟨low, hlow⟩, ⟨high, hhigh⟩, hstep⟩ := hplan
  obtain ⟨hlower, hopen, hstep'⟩ := atMost_frame plan n isOpen
  refine ⟨⟨low, hlow.congr hlower hopen (limits_append_of_none hstarts)⟩, ?_, hstep'.trans hstep⟩
  unfold UpperOf
  rw [limits_append_of_unique hends]
  cases high with
  | none =>
    obtain ⟨hupper, hopen, hnone⟩ := hhigh
    refine ⟨some k, ?_⟩
    rw [NumberPlan.atMost, if_pos (hupper ▸ hn.atMost_infinite), hopen, Bool.and_false,
      Bool.or_false, hnone, insert_empty_eq]
    exact ⟨hn, hk, isLeast_singleton⟩
  | some j =>
    obtain ⟨hupper, hj, hleast⟩ := hhigh
    have hinsert := hleast.insert (lastHalf isOpen k)
    unfold NumberPlan.atMost
    by_cases hle : k ≤ j
    · rw [if_pos ((hn.atMost hupper).mpr hle)]
      refine ⟨some k, hn, hk, ?_⟩
      rwa [min_lastHalf (hn.same hupper) hle] at hinsert
    · rw [if_neg (mt (hn.atMost hupper).mp hle)]
      refine ⟨some j, hupper, hj, ?_⟩
      rwa [min_eq_right (le_lastHalf (not_le.mp hle))] at hinsert

/-- A plan fits one more whole rule. -/
theorem Fits.add (hplan : plan.Fits rules) (hrule : rule.IsWhole) :
    (plan.add rule).Fits (rules ++ [rule]) := by
  cases rule with
  | gte n =>
    obtain ⟨k, hn, hk⟩ := hrule
    refine hplan.atLeast hn hk (fun g => ⟨fun hg => ?_, fun hg => hg ▸ .gte hn⟩) nofun
    cases hg with
    | gte hm => rw [hm.unique hn]
  | gt n =>
    obtain ⟨k, hn, hk⟩ := hrule
    refine hplan.atLeast hn hk (fun g => ⟨fun hg => ?_, fun hg => hg ▸ .gt hn⟩) nofun
    cases hg with
    | gt hm => rw [hm.unique hn]
  | lte n =>
    obtain ⟨k, hn, hk⟩ := hrule
    refine hplan.atMost hn hk (fun g => ⟨fun hg => ?_, fun hg => hg ▸ .lte hn⟩) nofun
    cases hg with
    | lte hm => rw [hm.unique hn]
  | lt n =>
    obtain ⟨k, hn, hk⟩ := hrule
    refine hplan.atMost hn hk (fun g => ⟨fun hg => ?_, fun hg => hg ▸ .lt hn⟩) nofun
    cases hg with
    | lt hm => rw [hm.unique hn]
  | int =>
    obtain ⟨⟨low, hlow⟩, ⟨high, hhigh⟩, hstep⟩ := hplan
    exact ⟨⟨low, hlow.congr rfl rfl (limits_append_of_none nofun)⟩,
      ⟨high, hhigh.congr rfl rfl (limits_append_of_none nofun)⟩, hstep⟩
  | multipleOf n => exact hrule.elim
  | finite => exact hrule.elim

theorem fits_nil : NumberPlan.Fits {} [] where
  lower := ⟨none, rfl, rfl, by simp [limits]⟩
  upper := ⟨none, rfl, rfl, by simp [limits]⟩
  step := rfl

/-- The plan that some whole rules are folded into fits them. -/
theorem fits_foldl {checks : List (Check NumberRule)} (hplan : plan.Fits rules)
    (hrules : ∀ check ∈ checks, check.rule.IsWhole) :
    (checks.foldl (fun plan check => plan.add check.rule) plan).Fits
      (rules ++ checks.map Check.rule) := by
  induction checks generalizing plan rules with
  | nil => rwa [List.map_nil, List.append_nil]
  | cons check checks ih =>
    rw [List.forall_mem_cons] at hrules
    rw [List.foldl_cons, List.map_cons, List.append_cons]
    exact ih (hplan.add hrules.1) hrules.2

section Bounds

variable (hlow : plan.LowerOf rules low) (hhigh : plan.UpperOf rules high)
include hlow hhigh

/-- What is within some rules is within the bounds of their plan. -/
theorem within_iff {h : Int} :
    Within rules h ↔ (∀ k ∈ low, firstHalf plan.lowerOpen k ≤ h) ∧
      (∀ k ∈ high, h ≤ lastHalf plan.upperOpen k) ∧ (NumberRule.int ∈ rules → 2 ∣ h) := by
  have hstarts : h ∈ upperBounds (limits NumberRule.StartsAt rules) ↔
      ∀ k ∈ low, firstHalf plan.lowerOpen k ≤ h := by
    cases low with
    | none => simp [hlow.2.2]
    | some k =>
      simp only [Option.mem_some_iff, forall_eq']
      exact (isLUB_le_iff hlow.2.2.isLUB).symm
  have hends : h ∈ lowerBounds (limits NumberRule.EndsAt rules) ↔
      ∀ k ∈ high, h ≤ lastHalf plan.upperOpen k := by
    cases high with
    | none => simp [hhigh.2.2]
    | some k =>
      simp only [Option.mem_some_iff, forall_eq']
      exact (le_isGLB_iff hhigh.2.2.isGLB).symm
  rw [Within, hstarts, hends]

theorem within_integer_iff {m : Int} :
    Within rules (2 * m) ↔ (∀ k ∈ low, firstWhole plan.lowerOpen k ≤ m) ∧
      ∀ k ∈ high, m ≤ lastWhole plan.upperOpen k := by
  rw [within_iff hlow hhigh]
  simp only [firstHalf_le_iff, le_lastHalf_iff, Int.dvd_mul_right, implies_true, and_true]

end Bounds

section Steps

variable {before behind checks : List (Check NumberRule)} {step : Number} {message : Option Text}

theorem atLeast_withStep (plan : NumberPlan) (step : Option Number) (bound : Number)
    (isOpen : Bool) : ({ plan with step := step } : NumberPlan).atLeast bound isOpen =
      { plan.atLeast bound isOpen with step := step } := by
  unfold atLeast
  dsimp only
  split <;> rfl

theorem atMost_withStep (plan : NumberPlan) (step : Option Number) (bound : Number)
    (isOpen : Bool) : ({ plan with step := step } : NumberPlan).atMost bound isOpen =
      { plan.atMost bound isOpen with step := step } := by
  unfold atMost
  dsimp only
  split <;> rfl

/-- A whole rule leaves the step of a plan as it is. -/
theorem add_withStep {rule : NumberRule} (hrule : rule.IsWhole) (plan : NumberPlan)
    (step : Option Number) :
    ({ plan with step := step } : NumberPlan).add rule = { plan.add rule with step := step } := by
  cases rule with
  | int => rfl
  | gte n => exact plan.atLeast_withStep step n false
  | gt n => exact plan.atLeast_withStep step n true
  | lte n => exact plan.atMost_withStep step n false
  | lt n => exact plan.atMost_withStep step n true
  | multipleOf n => exact hrule.elim
  | finite => exact hrule.elim

theorem foldl_withStep (hrules : ∀ check ∈ checks, check.rule.IsWhole)
    (plan : NumberPlan) (step : Option Number) :
    checks.foldl (fun plan check => plan.add check.rule) { plan with step := step } =
      { checks.foldl (fun plan check => plan.add check.rule) plan with step := step } := by
  induction checks generalizing plan with
  | nil => rfl
  | cons check checks ih =>
    rw [List.forall_mem_cons] at hrules
    rw [List.foldl_cons, List.foldl_cons, add_withStep hrules.1, ih hrules.2]

/-- The plan of bounds around a step is that of the bounds, with the step. -/
theorem foldl_multipleOf (hrules : ∀ check ∈ before ++ behind, check.rule.IsWhole) :
    (before ++ ⟨.multipleOf step, message⟩ :: behind).foldl (fun plan check => plan.add check.rule)
        ({} : NumberPlan) =
      { (before ++ behind).foldl (fun plan check => plan.add check.rule) ({} : NumberPlan) with
        step := some step } := by
  rw [List.forall_mem_append] at hrules
  have hstep := (fits_foldl fits_nil hrules.1).step
  rw [List.foldl_append, List.foldl_append, List.foldl_cons, ← foldl_withStep hrules.2]
  generalize before.foldl (fun plan check => plan.add check.rule) ({} : NumberPlan) = plan at hstep
  rw [add, hstep]

end Steps

end NumberPlan

end Conform
