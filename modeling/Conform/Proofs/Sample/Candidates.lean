import Conform.Proofs.Number.Written
import Conform.Proofs.Sample.Numbers
import Conform.Proofs.Sample.Plans

/-!
# Candidates for a multiple

Where a number must be a multiple of a whole step, a factor is drawn whose multiple is in the range.
If a bound leaves this multiple out, the factors next to the ends of the range stand in for it. One
of them is admitted as soon as any multiple is.

## Main definitions

- `FirstOf`, `Picks` — the factor that is taken from a range
- `Picks.admitted` — it is an admitted one if there is one
- `multiple_is` — the multiples of a whole step
- `NumberPlan.AdmitsMultiple` — the bounds of a plan admit the multiple of a step
- `NumberPlan.firstMultiple_firstOf`, `NumberPlan.always_sampleMultiple` — the multiple that is
  taken
-/

namespace Conform

open Drawing Number Double

/-- The first of some candidates with a property, or else the last one, or else a given one. -/
inductive FirstOf (admitted : Int → Prop) : Int → List Int → Int → Prop
  | last (k : Int) : FirstOf admitted k [] k
  | found {k j : Int} {js : List Int} (hj : admitted j) : FirstOf admitted k (j :: js) j
  | next {k j c : Int} {js : List Int} (hj : ¬admitted j) (hc : FirstOf admitted j js c) :
      FirstOf admitted k (j :: js) c

/-- The factor that is taken from a range: a drawn one, the one behind the first or the one in front
of the last, whichever is admitted first. An empty range gives the factor where it would start. -/
def Picks (admitted : Int → Prop) (first last c : Int) : Prop :=
  (first ≤ last ∧ ∃ k, first ≤ k ∧ k ≤ last ∧ FirstOf admitted 0 [k, first + 1, last - 1] c) ∨
    (last < first ∧ c = first)

theorem Picks.eq_first {admitted : Int → Prop} {first last c : Int}
    (h : Picks admitted first last c) (hlt : last < first) : c = first := by
  rcases h with ⟨hle, -⟩ | ⟨-, hc⟩
  · exact absurd hlt (not_lt.mpr hle)
  · exact hc

/-- If the neighbours of the ends are admitted on the side of their end, an admitted factor is taken
as soon as there is one. It is in the range, or next to an end that is left out. -/
theorem Picks.admitted {lower upper : Int → Prop} {first last c : Int}
    (h : Picks (fun k => lower k ∧ upper k) first last c)
    (hlower : ∀ ⦃j k⦄, j ≤ k → lower j → lower k) (hupper : ∀ ⦃j k⦄, j ≤ k → upper k → upper j)
    (hfirst : lower (first + 1)) (hlast : upper (last - 1)) (hsat : ∃ m, lower m ∧ upper m)
    (hle : first ≤ last) :
    (lower c ∧ upper c) ∧ (first ≤ c ∧ c ≤ last ∨ c = first + 1 ∧ ¬lower first ∨
      c = last - 1 ∧ ¬upper last) := by
  obtain ⟨m, hm, hm'⟩ := hsat
  rcases h with ⟨-, k, hfirst_le, hle_last, hc⟩ | ⟨hlt, -⟩
  swap
  · exact absurd hle (not_le.mpr hlt)
  cases hc with
  | found hk => exact ⟨hk, .inl ⟨hfirst_le, hle_last⟩⟩
  | next hk hc =>
    by_cases hlow : lower k
    · -- The drawn factor is the last one, and so its multiple is the end of the range.
      have hend : ¬upper k := fun hupp => hk ⟨hlow, hupp⟩
      obtain rfl : k = last := by
        by_contra hne
        exact hend (hupper (by omega) hlast)
      cases hc with
      | found hsecond =>
        have hlt : first + 1 ≤ k := by
          by_contra hgt
          exact hend (hupper (by omega) hsecond.2)
        exact ⟨hsecond, .inl ⟨by omega, hlt⟩⟩
      | next _ hc =>
        have hbefore : lower (k - 1) ∧ upper (k - 1) := by
          refine ⟨hlower ?_ hm, hlast⟩
          by_contra hgt
          exact hend (hupper (by omega) hm')
        cases hc with
        | found => exact ⟨hbefore, .inr (.inr ⟨rfl, hend⟩)⟩
        | next hnot => exact absurd hbefore hnot
    · -- It is the first one, and so the factor behind it is admitted.
      obtain rfl : k = first := by
        by_contra hne
        exact hlow (hlower (by omega) hfirst)
      have hbehind : lower (k + 1) ∧ upper (k + 1) := by
        refine ⟨hfirst, hupper ?_ hm'⟩
        by_contra hgt
        exact hlow (hlower (by omega) hm)
      cases hc with
      | found => exact ⟨hbehind, .inr (.inl ⟨rfl, hlow⟩)⟩
      | next hnot => exact absurd hbehind hnot

section Multiples

variable {step x y z : Number} {s k n v : Int}

/-- The multiple of a whole step is a whole number, and exact if it is short. -/
theorem multiple_is (hstep : step.Is s) (hpos : 0 < s) (hshort : s < 2 ^ 53)
    (hk : k.natAbs ≤ 2 ^ 55) :
    ∃ z v, multiple k step 0 = .ok z ∧ z.Is v ∧ Rounds (k * s) v := by
  obtain ⟨d, j, hd, hdunits, hrounds, hj⟩ := nearest_int (by decide) hk
  obtain ⟨e, he, heunits⟩ := hstep.nearest (by omega)
  rcases combine_cases (· * ·) Double.mul hd he with ⟨m, n, hm, rfl⟩ | hmul
  · cases hm
    obtain rfl := (is_int n).unique hstep
    exact ⟨.int (k * n), k * n, rfl, is_int _, .inl rfl⟩
  · obtain ⟨v, hv, hproduct⟩ := exists_roundedInt (j * s)
    have hbound : (j * s).natAbs ≤ 2 ^ 110 := by
      rw [Int.natAbs_mul]
      exact (Nat.mul_le_mul hj (by omega : s.natAbs ≤ 2 ^ 53)).trans (by decide)
    have hunits := mul_units? hdunits heunits hbound
    rw [hv] at hunits
    have hmultiple : multiple k step 0 = .ok (.float ((d.mul e).roundPlaces 0)) := by
      unfold multiple
      rw [show (Number.int k).mul step = .ok (.float (d.mul e)) from hmul]
      rfl
    rw [roundPlaces_whole hunits] at hmultiple
    exact ⟨_, v, hmultiple, exactValue?_float_iff.mpr hunits, (hrounds.mul hpos).trans hproduct⟩

theorem factors?_eq {first last l f : Int} (hx : x.Factors step first l)
    (hy : y.Factors step f last) : factors? step x y = .ok (some (first, last)) := by
  obtain ⟨d, hd, hfirst, -⟩ := hx
  obtain ⟨e, he, -, hlast⟩ := hy
  unfold factors?
  simp only [hd, hfirst, he, hlast, bind, Except.bind, pure, Except.pure]

end Multiples

namespace NumberPlan

/-- An integer is not below what the lower bound of a plan admits. -/
def From (plan : NumberPlan) (low : Option Int) (n : Int) : Prop :=
  ∀ k ∈ low, firstWhole plan.lowerOpen k ≤ n

/-- An integer is not above what the upper bound of a plan admits. -/
def UpTo (plan : NumberPlan) (high : Option Int) (n : Int) : Prop :=
  ∀ k ∈ high, n ≤ lastWhole plan.upperOpen k

/-- The bounds of a plan admit the multiple of a step. -/
def AdmitsMultiple (plan : NumberPlan) (low high : Option Int) (s k : Int) : Prop :=
  plan.From low (k * s) ∧ plan.UpTo high (k * s)

section Admitted

variable {plan : NumberPlan} {low high : Option Int} {s first last c : Int}

theorem From.mono {m n : Int} (h : plan.From low m) (hle : m ≤ n) : plan.From low n :=
  fun k hk => (h k hk).trans hle

theorem UpTo.mono {m n : Int} (h : plan.UpTo high n) (hle : m ≤ n) : plan.UpTo high m :=
  fun k hk => hle.trans (h k hk)

/-- A number above all lower bounds is admitted by them. -/
theorem from_of_lt {n : Int} (h : ∀ k ∈ low, k < n) : plan.From low n := by
  intro k hk
  have hlt := h k hk
  unfold firstWhole
  split <;> omega

theorem upTo_of_lt {n : Int} (h : ∀ k ∈ high, n < k) : plan.UpTo high n := by
  intro k hk
  have hlt := h k hk
  unfold lastWhole
  split <;> omega

/-- From a range that begins at a lower bound and ends at an upper one, an admitted multiple is
taken as soon as there is one. -/
theorem picks_admitted (hpos : 0 < s) (hlow_le : ∀ i ∈ low, i ≤ first * s)
    (hle_high : ∀ i ∈ high, last * s ≤ i) (hsat : ∃ m, plan.AdmitsMultiple low high s m)
    (hle : first ≤ last)
    (hc : Picks (plan.AdmitsMultiple low high s) first last c) :
    plan.AdmitsMultiple low high s c ∧
      (first ≤ c ∧ c ≤ last ∨ c = first + 1 ∧ ¬plan.From low (first * s) ∨
        c = last - 1 ∧ ¬plan.UpTo high (last * s)) := by
  have hmono {m n : Int} (h : m ≤ n) : m * s ≤ n * s := Int.mul_le_mul_of_nonneg_right h hpos.le
  refine @Picks.admitted (fun k => plan.From low (k * s)) (fun k => plan.UpTo high (k * s)) first
    last c hc (fun m n h hm => hm.mono (hmono h)) (fun m n h hn => hn.mono (hmono h))
    (from_of_lt fun i hi => ?_) (upTo_of_lt fun i hi => ?_) hsat hle
  · have hi := hlow_le i hi
    rw [Int.add_mul]
    omega
  · have hi := hle_high i hi
    rw [Int.sub_mul]
    omega

end Admitted

variable {plan : NumberPlan} {rules : List NumberRule} {low high : Option Int} {n v : Int}
  (hlow : plan.LowerOf rules low) (hhigh : plan.UpperOf rules high)
include hlow hhigh

theorem admits_iff {z : Number} (hz : z.Is v) :
    plan.admits z = true ↔ plan.From low v ∧ plan.UpTo high v := by
  unfold admits
  rw [Bool.and_eq_true]
  refine and_congr ?_ ?_
  · cases low with
    | none => simp [From, hlow.1, hlow.2.1, hz.infinite_atMost]
    | some k =>
      have hbelow := hlow.1.below hz
      have hmost := hlow.1.atMost hz
      cases hopen : plan.lowerOpen with
      | false => simp [From, firstWhole, hopen, hmost]
      | true =>
        simp only [From, firstWhole, hopen, hbelow, if_true, Option.mem_some_iff, forall_eq']
        omega
  · cases high with
    | none => simp [UpTo, hhigh.1, hhigh.2.1, hz.atMost_infinite]
    | some k =>
      have hbelow := hz.below hhigh.1
      have hmost := hz.atMost hhigh.1
      cases hopen : plan.upperOpen with
      | false => simp [UpTo, lastWhole, hopen, hmost]
      | true =>
        simp only [UpTo, lastWhole, hopen, hbelow, if_true, Option.mem_some_iff, forall_eq']
        omega

/-- A bound admits a whole number if it admits what rounding makes of it. -/
theorem admits_rounds (h : Rounds n v) :
    plan.From low v ∧ plan.UpTo high v ↔ plan.From low n ∧ plan.UpTo high n := by
  refine and_congr (forall_congr' fun k => forall_congr' fun hk => ?_)
    (forall_congr' fun k => forall_congr' fun hk => ?_)
  · cases hk
    have hshort := hlow.2.1
    unfold firstWhole
    unfold Rounds at h
    split <;> omega
  · cases hk
    have hshort := hhigh.2.1
    unfold lastWhole
    unfold Rounds at h
    split <;> omega

section Candidates

variable {step : Number} {s : Int} (hstep : step.Is s) (hpos : 0 < s) (hshort : s < 2 ^ 53)
include hstep hpos hshort

/-- Of some candidates the multiple of the first admitted one is taken. -/
theorem firstMultiple_firstOf {ks : List Int} (hks : ∀ k ∈ ks, k.natAbs ≤ 2 ^ 55) {last : Number}
    {k : Int} (hlast : last.Is v) (hrounds : Rounds (k * s) v) :
    ∃ z c v, firstMultiple plan step 0 last ks = .ok z ∧ z.Is v ∧ Rounds (c * s) v ∧
      FirstOf (plan.AdmitsMultiple low high s) k ks c := by
  induction ks generalizing last k v with
  | nil => exact ⟨last, k, v, rfl, hlast, hrounds, .last k⟩
  | cons j js ih =>
    rw [List.forall_mem_cons] at hks
    obtain ⟨z, w, hz, hw, hmultiple⟩ := multiple_is hstep hpos hshort hks.1
    have hadmits := (admits_iff hlow hhigh hw).trans (admits_rounds hlow hhigh hmultiple)
    have hfirst : firstMultiple plan step 0 last (j :: js) =
        if plan.admits z then .ok z else firstMultiple plan step 0 z js := by
      rw [firstMultiple, hz]
      rfl
    rw [hfirst]
    by_cases hj : plan.admits z = true
    · rw [if_pos hj]
      exact ⟨z, j, w, rfl, hw, hmultiple, .found (hadmits.mp hj)⟩
    · rw [if_neg hj]
      obtain ⟨z', c, v', hrest, hv', hrounds', hc⟩ := ih hks.2 hw hmultiple
      exact ⟨z', c, v', hrest, hv', hrounds', .next (mt hadmits.mpr hj) hc⟩

/-- From a range of factors one is taken, and its multiple is the sample, as an integer. -/
theorem always_sampleMultiple {S : Type} {x y : Number} {first last l f : Int}
    (hx : x.Factors step first l) (hy : y.Factors step f last) (hfirst : first.natAbs ≤ 2 ^ 54)
    (hlast : last.natAbs ≤ 2 ^ 54) :
    Always (sampleMultiple plan step x y : Sampling S Number) fun z => ∃ c v, z = .int v ∧
      Rounds (c * s) v ∧ Picks (plan.AdmitsMultiple low high s) first last c := by
  obtain ⟨e, he, hunits⟩ := hstep.nearest (by omega)
  -- Whatever the candidates are, the multiple of one of them is taken.
  have hvalue {ks : List Int} {z : Number} {c v : Int}
      (hz : firstMultiple plan step 0 (.int 0) ks = .ok z) (hv : z.Is v)
      (hrounds : Rounds (c * s) v) (hc : Picks (plan.AdmitsMultiple low high s) first last c) :
      Always (do
        let value ← Sampling.lift (firstMultiple plan step 0 (.int 0) ks)
        if 0 = 0 then return Number.int (← Sampling.lift value.truncate) else return value :
          Sampling S Number) fun z => ∃ c v, z = .int v ∧ Rounds (c * s) v ∧
        Picks (plan.AdmitsMultiple low high s) first last c := by
    refine (always_lift ⟨z, hz, rfl⟩).bind fun z' heq => ?_
    subst heq
    rw [if_pos rfl]
    exact (always_lift ⟨v, hv.truncate, rfl⟩).map fun v' heq => ⟨c, v, by rw [heq], hrounds, hc⟩
  refine (always_lift ⟨e, he, rfl⟩).bind fun e' heq => ?_
  subst heq
  rw [decimalPlaces_whole hunits (by omega)]
  refine (always_lift ⟨_, factors?_eq hx hy, rfl⟩).bind fun found heq => ?_
  subst heq
  simp only
  split
  · rename_i hle
    refine (always_between hle).bind fun k hk => (always_pure rfl).bind fun ks heq => ?_
    subst heq
    have hks : ∀ j ∈ [k, first + 1, last - 1], j.natAbs ≤ 2 ^ 55 := by
      simp only [List.forall_mem_cons, List.not_mem_nil, false_imp_iff, implies_true, and_true]
      omega
    obtain ⟨z, c, v, hz, hv, hrounds, hc⟩ := firstMultiple_firstOf hlow hhigh hstep hpos hshort hks
      (is_int 0) (.inl (Int.zero_mul s).symm)
    exact hvalue hz hv hrounds (.inl ⟨hle, k, hk.1, hk.2, hc⟩)
  · rename_i hlt
    refine (always_pure rfl).bind fun ks heq => ?_
    subst heq
    obtain ⟨z, v, hz, hv, hrounds⟩ := multiple_is hstep hpos hshort (k := first) (by omega)
    refine hvalue ?_ hv hrounds (.inr ⟨not_le.mp hlt, rfl⟩)
    rw [firstMultiple, hz]
    exact ite_self _

end Candidates

end NumberPlan

end Conform
