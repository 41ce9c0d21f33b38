import Conform.Proofs.Checking.Refinement
import Conform.Proofs.Random.Drawing
import Conform.Sample.Leaves

/-!
# Samples of texts

Lengths that are clamped to rules which can be obeyed do obey them, and so do the lengths of texts,
whatever is drawn.

## Main definitions

- `LengthBounds.Admits`, `LengthBounds.clamp_holds` — clamped lengths obey the rules
- `StringRule.ofLength` — rules of strings about nothing but the length
- `always_sampleText` — texts for such rules
-/

namespace Conform

open Drawing

variable {S : Type}

namespace LengthBounds

variable {b : LengthBounds} {rules : List LengthRule} {size : Nat}

/-- A length is within the bounds. -/
def Admits (b : LengthBounds) (size : Nat) : Prop := b.lower ≤ size ∧ ∀ m ∈ b.upper, size ≤ m

/-- Bounds that admit any length admit clamped ones. -/
theorem clamp_admits (h : b.Admits size) (n : Nat) : b.Admits (b.clamp n) := by
  obtain ⟨lower, upper⟩ := b
  obtain ⟨hlower, hupper⟩ := h
  cases upper with
  | none =>
    refine ⟨?_, fun m hm => absurd hm (Option.not_mem_none m)⟩
    simp only [clamp]
    omega
  | some m =>
    have hm : size ≤ m := hupper m rfl
    refine ⟨?_, fun k hk => ?_⟩
    · simp only [clamp] at hlower ⊢
      omega
    · obtain rfl : m = k := Option.some.inj hk
      simp only [clamp]
      omega

/-- As long as some length obeys the rules, the bounds under one more rule admit what the bounds
admit and the rule allows. -/
theorem add_admits {rule : LengthRule} (hb : b.Admits size) (h : rule.Holds size) :
    (b.add rule).Admits size ∧ ∀ n, (b.add rule).Admits n → b.Admits n ∧ rule.Holds n := by
  obtain ⟨lower, upper⟩ := b
  obtain ⟨hlower, hupper⟩ := hb
  cases rule with
  | min k =>
    simp only [LengthRule.Holds, add, Admits] at *
    refine ⟨⟨by omega, hupper⟩, fun n hn => ⟨⟨by omega, hn.2⟩, by omega⟩⟩
  | max k =>
    simp only [LengthRule.Holds, add, Admits] at *
    cases upper with
    | none =>
      simp only [Option.mem_def, Option.some.injEq, forall_eq'] at *
      exact ⟨⟨hlower, h⟩, fun n hn => ⟨⟨hn.1, fun m hm => absurd hm (Option.not_mem_none m)⟩, hn.2⟩⟩
    | some m =>
      simp only [Option.mem_def, Option.some.injEq, forall_eq'] at *
      exact ⟨⟨hlower, by omega⟩, fun n hn => ⟨⟨hn.1, by omega⟩, by omega⟩⟩
  | length k =>
    obtain rfl : size = k := h
    refine ⟨⟨Nat.le_refl _, fun m hm => ?_⟩, fun n hn => ?_⟩
    · obtain rfl : size = m := Option.some.inj hm
      exact Nat.le_refl _
    · -- Only this one length is left, so the rules before are obeyed as well.
      obtain rfl : n = size := Nat.le_antisymm (hn.2 _ rfl) hn.1
      exact ⟨⟨hlower, hupper⟩, rfl⟩

theorem foldl_add_admits (hb : b.Admits size) (h : ∀ rule ∈ rules, rule.Holds size) :
    (rules.foldl add b).Admits size ∧
      ∀ n, (rules.foldl add b).Admits n → b.Admits n ∧ ∀ rule ∈ rules, rule.Holds n := by
  induction rules generalizing b with
  | nil => exact ⟨hb, fun n hn => ⟨hn, fun rule hrule => absurd hrule List.not_mem_nil⟩⟩
  | cons rule rules ih =>
    rw [List.forall_mem_cons] at h
    obtain ⟨hadd, hold⟩ := add_admits hb h.1
    obtain ⟨hall, hrest⟩ := ih hadd h.2
    refine ⟨hall, fun n hn => ?_⟩
    obtain ⟨hn, hrules⟩ := hrest n hn
    exact ⟨(hold n hn).1, List.forall_mem_cons.mpr ⟨(hold n hn).2, hrules⟩⟩

/-- If the rules can be obeyed, every clamped length obeys them. -/
theorem clamp_holds (h : ∃ size, ∀ rule ∈ rules, rule.Holds size) (n : Nat) :
    ∀ rule ∈ rules, rule.Holds ((rules.foldl add {}).clamp n) := by
  obtain ⟨size, hsize⟩ := h
  have hfree : ({} : LengthBounds).Admits size :=
    ⟨Nat.zero_le _, fun m hm => absurd hm (Option.not_mem_none m)⟩
  obtain ⟨hall, hrules⟩ := foldl_add_admits hfree hsize
  exact (hrules _ (clamp_admits hall n)).2

end LengthBounds

/-- A rule of strings about nothing but the length. -/
def StringRule.ofLength : LengthRule → StringRule
  | .min n => .min n
  | .max n => .max n
  | .length n => .length n

variable {checks : List (Check StringRule)} {rules : List LengthRule}

theorem StringRule.holds_ofLength (rule : LengthRule) (t : Text) :
    (StringRule.ofLength rule).Holds t ↔ rule.Holds t.length := by
  cases rule <;> exact Iff.rfl

theorem StringRule.transform_ofLength (rule : LengthRule) (t : Text) :
    (StringRule.ofLength rule).transform t = t := by
  cases rule <;> rfl

theorem TextPlan.add_ofLength (plan : TextPlan) (rule : LengthRule) :
    (plan.add (.ofLength rule) : Sampling S TextPlan) =
      pure { plan with bounds := plan.bounds.add rule } := by
  cases rule <;> rfl

theorem always_sampleLetter (alphabet : Text) :
    Always (sampleLetter alphabet : Sampling S CodePoint) fun c => alphabet ≠ [] → c ∈ alphabet := by
  cases alphabet with
  | nil => exact always_pure fun hne => absurd rfl hne
  | cons c cs => exact (always_pick c cs).mono fun d hd _ => hd

/-- Words have the length that is asked for and are written in their alphabet. -/
theorem always_sampleWord_mem {alphabet : Text} (hne : alphabet ≠ []) (length : Nat) :
    Always (sampleWord alphabet length : Sampling S Text) fun t =>
      t.length = length ∧ ∀ c ∈ t, c ∈ alphabet :=
  ((always_sampleLetter alphabet).mono fun _ hc => hc hne).times length

theorem always_sampleWord (alphabet : Text) (length : Nat) :
    Always (sampleWord alphabet length : Sampling S Text) fun t => t.length = length :=
  ((always_sampleLetter alphabet).times length).mono fun _ h => h.1

end Conform
