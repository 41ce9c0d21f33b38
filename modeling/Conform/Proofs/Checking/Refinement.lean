import Conform.Proofs.Checking.Walk
import Conform.Proofs.Number.Order
import Mathlib.Data.List.Infix

/-!
# Refinements

What the rules of strings, numbers and arrays ask for, told without messages. A rule finds fault
exactly with what does not obey it.

## Main definitions

- `LengthRule.Holds`, `StringRule.Holds`, `NumberRule.Holds` — a rule is obeyed
- `TextConforms` — rules of strings in a row, with transformations among them
- `stringFaults_eq_nil_iff`, `checkNumber_decides` — faults are found exactly where rules are broken
-/

namespace Conform

open Walk

/-- A length obeys a rule. -/
def LengthRule.Holds : LengthRule → Nat → Prop
  | .min n, size => n ≤ size
  | .max n, size => size ≤ n
  | .length n, size => size = n

/-- A text obeys a rule; transformations ask for nothing. -/
def StringRule.Holds : StringRule → Text → Prop
  | .min n, t => n ≤ t.length
  | .max n, t => t.length ≤ n
  | .length n, t => t.length = n
  | .format f, t => f.accepts t = true
  | .url, t => Internet.isUrl t = true
  | .ip version, t => IpVersion.accepts version t = true
  | .datetime form, t => form.accepts t = true
  | .time fraction, t => fraction.accepts t = true
  | .regex p, t => (p.search? t).isSome = true
  | .startsWith start, t => start <+: t
  | .endsWith tail, t => tail <:+ t
  | .includes needle position, t => needle <:+: t.drop position
  | .trim, _ => True
  | .toLowerCase, _ => True
  | .toUpperCase, _ => True

/-- A text obeys rules, each of which reads it after the transformations written before. -/
def TextConforms : List (Check StringRule) → Text → Prop
  | [], _ => True
  | check :: checks, t => check.rule.Holds t ∧ TextConforms checks (check.rule.transform t)

/-- A number obeys a rule. Multiples are told by the nearest doubles. -/
def NumberRule.Holds : NumberRule → Number → Prop
  | .gte bound, n => n.below bound = false
  | .gt bound, n => n.atMost bound = false
  | .lte bound, n => bound.below n = false
  | .lt bound, n => bound.atMost n = false
  | .int, .int _ => True
  | .int, .float d => d.isWhole = true
  | .multipleOf step, n =>
    ∃ d e, n.toDouble? = some d ∧ step.toDouble? = some e ∧
      d.isInfinite = false ∧ d.isMultipleOf e = true
  | .finite, .int _ => True
  | .finite, .float d => d.isInfinite = false

theorem lengthFault_eq_none_iff (subject unit : Text) (rule : LengthRule) (size : Nat) :
    lengthFault subject unit rule size = none ↔ rule.Holds size := by
  cases rule with
  | min n =>
    by_cases hsize : size < n
    · simp only [lengthFault, LengthRule.Holds, if_pos hsize, reduceCtorEq, false_iff]
      omega
    · simp only [lengthFault, LengthRule.Holds, if_neg hsize, true_iff]
      omega
  | max n =>
    by_cases hsize : size > n
    · simp only [lengthFault, LengthRule.Holds, if_pos hsize, reduceCtorEq, false_iff]
      omega
    · simp only [lengthFault, LengthRule.Holds, if_neg hsize, true_iff]
      omega
  | length n =>
    by_cases hsize : size = n <;> simp [lengthFault, LengthRule.Holds, hsize]

theorem faultUnless_eq_none_iff {ok : Bool} {message : Text} :
    faultUnless ok message = none ↔ ok = true := by
  cases ok <;> simp [faultUnless]

namespace Text

theorem isSome_after?_iff (start t : Text) : (after? start t).isSome = true ↔ start <+: t := by
  induction start generalizing t with
  | nil => simp [after?]
  | cons c start ih =>
    cases t with
    | nil => simp [after?]
    | cons d t =>
      rw [after?, List.cons_prefix_cons]
      by_cases hhead : c = d
      · rw [if_pos hhead, ih]
        exact (and_iff_right hhead).symm
      · simp [hhead]

theorem startsWith_iff (t start : Text) : t.startsWith start = true ↔ start <+: t :=
  isSome_after?_iff start t

theorem endsWith_iff (t tail : Text) : t.endsWith tail = true ↔ tail <:+ t := by
  rw [endsWith, isSome_after?_iff, List.reverse_prefix]

theorem includes_iff (t needle : Text) : t.includes needle = true ↔ needle <:+: t := by
  induction t with
  | nil => rw [includes, List.isEmpty_iff, List.infix_nil]
  | cons c t ih => rw [includes, Bool.or_eq_true, startsWith_iff, ih, List.infix_cons_iff]

end Text

theorem StringRule.fault_eq_none_iff (rule : StringRule) (t : Text) :
    rule.fault t = none ↔ rule.Holds t := by
  cases rule with
  | min n => exact lengthFault_eq_none_iff _ _ (.min n) t.length
  | max n => exact lengthFault_eq_none_iff _ _ (.max n) t.length
  | length n => exact lengthFault_eq_none_iff _ _ (.length n) t.length
  | startsWith start => exact faultUnless_eq_none_iff.trans (Text.startsWith_iff t start)
  | endsWith tail => exact faultUnless_eq_none_iff.trans (Text.endsWith_iff t tail)
  | includes needle position =>
    exact faultUnless_eq_none_iff.trans (Text.includes_iff (t.drop position) needle)
  | trim | toLowerCase | toUpperCase => exact iff_of_true rfl trivial
  | _ => exact faultUnless_eq_none_iff

/-- A text has no fault exactly if it obeys the rules in their order. -/
theorem stringFaults_eq_nil_iff (checks : List (Check StringRule)) (t : Text) :
    stringFaults checks t = [] ↔ TextConforms checks t := by
  induction checks generalizing t with
  | nil => exact iff_of_true rfl trivial
  | cons check checks ih =>
    rw [TextConforms, ← ih, ← StringRule.fault_eq_none_iff, stringFaults]
    cases check.rule.fault t with
    | none => simp
    | some message => simp

/-- A number in range gets a verdict of every rule whose step is in range. -/
theorem NumberRule.fault_eq {rule : NumberRule} {n : Number} (hn : n.InRange)
    (hrule : ∀ step, rule = .multipleOf step → step.InRange) :
    ∃ fault, rule.fault n = .ok fault ∧ (fault = none ↔ rule.Holds n) := by
  obtain ⟨d, hd⟩ := hn.exists
  have hdouble : n.asDouble = .ok d := by rw [Number.asDouble, hd]
  cases rule with
  | gte bound | gt bound | lte bound | lt bound =>
    refine ⟨_, rfl, faultUnless_eq_none_iff.trans ?_⟩
    rw [Bool.not_eq_true']
    exact Iff.rfl
  | int =>
    refine ⟨faultUnless d.isWhole _, by rw [fault, hdouble]; rfl, ?_⟩
    rw [faultUnless_eq_none_iff]
    cases n with
    | int k =>
      rw [Number.toDouble?] at hd
      exact iff_of_true (Double.isWhole_of_ofInt? hd) trivial
    | float e =>
      obtain rfl : e = d := Option.some.inj hd
      exact Iff.rfl
  | finite =>
    refine ⟨faultUnless (!d.isInfinite) _, by rw [fault, hdouble]; rfl, ?_⟩
    rw [faultUnless_eq_none_iff, Bool.not_eq_true']
    cases n with
    | int k =>
      rw [Number.toDouble?] at hd
      exact iff_of_true (Double.isInfinite_of_ofInt? hd) trivial
    | float e =>
      obtain rfl : e = d := Option.some.inj hd
      exact Iff.rfl
  | multipleOf step =>
    obtain ⟨e, he⟩ := (hrule step rfl).exists
    have hstep : step.asDouble = .ok e := by rw [Number.asDouble, he]
    -- Infinite numbers are refused before the remainder is asked for.
    have hfault : NumberRule.fault (.multipleOf step) n =
        .ok (faultUnless (!d.isInfinite && d.isMultipleOf e)
          ("Number must be a multiple of " ++ step.display)) := by
      simp only [fault, hdouble, hstep, bind, Except.bind]
      generalize d.isMultipleOf e = multiple
      cases d.isInfinite <;> rfl
    refine ⟨_, hfault, ?_⟩
    rw [faultUnless_eq_none_iff, Bool.and_eq_true, Bool.not_eq_true']
    constructor
    · rintro ⟨hfinite, hmultiple⟩
      exact ⟨d, e, hd, he, hfinite, hmultiple⟩
    · rintro ⟨d', e', hd', he', hfinite, hmultiple⟩
      obtain rfl : d = d' := Option.some.inj (hd.symm.trans hd')
      obtain rfl : e = e' := Option.some.inj (he.symm.trans he')
      exact ⟨hfinite, hmultiple⟩

/-- The check of a number decides all its rules. -/
theorem checkNumber_decides {policy : Policy} {n : Number} {checks : List (Check NumberRule)}
    (hn : n.InRange)
    (hchecks : ∀ check ∈ checks, ∀ step, check.rule = .multipleOf step → step.InRange) :
    Decides policy (checkNumber n checks) (∀ check ∈ checks, check.rule.Holds n) := by
  induction checks with
  | nil => exact decides_pure (by simp)
  | cons check checks ih =>
    rw [List.forall_mem_cons] at hchecks
    obtain ⟨fault, hfault, hholds⟩ := NumberRule.fault_eq hn hchecks.1
    have hhead : Decides policy (noteAny (fault.map (messageOr check.message)))
        (check.rule.Holds n) := decides_noteAny (Option.map_eq_none_iff.trans hholds)
    have hstep : checkNumber n (check :: checks) =
        (do noteAny (fault.map (messageOr check.message)); checkNumber n checks) := by
      rw [checkNumber, hfault]
    rw [hstep]
    exact (hhead.seq (ih hchecks.2)).congr (by simp)

end Conform
