import Conform.Proofs.Checking.Refinement
import Conform.Proofs.Pattern.Lines

/-!
# Formats and lines

The formats of strings that are given by patterns are formats of single lines. Their patterns end
where the text does or in front of a line feed at its end, so a string that has such a format still
has it with one line feed behind it.

## Main definitions

- `StringRule.IsPatterned` — the rules about strings that are given by fixed patterns
- `StringRule.fault_patterned_iff` — what they accept are lines, which may have a line feed behind
  them
-/

namespace Conform

open Regex

section Patterns

theorem TextFormat.isInline_regex (format : TextFormat) : format.regex.isInline = true := by
  cases format <;> decide +kernel

theorem TextFormat.endsFinally_regex (format : TextFormat) :
    format.regex.endsFinally = true := by
  cases format <;> exact endsFinally_wholeText

theorem Fraction.isInline_regex (fraction : Fraction) : fraction.regex.isInline = true := by
  cases fraction with
  | optional | absent => decide +kernel
  | digits n =>
    have hdigit : digit.isInline = true := by decide +kernel
    exact isInline_seq (by decide +kernel) ((isInline_times n).trans hdigit)

theorem TimestampForm.isInline_zoneRegex (form : TimestampForm) :
    form.zoneRegex.isInline = true := by
  -- The fraction plays no part in it.
  have heach (offset isLocal : Bool) :
      (TimestampForm.zoneRegex ⟨.absent, offset, isLocal⟩).isInline = true := by
    cases offset <;> cases isLocal <;> decide +kernel
  exact heach form.offset form.isLocal

theorem TimestampForm.isInline_regex (form : TimestampForm) : form.regex.isInline = true := by
  refine isInline_wholeText ?_
  have hfixed : ∀ r ∈ [times 4 digit, char '-', times 2 digit, char 'T', char ':'],
      r.isInline = true := by decide +kernel
  simp only [List.forall_mem_cons] at hfixed ⊢
  obtain ⟨hyear, hhyphen, hpair, hmark, hcolon, -⟩ := hfixed
  exact ⟨hyear, hhyphen, hpair, hhyphen, hpair, hmark, hpair, hcolon, hpair, hcolon, hpair,
    form.fraction.isInline_regex, form.isInline_zoneRegex, List.forall_mem_nil _⟩

theorem Fraction.isInline_timeRegex (fraction : Fraction) : fraction.timeRegex.isInline = true := by
  refine isInline_wholeText ?_
  have hour : (Regex.alt (sequence [oneOf (listed "01"), digit])
      (sequence [char '2', oneOf [between '0' '3']])).isInline = true := by decide +kernel
  have hfixed : ∀ r ∈ [char ':', oneOf [between '0' '5'], digit], r.isInline = true := by
    decide +kernel
  simp only [List.forall_mem_cons] at hfixed ⊢
  obtain ⟨hcolon, htens, hdigit, -⟩ := hfixed
  exact ⟨hour, hcolon, htens, hdigit, hcolon, htens, hdigit, fraction.isInline_regex,
    List.forall_mem_nil _⟩

end Patterns

/-- The rules about strings that are given by fixed patterns. -/
inductive StringRule.IsPatterned : StringRule → Prop
  | format (format : TextFormat) : IsPatterned (.format format)
  | datetime (form : TimestampForm) : IsPatterned (.datetime form)
  | time (fraction : Fraction) : IsPatterned (.time fraction)

/-- **What fixed patterns accept are lines, which may have a line feed behind them**: a string is
accepted exactly if, but for one line feed at its end, it is an accepted string without any code
point that ends a line. -/
theorem StringRule.fault_patterned_iff {rule : StringRule} (h : rule.IsPatterned) (s : Text) :
    rule.fault s = none ↔
      ∃ t, (s = t ∨ s = t ++ [Text.newline]) ∧ rule.fault t = none ∧
        ∀ c ∈ t, c ∉ Text.lineTerminators := by
  cases h with
  | format format =>
    simp only [StringRule.fault, faultUnless_eq_none_iff]
    exact matchAt?_line_iff format.isInline_regex format.endsFinally_regex s
  | datetime form =>
    simp only [StringRule.fault, faultUnless_eq_none_iff]
    exact matchAt?_line_iff form.isInline_regex endsFinally_wholeText s
  | time fraction =>
    simp only [StringRule.fault, faultUnless_eq_none_iff]
    exact matchAt?_line_iff fraction.isInline_timeRegex endsFinally_wholeText s

/-- A leap day with a line feed behind it. -/
theorem StringRule.fault_patterned_iff_leapDay :
    (StringRule.format .date).IsPatterned ∧
      (StringRule.format .date).fault "2024-02-29\n" = none := by
  have hday : (StringRule.format .date).fault "2024-02-29" = none := by decide +kernel
  refine ⟨.format .date, (fault_patterned_iff (.format .date) _).mpr ?_⟩
  exact ⟨"2024-02-29", .inr rfl, hday, by decide⟩

/-- A letter is accepted, and so it is with a line feed behind it. -/
theorem StringRule.fault_lineFeed :
    Text.newline ∈ Text.lineTerminators ∧ (StringRule.format .cuid2).fault "a" = none ∧
      (StringRule.format .cuid2).fault ("a" ++ [Text.newline]) = none := by
  decide +kernel

end Conform
