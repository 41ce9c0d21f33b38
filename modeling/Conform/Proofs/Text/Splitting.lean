import Conform.Text.Basic
import Mathlib.Data.List.Basic

/-!
# Cutting texts at marks

A text is cut at the first of some marks, or at all of them. What stands in front of the first mark
is the first piece, so a text is cut into the pieces it is put together from, if none of these holds
a mark.

## Main definitions

- `Text.splitFirst?_append`, `Text.splitFirst?_eq_some` — the first mark
- `Text.splitAll_append`, `Text.splitAll_of_not_mem` — all marks
-/

namespace Conform.Text

variable {mark c : CodePoint} {t before after : Text}

theorem splitFirst?_append (h : mark ∉ before) (after : Text) :
    splitFirst? mark (before ++ mark :: after) = some (before, after) := by
  induction before with
  | nil => exact if_pos rfl
  | cons c before ih =>
    obtain ⟨hc, hbefore⟩ := not_or.mp (mt List.mem_cons.mpr h)
    rw [List.cons_append, splitFirst?, if_neg (Ne.symm hc), ih hbefore]
    rfl

theorem splitFirst?_eq_some (h : splitFirst? mark t = some (before, after)) :
    t = before ++ mark :: after ∧ mark ∉ before := by
  induction t generalizing before with
  | nil => exact nomatch h
  | cons c t ih =>
    rw [splitFirst?] at h
    split at h
    · rename_i hc
      cases h
      exact ⟨by rw [hc]; rfl, List.not_mem_nil⟩
    · rename_i hc
      obtain ⟨⟨found, rest⟩, hfound, hpair⟩ := Option.map_eq_some_iff.mp h
      cases hpair
      obtain ⟨rfl, hmark⟩ := ih hfound
      exact ⟨rfl, List.not_mem_cons_of_ne_of_not_mem (Ne.symm hc) hmark⟩

theorem splitFirst?_eq_none (h : mark ∉ t) : splitFirst? mark t = none := by
  cases hsplit : splitFirst? mark t with
  | none => rfl
  | some pair =>
    obtain ⟨rfl, -⟩ := splitFirst?_eq_some hsplit
    exact absurd (List.mem_append_right _ List.mem_cons_self) h

theorem splitAll_ne_nil (mark : CodePoint) (t : Text) : splitAll mark t ≠ [] := by
  cases t with
  | nil => exact List.cons_ne_nil _ _
  | cons c t =>
    rw [splitAll]
    split
    · exact List.cons_ne_nil _ _
    · split <;> exact List.cons_ne_nil _ _

theorem splitAll_mark (t : Text) : splitAll mark (mark :: t) = [] :: splitAll mark t := by
  obtain ⟨piece, others, hsplit⟩ := List.exists_cons_of_ne_nil (splitAll_ne_nil mark t)
  rw [splitAll, hsplit]
  exact if_pos rfl

/-- Another code point goes on with the first piece. -/
theorem splitAll_cons (hc : c ≠ mark) (t : Text) :
    ∃ piece others, splitAll mark t = piece :: others ∧
      splitAll mark (c :: t) = (c :: piece) :: others := by
  obtain ⟨piece, others, hsplit⟩ := List.exists_cons_of_ne_nil (splitAll_ne_nil mark t)
  refine ⟨piece, others, hsplit, ?_⟩
  rw [splitAll, hsplit]
  exact if_neg hc

/-- A text without a mark is in one piece. -/
theorem splitAll_of_not_mem (h : mark ∉ t) : splitAll mark t = [t] := by
  induction t with
  | nil => rfl
  | cons c t ih =>
    obtain ⟨hc, ht⟩ := not_or.mp (mt List.mem_cons.mpr h)
    rw [splitAll, ih ht]
    exact if_neg (Ne.symm hc)

/-- What stands in front of the first mark is the first piece. -/
theorem splitAll_append (h : mark ∉ before) (after : Text) :
    splitAll mark (before ++ mark :: after) = before :: splitAll mark after := by
  induction before with
  | nil => exact splitAll_mark after
  | cons c before ih =>
    obtain ⟨hc, hbefore⟩ := not_or.mp (mt List.mem_cons.mpr h)
    rw [List.cons_append, splitAll, ih hbefore]
    exact if_neg (Ne.symm hc)

end Conform.Text
