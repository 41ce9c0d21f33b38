import Conform.Proofs.Pattern.Language

/-!
# Whole texts, step by step

Expressions in a row match a whole text one after the other. How much of the text is passed is told
by the code points on both sides of a place, so a condition on places is settled where it stands and
all between two conditions by the texts that belong to it.

## Main definitions

- `Regex.Completes` — expressions match what is left of a whole text
- `Regex.Completes.spells`, `Regex.Completes.anchor`, `Regex.Completes.ahead` — single steps
- `Regex.wholeText_isSome_iff_completes` — whole texts are what is left at their beginnings
-/

namespace Conform.Regex

/-- With some text before them, nearest first, expressions match all that is left; only a line feed
may follow. -/
def Completes (rs : List Regex) (before after : Text) : Prop :=
  ∃ q, (sequence rs).Matches ⟨before, after, before.length⟩ q ∧ q.holds .finalEnd = true

variable {r : Regex} {rs ss : List Regex} {before after u v : Text}

theorem completes_nil (before : Text) : Completes [] before [] := ⟨_, rfl, rfl⟩

theorem Completes.spells (hregular : (sequence rs).isRegular = true) (hu : (sequence rs).Spells u)
    (h : Completes ss (u.reverse ++ before) v) : Completes (rs ++ ss) before (u ++ v) := by
  obtain ⟨q, hq, hend⟩ := h
  have hindex : (u.reverse ++ before).length = before.length + u.length := by
    rw [List.length_append, List.length_reverse, Nat.add_comm]
  have hpasses : Place.Passes ⟨before, u ++ v, before.length⟩ u
      ⟨u.reverse ++ before, v, (u.reverse ++ before).length⟩ := ⟨rfl, rfl, hindex⟩
  have hfirst := (matches_iff_spells hregular).mpr ⟨u, hpasses, hu⟩
  exact ⟨q, matches_sequence_append.mpr ⟨_, hfirst, hq⟩, hend⟩

theorem Completes.cons (hregular : r.isRegular = true) (hu : r.Spells u)
    (h : Completes rs (u.reverse ++ before) v) : Completes (r :: rs) before (u ++ v) :=
  @Completes.spells [r] rs before u v hregular hu h

/-- All that is left belongs to the last expressions. -/
theorem completes_of_spells (hregular : (sequence rs).isRegular = true)
    (hu : (sequence rs).Spells u) : Completes rs before u := by
  have h := Completes.spells hregular hu (completes_nil (u.reverse ++ before))
  rwa [List.append_nil, List.append_nil] at h

theorem Completes.anchor {a : Anchor}
    (ha : Place.holds ⟨before, after, before.length⟩ a = true) (h : Completes rs before after) :
    Completes (.anchor a :: rs) before after := by
  obtain ⟨q, hq, hend⟩ := h
  exact ⟨q, matches_sequence_cons.mpr ⟨_, ⟨rfl, ha⟩, hq⟩, hend⟩

/-- What follows is looked at and not passed. -/
theorem Completes.ahead {negated : Bool}
    (hlook : (∃ m, r.Matches ⟨before, after, before.length⟩ m) ↔ negated = false)
    (h : Completes rs before after) : Completes (.ahead negated r :: rs) before after := by
  obtain ⟨q, hq, hend⟩ := h
  exact ⟨q, matches_sequence_cons.mpr ⟨_, ⟨rfl, hlook⟩, hq⟩, hend⟩

/-- An expression without conditions on places matches at a place if a text that belongs to it
follows. -/
theorem exists_matches_iff (hregular : r.isRegular = true) :
    (∃ q, r.Matches ⟨before, after, before.length⟩ q) ↔ ∃ u, u <+: after ∧ r.Spells u := by
  simp only [matches_iff_spells hregular]
  constructor
  · rintro ⟨q, u, hpasses, hu⟩
    exact ⟨u, ⟨q.after, hpasses.after.symm⟩, hu⟩
  · rintro ⟨u, ⟨v, rfl⟩, hu⟩
    exact ⟨⟨u.reverse ++ before, v, before.length + u.length⟩, u, ⟨rfl, rfl, rfl⟩, hu⟩

/-- No text that belongs to an expression follows. -/
theorem Completes.ahead_not (hregular : r.isRegular = true)
    (hlook : ∀ u, u <+: after → ¬r.Spells u) (h : Completes rs before after) :
    Completes (.ahead true r :: rs) before after := by
  refine .ahead (iff_of_false (fun hmatches => ?_) Bool.noConfusion) h
  obtain ⟨u, hu, hspells⟩ := (exists_matches_iff hregular).mp hmatches
  exact hlook u hu hspells

theorem wholeText_isSome_iff_completes (hplain : rs.all isPlain = true) (t : Text) :
    ((wholeText rs).matchAt? t).isSome = true ↔ Completes rs [] t := by
  rw [matchAt?_isSome_iff (isPlain_wholeText.trans hplain)]
  exact exists_congr fun q => matches_wholeText

end Conform.Regex
