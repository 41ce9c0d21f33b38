import Conform.Proofs.Pattern.Language

/-!
# Words over an alphabet

An ASCII code point that is named in a set, or lies between two bounds that are, belongs to the set
under any treatment of letter case; so does its other case, if case does not matter. Sets are asked
about their ranges only and not through the tables of letter case.

## Main definitions

- `SetItem.covers`, `CharSet.covers` — code points that are named
- `CharSet.has_of_covers` — these belong to the set
- `Regex.spells_word`, `Regex.wholeText_word` — words over an alphabet
-/

namespace Conform

variable {c low high : Nat} {folding : Folding}

/-- Whether an ASCII code point is named as it stands. -/
def SetItem.covers (c : CodePoint) : SetItem → Bool
  | .one d => c < 128 && c == d
  | .range low high => c < 128 && low ≤ c && c ≤ high
  | .named _ _ _ => false

theorem Text.lowerOne_of_lt (h : c < 128) :
    lowerOne c = if 65 ≤ c ∧ c ≤ 90 then c + 32 else c := by
  rw [lowerOne, lowerFull, if_pos h]
  split <;> rfl

/-- A code point is found again from its small form. -/
theorem Text.mem_lowerSources (h : c < 128) : c ∈ lowerSources (lowerOne c) := by
  refine List.mem_filter.mpr ⟨?_, beq_self_eq_true _⟩
  rw [lowerOne_of_lt h]
  split
  · refine List.mem_cons_of_mem _ (List.mem_cons_of_mem _ (List.mem_map.mpr ?_))
    exact ⟨⟨65, 90, 1, 32⟩, List.mem_cons_self, by simp⟩
  · exact List.mem_cons_self

theorem SetItem.has_one (h : c < 128) : (SetItem.one c).has folding (folding.key c) = true := by
  cases folding with
  | exact | ascii => exact beq_self_eq_true _
  | unicode =>
    have hsmall : ¬Text.lowerOne c > 0xFFFF := by
      rw [Text.lowerOne_of_lt h]
      refine Nat.not_lt.mpr ?_
      split <;> omega
    simp [SetItem.has, Folding.key, hsmall]

theorem SetItem.has_range (h : c < 128) (hlow : low ≤ c) (hhigh : c ≤ high) :
    (SetItem.range low high).has folding (folding.key c) = true := by
  cases folding with
  | exact => simp [SetItem.has, Folding.key, hlow, hhigh]
  | ascii =>
    by_cases hcapital : 65 ≤ c ∧ c ≤ 90
    · have hsmall : 97 ≤ c + 32 ∧ c + 32 ≤ 122 := by omega
      simp [SetItem.has, Folding.key, hcapital, hlow, hhigh, hsmall]
    · simp [SetItem.has, Folding.key, hcapital, hlow, hhigh]
  | unicode =>
    have hbounds : c ≤ min high 0xFFFF := by omega
    have hfound : foldedBetween low (min high 0xFFFF) (Text.lowerOne c) = true := by
      refine Bool.or_eq_true_iff.mpr (.inr ?_)
      refine List.any_eq_true.mpr ⟨_, List.mem_cons_self, ?_⟩
      refine List.any_eq_true.mpr ⟨c, Text.mem_lowerSources h, ?_⟩
      exact Bool.and_eq_true_iff.mpr ⟨decide_eq_true hlow, decide_eq_true hbounds⟩
    simp [SetItem.has, Folding.key, hfound]

/-- Letter case does not keep a code point from what names it as it stands. -/
theorem SetItem.has_of_covers {item : SetItem} (h : item.covers c = true) :
    item.has folding (folding.key c) = true := by
  cases item with
  | one d =>
    obtain ⟨hc, rfl⟩ : c < 128 ∧ c = d := by simpa [covers] using h
    exact has_one hc
  | range low high =>
    obtain ⟨⟨hc, hlow⟩, hhigh⟩ : (c < 128 ∧ low ≤ c) ∧ c ≤ high := by simpa [covers] using h
    exact has_range hc hlow hhigh
  | named => exact absurd h Bool.false_ne_true

/-- The other case of an ASCII letter. -/
def Text.otherCase (c : CodePoint) : CodePoint :=
  if 65 ≤ c ∧ c ≤ 90 then c + 32 else if 97 ≤ c ∧ c ≤ 122 then c - 32 else c

/-- Whether a set names an ASCII code point, or its other case where case does not matter. -/
def CharSet.covers (s : CharSet) (c : CodePoint) : Bool :=
  !s.negated && (s.items.any (·.covers c) ||
    (c < 128 && s.folding != .exact && s.items.any (·.covers (Text.otherCase c))))

/-- The two cases of a letter are looked up in the same form. -/
theorem Folding.key_otherCase (h : folding ≠ .exact) (hc : c < 128) :
    folding.key (Text.otherCase c) = folding.key c := by
  have hall : ∀ c < 128, Folding.ascii.key (Text.otherCase c) = Folding.ascii.key c ∧
      Folding.unicode.key (Text.otherCase c) = Folding.unicode.key c := by decide +kernel
  cases folding with
  | exact => exact absurd rfl h
  | ascii => exact (hall c hc).1
  | unicode => exact (hall c hc).2

theorem CharSet.has_of_covers {s : CharSet} (h : s.covers c = true) : s.has c = true := by
  obtain ⟨negated, folding, items⟩ := s
  simp only [covers, Bool.and_eq_true, Bool.or_eq_true, Bool.not_eq_true', bne_iff_ne,
    decide_eq_true_eq] at h
  obtain ⟨rfl, hnamed⟩ := h
  rw [has, Bool.bne_false]
  rcases hnamed with hnamed | ⟨⟨hc, hfolding⟩, hnamed⟩
  · obtain ⟨item, hitem, hcovers⟩ := List.any_eq_true.mp hnamed
    exact List.any_eq_true.mpr ⟨item, hitem, SetItem.has_of_covers hcovers⟩
  · obtain ⟨item, hitem, hcovers⟩ := List.any_eq_true.mp hnamed
    refine List.any_eq_true.mpr ⟨item, hitem, ?_⟩
    rw [← Folding.key_otherCase hfolding hc]
    exact SetItem.has_of_covers hcovers

namespace Regex

variable {alphabet w : Text} {least : Nat} {most : Option Nat} {s : CharSet}

/-- Words over an alphabet are rounds of a set that names all its members. -/
theorem spells_word {greed : Greed} (halphabet : ∀ c ∈ alphabet, s.covers c = true)
    (hw : ∀ c ∈ w, c ∈ alphabet) (hleast : least ≤ w.length) (hmost : ∀ m ∈ most, w.length ≤ m) :
    (Regex.rounds greed least most (.unit (.set s))).Spells w :=
  spells_rounds_unit.mpr
    ⟨⟨hleast, hmost⟩, fun c hc => CharSet.has_of_covers (halphabet c (hw c hc))⟩

/-- A whole text that is a word over an alphabet. -/
theorem wholeText_word (halphabet : ∀ c ∈ alphabet, s.covers c = true)
    (hw : ∀ c ∈ w, c ∈ alphabet) (hleast : least ≤ w.length) (hmost : ∀ m ∈ most, w.length ≤ m) :
    ((wholeText [.rounds .greedy least most (.unit (.set s))]).matchAt? w).isSome = true := by
  have hbounds : most.all (least ≤ ·) = true := by
    rw [Option.all_eq_true]
    exact fun m hm => decide_eq_true (hleast.trans (hmost m hm))
  refine wholeText_isSome_of_spells ?_ rfl (spells_word halphabet hw hleast hmost)
  simp [isPlain, hbounds]

end Regex

end Conform
