import Conform.Pattern.Build
import Conform.Proofs.Pattern.Meaning
import Mathlib.Algebra.Order.BigOperators.Group.List
import Mathlib.Algebra.Order.Ring.Nat

/-!
# The language of an expression

An expression without conditions on places matches texts, whatever stands around them. A whole text
is matched by such an expression between two anchors if it belongs to its language; as the second
anchor also holds in front of a line feed that ends the text, the text may have such a line feed in
addition.

## Main definitions

- `Regex.Spells` — the texts that belong to an expression
- `Regex.isRegular` — the expressions without conditions on places
- `Regex.matches_iff_spells` — these match the texts that belong to them
- `Regex.Spells.width` — how long these texts are
- `Regex.wholeText_isSome_iff` — whole texts
-/

namespace Conform

namespace Width

/-- A length lies between the two numbers of a width, of which the greater one is no bound if it has
been cut off. -/
def Admits (v : Width) (n : Nat) : Prop := v.least ≤ n ∧ (v.greatest < limit → n ≤ v.greatest)

variable {v w : Width} {m n : Nat}

theorem Admits.capped (h : v.Admits n) : v.capped.Admits n := by
  simp only [Admits, Width.capped] at h ⊢
  omega

theorem Admits.add (hv : v.Admits m) (hw : w.Admits n) : (v.add w).Admits (m + n) := by
  simp only [Admits, Width.add] at hv hw ⊢
  omega

theorem Admits.either (h : v.Admits n ∨ w.Admits n) : (v.either w).Admits n := by
  simp only [Admits, Width.either] at h ⊢
  omega

theorem Admits.repeated {least : Nat} {most : Option Nat} {ws : List Text}
    (hleast : least ≤ ws.length) (hmost : ∀ m ∈ most, ws.length ≤ m)
    (h : ∀ u ∈ ws, v.Admits u.length) : (v.repeated least most).Admits ws.flatten.length := by
  have hlow : ws.length * v.least ≤ ws.flatten.length := by
    have hsum := List.card_nsmul_le_sum (ws.map List.length) v.least
      (List.forall_mem_map.mpr fun u hu => (h u hu).1)
    rwa [List.length_map, Nat.nsmul_eq_mul, ← List.length_flatten] at hsum
  have hhigh (hcut : v.greatest < limit) : ws.flatten.length ≤ ws.length * v.greatest := by
    have hsum := List.sum_le_card_nsmul (ws.map List.length) v.greatest
      (List.forall_mem_map.mpr fun u hu => (h u hu).2 hcut)
    rwa [List.length_map, Nat.nsmul_eq_mul, ← List.length_flatten] at hsum
  refine ⟨(Nat.mul_comm _ _).trans_le ((Nat.mul_le_mul_right _ hleast).trans hlow), ?_⟩
  intro hcut
  cases most with
  | none =>
    have hzero : v.greatest = 0 := by
      by_contra hpos
      exact absurd ((if_neg hpos).symm.trans_lt hcut) (lt_irrefl _)
    have hempty := hhigh (hzero.trans_lt (by decide))
    rw [hzero, Nat.mul_zero] at hempty
    exact hempty.trans (Nat.zero_le _)
  | some n =>
    have hrounds : ws.length ≤ n := hmost n rfl
    rcases Nat.eq_zero_or_pos n with rfl | hpos
    · obtain rfl := List.length_eq_zero_iff.mp (Nat.le_zero.mp hrounds)
      exact Nat.zero_le _
    · calc ws.flatten.length ≤ ws.length * v.greatest :=
            hhigh ((Nat.le_mul_of_pos_right _ hpos).trans_lt hcut)
        _ ≤ n * v.greatest := Nat.mul_le_mul_right _ hrounds
        _ = v.greatest * n := Nat.mul_comm _ _

end Width

namespace Regex

/-- The texts that belong to an expression. -/
def Spells : Regex → Text → Prop
  | .empty, w => w = []
  | .unit a, w => ∃ c, w = [c] ∧ a.has c = true
  | .seq r s, w => ∃ u v, w = u ++ v ∧ r.Spells u ∧ s.Spells v
  | .alt r s, w => r.Spells w ∨ s.Spells w
  | .rounds _ least most r, w =>
    ∃ ws : List Text, least ≤ ws.length ∧ (∀ m ∈ most, ws.length ≤ m) ∧ w = ws.flatten ∧
      ∀ v ∈ ws, r.Spells v
  | .group _ r, w => r.Spells w
  | .scope r, w => r.Spells w
  | .anchor _, _ | .ahead _ _, _ | .behind _ _ _, _ => False
  | .atomic _, _ | .backref _ _, _ | .ifGroup _ _ _, _ => False

/-- The expressions without conditions on places. -/
def isRegular : Regex → Bool
  | .empty | .unit _ => true
  | .seq r s | .alt r s => r.isRegular && s.isRegular
  | .rounds _ _ _ r | .group _ r | .scope r => r.isRegular
  | .anchor _ | .ahead _ _ | .behind _ _ _ => false
  | .atomic _ | .backref _ _ | .ifGroup _ _ _ => false

section Regular

variable {R : Place → Place → Prop} {L : Text → Prop} {r s : Regex} {p q : Place} {n : Nat}

/-- Rounds of what matches the texts of a language. -/
theorem rounds_iff (hR : ∀ p q, R p q ↔ ∃ w, p.Passes w q ∧ L w) :
    Rounds R n p q ↔
      ∃ ws : List Text, ws.length = n ∧ p.Passes ws.flatten q ∧ ∀ v ∈ ws, L v := by
  induction n generalizing p with
  | zero =>
    constructor
    · intro h
      exact ⟨[], rfl, Place.passes_nil.mpr h, List.forall_mem_nil _⟩
    · rintro ⟨ws, hlength, hpasses, -⟩
      obtain rfl := List.length_eq_zero_iff.mp hlength
      exact Place.passes_nil.mp hpasses
  | succ n ih =>
    constructor
    · rintro ⟨m, hfirst, hmore⟩
      obtain ⟨w, hw, hL⟩ := (hR p m).mp hfirst
      obtain ⟨ws, rfl, hws, hall⟩ := ih.mp hmore
      exact ⟨w :: ws, rfl, hw.trans hws, List.forall_mem_cons.mpr ⟨hL, hall⟩⟩
    · rintro ⟨ws, hlength, hpasses, hall⟩
      cases ws with
      | nil => cases hlength
      | cons w ws =>
        obtain ⟨hL, hall⟩ := List.forall_mem_cons.mp hall
        obtain ⟨m, hw, hws⟩ := hpasses.split
        exact ⟨m, (hR p m).mpr ⟨w, hw, hL⟩, ih.mpr ⟨ws, Nat.succ.inj hlength, hws, hall⟩⟩

/-- **An expression without conditions on places matches the texts that belong to it.** -/
theorem matches_iff_spells (h : r.isRegular = true) :
    r.Matches p q ↔ ∃ w, p.Passes w q ∧ r.Spells w := by
  induction r generalizing p q with
  | empty =>
    constructor
    · intro hq
      exact ⟨[], Place.passes_nil.mpr hq, rfl⟩
    · rintro ⟨w, hw, rfl⟩
      exact Place.passes_nil.mp hw
  | unit a =>
    constructor
    · rintro ⟨c, hc, ha⟩
      exact ⟨[c], hc, c, rfl, ha⟩
    · rintro ⟨w, hw, c, rfl, ha⟩
      exact ⟨c, hw, ha⟩
  | seq r s ihr ihs =>
    obtain ⟨hr, hs⟩ := Bool.and_eq_true_iff.mp h
    constructor
    · rintro ⟨m, hm, hq⟩
      obtain ⟨u, hu, hru⟩ := (ihr hr).mp hm
      obtain ⟨v, hv, hsv⟩ := (ihs hs).mp hq
      exact ⟨u ++ v, hu.trans hv, u, v, rfl, hru, hsv⟩
    · rintro ⟨w, hw, u, v, rfl, hru, hsv⟩
      obtain ⟨m, hu, hv⟩ := hw.split
      exact ⟨m, (ihr hr).mpr ⟨u, hu, hru⟩, (ihs hs).mpr ⟨v, hv, hsv⟩⟩
  | alt r s ihr ihs =>
    obtain ⟨hr, hs⟩ := Bool.and_eq_true_iff.mp h
    refine (or_congr (ihr hr) (ihs hs)).trans ?_
    rw [← exists_or]
    exact exists_congr fun w => and_or_left.symm
  | rounds greed least most r ih =>
    constructor
    · rintro ⟨n, hleast, hmost, hrounds⟩
      obtain ⟨ws, rfl, hws, hall⟩ := (rounds_iff fun _ _ => ih h).mp hrounds
      exact ⟨ws.flatten, hws, ws, hleast, hmost, rfl, hall⟩
    · rintro ⟨w, hw, ws, hleast, hmost, rfl, hall⟩
      exact ⟨ws.length, hleast, hmost, (rounds_iff fun _ _ => ih h).mpr ⟨ws, rfl, hw, hall⟩⟩
  | group index r ih => exact ih h
  | scope r ih => exact ih h
  | anchor | ahead | behind | atomic | backref | ifGroup => cases h

/-- **The width of an expression bounds the lengths of the texts that belong to it.** -/
theorem Spells.width {w : Text} (groups : Nat → Width) (h : r.Spells w) :
    (r.width groups).Admits w.length := by
  induction r generalizing w with
  | empty =>
    obtain rfl := h
    exact ⟨le_refl _, fun _ => le_refl _⟩
  | unit a =>
    obtain ⟨c, rfl, -⟩ := h
    exact ⟨le_refl _, fun _ => le_refl _⟩
  | seq r s ihr ihs =>
    obtain ⟨u, v, rfl, hr, hs⟩ := h
    rw [List.length_append]
    exact (ihr hr).add (ihs hs)
  | alt r s ihr ihs =>
    exact .either (h.imp (fun hr => (ihr hr).capped) fun hs => (ihs hs).capped)
  | rounds greed least most r ih =>
    obtain ⟨ws, hleast, hmost, rfl, hall⟩ := h
    exact .repeated hleast hmost fun v hv => (ih (hall v hv)).capped
  | group index r ih | scope r ih => exact (ih h).capped
  | anchor | ahead | behind | atomic | backref | ifGroup => exact h.elim

end Regular

section Words

variable {r : Regex} {rs ss : List Regex} {w : Text}

theorem spells_sequence_cons :
    (sequence (r :: rs)).Spells w ↔ ∃ u v, w = u ++ v ∧ r.Spells u ∧ (sequence rs).Spells v := by
  cases rs with
  | nil =>
    constructor
    · intro h
      exact ⟨w, [], (List.append_nil w).symm, h, rfl⟩
    · rintro ⟨u, v, rfl, h, rfl⟩
      rw [List.append_nil]
      exact h
  | cons s rs => exact Iff.rfl

theorem spells_sequence_append :
    (sequence (rs ++ ss)).Spells w ↔
      ∃ u v, w = u ++ v ∧ (sequence rs).Spells u ∧ (sequence ss).Spells v := by
  induction rs generalizing w with
  | nil =>
    constructor
    · intro h
      exact ⟨[], w, rfl, rfl, h⟩
    · rintro ⟨u, v, rfl, rfl, h⟩
      exact h
  | cons r rs ih =>
    simp only [List.cons_append, spells_sequence_cons, ih]
    constructor
    · rintro ⟨u, x, rfl, hu, v, z, rfl, hv, hz⟩
      exact ⟨u ++ v, z, (List.append_assoc u v z).symm, ⟨u, v, rfl, hu, hv⟩, hz⟩
    · rintro ⟨x, z, rfl, ⟨u, v, rfl, hu, hv⟩, hz⟩
      exact ⟨u, v ++ z, List.append_assoc u v z, hu, v, z, rfl, hv, hz⟩

/-- What stands behind expressions of one fixed width belongs to those that follow them. -/
theorem spells_append_iff {v : Text} {n : Nat}
    (hwidth : (sequence rs).width (fun _ => ⟨0, 0⟩) = ⟨n, n⟩) (hn : n < Width.limit) (hw : (sequence rs).Spells w) :
    (sequence (rs ++ ss)).Spells (w ++ v) ↔ (sequence ss).Spells v := by
  have hlength {u : Text} (hu : (sequence rs).Spells u) : u.length = n := by
    have hadmits := hu.width fun _ => ⟨0, 0⟩
    rw [hwidth] at hadmits
    exact le_antisymm (hadmits.2 hn) hadmits.1
  rw [spells_sequence_append]
  constructor
  · rintro ⟨u, x, heq, hu, hx⟩
    obtain ⟨-, rfl⟩ := List.append_inj heq ((hlength hw).trans (hlength hu).symm)
    exact hx
  · exact fun hv => ⟨w, v, rfl, hw, hv⟩

theorem isRegular_sequence : (sequence rs).isRegular = rs.all isRegular := by
  induction rs with
  | nil => rfl
  | cons r rs ih =>
    cases rs with
    | nil => exact (Bool.and_true _).symm
    | cons s rs => exact congrArg (r.isRegular && ·) ih

theorem spells_char {c : Char} : (char c).Spells w ↔ w = [c.toNat] := by
  simp [char, Spells, Atom.has, Folding.same]

theorem spells_chars {s : String} : (chars s).Spells w ↔ w = Text.ofString s := by
  rw [chars, Text.ofString]
  induction s.toList generalizing w with
  | nil => exact Iff.rfl
  | cons c cs ih => simp [spells_sequence_cons, spells_char, ih]

/-- Rounds of one atom. -/
theorem spells_rounds_unit {greed : Greed} {least : Nat} {most : Option Nat} {a : Atom} :
    (Regex.rounds greed least most (.unit a)).Spells w ↔
      (least ≤ w.length ∧ ∀ m ∈ most, w.length ≤ m) ∧ ∀ c ∈ w, a.has c = true := by
  constructor
  · rintro ⟨ws, hleast, hmost, rfl, hall⟩
    have hlengths : ws.map List.length = List.replicate ws.length 1 := by
      refine List.eq_replicate_iff.mpr ⟨List.length_map _, List.forall_mem_map.mpr fun v hv => ?_⟩
      obtain ⟨c, rfl, -⟩ := hall v hv
      rfl
    have hlength : ws.flatten.length = ws.length := by
      rw [List.length_flatten, hlengths, List.sum_replicate, Nat.nsmul_eq_mul, Nat.mul_one]
    refine ⟨hlength ▸ ⟨hleast, hmost⟩, fun c hc => ?_⟩
    obtain ⟨v, hv, hc⟩ := List.mem_flatten.mp hc
    obtain ⟨d, rfl, hd⟩ := hall v hv
    rwa [List.mem_singleton.mp hc]
  · rintro ⟨hlength, hall⟩
    have hmap : (w.map fun c => [c]).length = w.length := List.length_map _
    refine ⟨w.map fun c => [c], hmap ▸ hlength.1, hmap ▸ hlength.2, ?_, ?_⟩
    · exact (List.flatMap_singleton' w).symm
    · exact List.forall_mem_map.mpr fun c hc => ⟨c, rfl, hall c hc⟩

theorem spells_times_unit {n : Nat} {a : Atom} :
    (times n (.unit a)).Spells w ↔ w.length = n ∧ ∀ c ∈ w, a.has c = true := by
  refine spells_rounds_unit.trans (and_congr_left' ?_)
  constructor
  · rintro ⟨hleast, hmost⟩
    exact le_antisymm (hmost n rfl) hleast
  · rintro rfl
    exact ⟨le_rfl, fun m hm => (Option.some.inj hm).le⟩

theorem spells_rounds_nil (greed : Greed) (most : Option Nat) (r : Regex) :
    (Regex.rounds greed 0 most r).Spells [] :=
  ⟨[], le_rfl, fun m _ => Nat.zero_le m, rfl, List.forall_mem_nil _⟩

/-- One more round in front of others. -/
theorem spells_atLeast_append {u v : Text} (hu : r.Spells u) (hv : (atLeast 0 r).Spells v) :
    (atLeast 0 r).Spells (u ++ v) := by
  obtain ⟨ws, -, -, rfl, hall⟩ := hv
  exact ⟨u :: ws, Nat.zero_le _, fun _ hm => absurd hm (Option.not_mem_none _), rfl,
    List.forall_mem_cons.mpr ⟨hu, hall⟩⟩

end Words

section Building

variable {r : Regex} {rs : List Regex} {p q : Place} {w : Text}

theorem matches_sequence_cons :
    (sequence (r :: rs)).Matches p q ↔ ∃ m, r.Matches p m ∧ (sequence rs).Matches m q := by
  cases rs with
  | nil =>
    constructor
    · intro h
      exact ⟨q, h, rfl⟩
    · rintro ⟨m, hm, rfl⟩
      exact hm
  | cons s rs => exact Iff.rfl

theorem matches_sequence_append {ss : List Regex} :
    (sequence (rs ++ ss)).Matches p q ↔
      ∃ m, (sequence rs).Matches p m ∧ (sequence ss).Matches m q := by
  induction rs generalizing p with
  | nil =>
    constructor
    · intro h
      exact ⟨p, rfl, h⟩
    · rintro ⟨m, rfl, h⟩
      exact h
  | cons r rs ih =>
    rw [List.cons_append, matches_sequence_cons]
    simp only [ih, matches_sequence_cons]
    constructor
    · rintro ⟨m, hm, m', hm', hq⟩
      exact ⟨m', ⟨m, hm, hm'⟩, hq⟩
    · rintro ⟨m', ⟨m, hm, hm'⟩, hq⟩
      exact ⟨m, hm, m', hm', hq⟩

theorem isPlain_sequence : (sequence rs).isPlain = rs.all isPlain := by
  induction rs with
  | nil => rfl
  | cons r rs ih =>
    cases rs with
    | nil => exact (Bool.and_true _).symm
    | cons s rs => exact congrArg (r.isPlain && ·) ih

theorem isPlain_wholeText : (wholeText rs).isPlain = rs.all isPlain := by
  rw [wholeText, isPlain_sequence, List.all_cons, List.all_append]
  simp [isPlain]

theorem holds_finalEnd : q.holds .finalEnd = true ↔ q.after = [] ∨ q.after = [Text.newline] := by
  simp [Place.holds]

theorem start_passes_iff {t : Text} {Q : Text → Prop} :
    (∃ q, (Place.start t).Passes w q ∧ Q q.after) ↔ ∃ rest, t = w ++ rest ∧ Q rest := by
  constructor
  · rintro ⟨q, hw, hQ⟩
    exact ⟨q.after, hw.after, hQ⟩
  · rintro ⟨rest, rfl, hQ⟩
    exact ⟨⟨w.reverse, rest, w.length⟩, ⟨rfl, (List.append_nil _).symm, (Nat.zero_add _).symm⟩, hQ⟩

/-- Whole texts are matched between the two anchors. -/
theorem matches_wholeText {t : Text} :
    (wholeText rs).Matches (Place.start t) q ↔
      (sequence rs).Matches (Place.start t) q ∧ q.holds .finalEnd = true := by
  rw [wholeText, matches_sequence_cons]
  constructor
  · rintro ⟨m, ⟨rfl, -⟩, h⟩
    obtain ⟨m', hm', rfl, hend⟩ := matches_sequence_append.mp h
    exact ⟨hm', hend⟩
  · rintro ⟨h, hend⟩
    exact ⟨Place.start t, ⟨rfl, rfl⟩, matches_sequence_append.mpr ⟨q, h, rfl, hend⟩⟩

/-- **A whole text**: it belongs to the expressions between the anchors, or it does so but for one
line feed at its end. -/
theorem wholeText_isSome_iff (hplain : rs.all isPlain = true)
    (hregular : (sequence rs).isRegular = true) (t : Text) :
    ((wholeText rs).matchAt? t).isSome = true ↔
      ∃ w, (sequence rs).Spells w ∧ (t = w ∨ t = w ++ [Text.newline]) := by
  rw [matchAt?_isSome_iff (isPlain_wholeText.trans hplain)]
  simp only [matches_wholeText, matches_iff_spells hregular, holds_finalEnd]
  constructor
  · rintro ⟨q, ⟨w, hw, hspells⟩, hend⟩
    refine ⟨w, hspells, ?_⟩
    obtain ⟨rest, rfl, rfl | rfl⟩ := start_passes_iff
      (Q := fun rest => rest = [] ∨ rest = [Text.newline]) |>.mp ⟨q, hw, hend⟩
    · exact .inl (List.append_nil w)
    · exact .inr rfl
  · rintro ⟨w, hspells, hend⟩
    have hrest : ∃ rest, t = w ++ rest ∧ (rest = [] ∨ rest = [Text.newline]) := by
      rcases hend with rfl | rfl
      · exact ⟨[], (List.append_nil _).symm, .inl rfl⟩
      · exact ⟨_, rfl, .inr rfl⟩
    obtain ⟨q, hw, hq⟩ := start_passes_iff.mpr hrest
    exact ⟨q, ⟨w, hw, hspells⟩, hq⟩

theorem wholeText_isSome_of_spells (hplain : rs.all isPlain = true)
    (hregular : (sequence rs).isRegular = true) (h : (sequence rs).Spells w) :
    ((wholeText rs).matchAt? w).isSome = true :=
  (wholeText_isSome_iff hplain hregular w).mpr ⟨w, h, .inl rfl⟩

/-- A whole text without a line feed. -/
theorem wholeText_isSome_iff_spells (hplain : rs.all isPlain = true)
    (hregular : (sequence rs).isRegular = true) (hw : Text.newline ∉ w) :
    ((wholeText rs).matchAt? w).isSome = true ↔ (sequence rs).Spells w := by
  refine ⟨fun h => ?_, wholeText_isSome_of_spells hplain hregular⟩
  obtain ⟨v, hv, rfl | rfl⟩ := (wholeText_isSome_iff hplain hregular w).mp h
  · exact hv
  · exact absurd (List.mem_append_right v (List.mem_singleton_self _)) hw

/-- Behind expressions of one fixed width only the rest of a whole text is in question. -/
theorem wholeText_append_iff {ss : List Regex} {v : Text} {n : Nat}
    (hplain : (rs ++ ss).all isPlain = true) (hregular : (rs ++ ss).all isRegular = true)
    (hwidth : (sequence rs).width (fun _ => ⟨0, 0⟩) = ⟨n, n⟩) (hn : n < Width.limit)
    (hw : (sequence rs).Spells w) (hline : Text.newline ∉ w ++ v) :
    ((wholeText (rs ++ ss)).matchAt? (w ++ v)).isSome = true ↔ (sequence ss).Spells v :=
  (wholeText_isSome_iff_spells hplain (isRegular_sequence.trans hregular) hline).trans
    (spells_append_iff hwidth hn hw)

/-- The texts that belong to an expression are found by matching them as whole texts. -/
theorem spells_iff_matchAt? (hplain : r.isPlain = true) (hregular : r.isRegular = true)
    (hw : Text.newline ∉ w) :
    r.Spells w ↔ ((wholeText [r]).matchAt? w).isSome = true :=
  (@wholeText_isSome_iff_spells [r] w ((Bool.and_true _).trans hplain) hregular hw).symm

end Building

end Regex

end Conform
