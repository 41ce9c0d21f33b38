import Conform.Proofs.Pattern.Language

/-!
# Patterns of single lines

What a pattern takes from a text are the code points of its atoms. If none of these ends a line,
then what is matched is a part of one line. A line feed behind the text changes nothing, as long as
no atom of the pattern, in conditions or outside of them, is a line feed, and no condition tells the
end of the text from the place in front of such a line feed.

## Main definitions

- `Text.lineTerminators` — the code points that end lines
- `Regex.takers` — the atoms by which an expression takes code points
- `Regex.isIndifferent` — the expressions that a line feed behind the text makes no difference to
- `Regex.matchAt?_line_iff` — such patterns match lines, which may have a line feed behind them
-/

namespace Conform

/-- The code points that end lines. -/
def Text.lineTerminators : Text := [0x0A, 0x0B, 0x0C, 0x0D, 0x1C, 0x1D, 0x1E, 0x85, 0x2028, 0x2029]

section Printable

variable {c d low high key : Nat}

/-- What is told of the code points that end lines by going through them. -/
theorem Text.lineTerminator_spec (h : c ∈ lineTerminators) :
    (c < 32 ∨ 127 ≤ c) ∧ lowerOne c = c ∧ otherCases c = [] := by
  revert c
  decide

/-- Set members that hold printable ASCII code points as they stand. -/
def SetItem.isPrintable : SetItem → Bool
  | .one c => 32 ≤ c && c < 127
  | .range low high => 32 ≤ low && high < 127
  | .named _ _ _ => false

/-- A range holds small forms of its code points at most. -/
theorem exists_of_foldedBetween (h : foldedBetween low high key = true) :
    low ≤ key ∧ key ≤ high ∨
      ∃ c : Nat, low ≤ c ∧ c ≤ high ∧ Text.lowerOne c ∈ key :: Text.otherCases key := by
  rcases Bool.or_eq_true _ _ ▸ h with h | h
  · have hbounds := (Bool.and_eq_true_iff.mp h).1
    exact .inl (by simpa using hbounds)
  · obtain ⟨small, hsmall, h⟩ := List.any_eq_true.mp h
    obtain ⟨c, hc, hbounds⟩ := List.any_eq_true.mp h
    have hlower : Text.lowerOne c = small := by
      have := (List.mem_filter.mp hc).2
      simpa using this
    obtain ⟨hlow, hhigh⟩ : low ≤ c ∧ c ≤ high := by simpa using hbounds
    exact .inr ⟨c, hlow, hhigh, hlower ▸ hsmall⟩

/-- Letter case keeps printable ASCII together, and apart from what ends lines. -/
theorem Text.exists_lowerOne (hlow : 32 ≤ d) (hhigh : d < 127) :
    ∃ small : Nat, lowerOne d = small ∧ 32 ≤ small ∧ small < 127 ∧
      ∀ c ∈ lineTerminators, (otherCases small).contains c = false := by
  have heach : ∀ d < 127, 32 ≤ d → 32 ≤ lowerOne d ∧ lowerOne d < 127 ∧
      ∀ c ∈ lineTerminators, (otherCases (lowerOne d)).contains c = false := by decide +kernel
  exact ⟨lowerOne d, rfl, heach d hhigh hlow⟩

theorem Folding.key_lineTerminator (folding : Folding) (hc : c ∈ Text.lineTerminators) :
    folding.key c = c := by
  obtain ⟨hrange, hlower, -⟩ := Text.lineTerminator_spec hc
  cases folding with
  | exact => rfl
  | ascii =>
    have hletter : ¬(65 ≤ c ∧ c ≤ 90) := by omega
    exact if_neg hletter
  | unicode => exact hlower

theorem SetItem.not_has_one (hlow : 32 ≤ d) (hhigh : d < 127) (hc : c ∈ Text.lineTerminators)
    (folding : Folding) : (SetItem.one d).has folding c = false := by
  obtain ⟨hrange, -, -⟩ := Text.lineTerminator_spec hc
  obtain ⟨small, hsmall, hl, hh, hcontains⟩ := Text.exists_lowerOne hlow hhigh
  have hapart {e : Nat} (he : 32 ≤ e) (he' : e < 127) : (c == e) = false :=
    beq_eq_false_iff_ne.mpr fun heq => by omega
  cases folding with
  | exact => exact hapart hlow hhigh
  | ascii =>
    change (c == if 65 ≤ d ∧ d ≤ 90 then d + 32 else d) = false
    split
    · exact hapart (by omega) (by omega)
    · exact hapart hlow hhigh
  | unicode =>
    have hplane : ¬small > 0xFFFF := by omega
    have hfalse : (c == small || (Text.otherCases small).contains c) = false := by
      rw [hapart hl hh, hcontains c hc]
      rfl
    rw [has, hsmall]
    exact (if_neg hplane).trans hfalse

theorem SetItem.not_has_range (hlow : 32 ≤ low) (hhigh : high < 127)
    (hc : c ∈ Text.lineTerminators) (folding : Folding) :
    (SetItem.range low high).has folding c = false := by
  obtain ⟨hrange, -, hother⟩ := Text.lineTerminator_spec hc
  have hapart : (decide (low ≤ c) && decide (c ≤ high)) = false := by
    simp only [Bool.and_eq_false_iff, decide_eq_false_iff_not]
    omega
  cases folding with
  | exact => exact hapart
  | ascii =>
    have hletter : (decide (97 ≤ c) && decide (c ≤ 122)) = false := by
      simp only [Bool.and_eq_false_iff, decide_eq_false_iff_not]
      omega
    change (decide (low ≤ c) && decide (c ≤ high) || decide (97 ≤ c) && decide (c ≤ 122) &&
      decide (low ≤ c - 32) && decide (c - 32 ≤ high)) = false
    rw [hapart, hletter]
    rfl
  | unicode =>
    have hfolded : foldedBetween low (min high 0xFFFF) c = false := by
      by_contra hnot
      have hbounds : min high 0xFFFF < 127 := by omega
      rcases exists_of_foldedBetween (by simpa using hnot) with hin | ⟨d, hd, hd', hlower⟩
      · omega
      · obtain ⟨small, hsmall, hl, hh, -⟩ := Text.exists_lowerOne (d := d) (by omega) (by omega)
        rw [hother, List.mem_singleton, hsmall] at hlower
        subst hlower
        omega
    have hplane : decide (high > 0xFFFF) = false := decide_eq_false (by omega)
    change (foldedBetween low (min high 0xFFFF) c || decide (high > 0xFFFF) && _) = false
    rw [hfolded, hplane]
    rfl

theorem SetItem.not_has_of_isPrintable {item : SetItem} (h : item.isPrintable = true)
    (hc : c ∈ Text.lineTerminators) (folding : Folding) : item.has folding c = false := by
  cases item with
  | one d =>
    obtain ⟨hlow, hhigh⟩ := Bool.and_eq_true_iff.mp h
    exact not_has_one (of_decide_eq_true hlow) (of_decide_eq_true hhigh) hc folding
  | range low high =>
    obtain ⟨hlow, hhigh⟩ := Bool.and_eq_true_iff.mp h
    exact not_has_range (of_decide_eq_true hlow) (of_decide_eq_true hhigh) hc folding
  | named => cases h

end Printable

/-- Sets of printable ASCII code points, whatever their case. -/
def Atom.isPrintable : Atom → Bool
  | .set s => !s.negated && s.items.all SetItem.isPrintable
  | _ => false

/-- The atoms that match nothing that ends a line. -/
def Atom.isInline (a : Atom) : Bool :=
  a.isPrintable || Text.lineTerminators.all fun c => !a.has c

theorem Atom.not_has_of_isInline {a : Atom} {c : CodePoint} (h : a.isInline = true)
    (hc : c ∈ Text.lineTerminators) : a.has c = false := by
  rcases Bool.or_eq_true _ _ ▸ h with h | h
  · cases a with
    | set s =>
      obtain ⟨hnegated, hitems⟩ := Bool.and_eq_true_iff.mp h
      have hnone : (s.items.any fun item => item.has s.folding (s.folding.key c)) = false := by
        rw [Folding.key_lineTerminator s.folding hc]
        refine List.any_eq_false.mpr fun item hitem => ?_
        rw [SetItem.not_has_of_isPrintable (List.all_eq_true.mp hitems item hitem) hc]
        exact Bool.false_ne_true
      change ((s.items.any fun item => item.has s.folding (s.folding.key c)) != s.negated) = false
      rw [hnone]
      simpa using hnegated
    | one | anyButNewline | any => cases h
  · simpa using List.all_eq_true.mp h c hc

/-- The same place in a text with a line feed behind it. -/
def Place.extended (p : Place) : Place := { p with after := p.after ++ [Text.newline] }

namespace Regex

/-- The atoms by which an expression takes code points. -/
def takers : Regex → List Atom
  | .unit a => [a]
  | .seq r s | .alt r s => r.takers ++ s.takers
  | .rounds _ _ _ r | .group _ r | .scope r => r.takers
  | .empty | .anchor _ | .ahead _ _ | .behind _ _ _ => []
  | .atomic _ | .backref _ _ | .ifGroup _ _ _ => []

/-- The conditions that hold in front of a line feed at the end of a text as they do at its end. -/
def isIndifferentAnchor : Anchor → Bool
  | .textStart | .lineStart | .lineEnd | .finalEnd | .boundary _ false => true
  | .textEnd | .boundary _ true => false

/-- The expressions that a line feed behind the text makes no difference to. -/
def isIndifferent : Regex → Bool
  | .empty => true
  | .unit a => a.isInline || !a.has Text.newline
  | .anchor a => isIndifferentAnchor a
  | .seq r s | .alt r s => r.isIndifferent && s.isIndifferent
  | .rounds _ _ _ r | .group _ r | .scope r | .ahead _ r => r.isIndifferent
  | .behind _ _ _ | .atomic _ | .backref _ _ | .ifGroup _ _ _ => false

section Taking

variable {r : Regex} {p q : Place} {P : CodePoint → Prop}

/-- What is taken consists of code points that atoms take. -/
theorem Matches.each (h : r.Matches p q) (hr : ∀ a ∈ r.takers, ∀ c, a.has c = true → P c) :
    ∃ w, p.Passes w q ∧ ∀ c ∈ w, P c := by
  induction r generalizing p q with
  | empty => exact ⟨[], Place.passes_nil.mpr h, List.forall_mem_nil _⟩
  | unit a =>
    obtain ⟨c, hc, ha⟩ := h
    exact ⟨[c], hc, List.forall_mem_singleton.mpr (hr a List.mem_cons_self c ha)⟩
  | seq r s ihr ihs =>
    obtain ⟨hr, hs⟩ := List.forall_mem_append.mp hr
    obtain ⟨m, hm, hq⟩ := h
    obtain ⟨w, hw, hPw⟩ := ihr hm hr
    obtain ⟨v, hv, hPv⟩ := ihs hq hs
    exact ⟨w ++ v, hw.trans hv, List.forall_mem_append.mpr ⟨hPw, hPv⟩⟩
  | alt r s ihr ihs =>
    obtain ⟨hr, hs⟩ := List.forall_mem_append.mp hr
    exact h.elim (fun h => ihr h hr) fun h => ihs h hs
  | rounds greed least most r ih =>
    obtain ⟨n, -, -, hn⟩ := h
    induction n generalizing p with
    | zero => exact ⟨[], Place.passes_nil.mpr hn, List.forall_mem_nil _⟩
    | succ n ihn =>
      obtain ⟨m, hm, hmore⟩ := hn
      obtain ⟨w, hw, hPw⟩ := ih hm hr
      obtain ⟨v, hv, hPv⟩ := ihn hmore
      exact ⟨w ++ v, hw.trans hv, List.forall_mem_append.mpr ⟨hPw, hPv⟩⟩
  | group index r ih => exact ih h hr
  | scope r ih => exact ih h hr
  | anchor | ahead | behind => exact ⟨[], Place.passes_nil.mpr h.1, List.forall_mem_nil _⟩
  | atomic | backref | ifGroup => exact h.elim

end Taking

section Extending

variable {r : Regex} {p q : Place} {a : Anchor}

theorem holds_extended (ha : isIndifferentAnchor a = true) (hp : Text.newline ∉ p.after) :
    p.extended.holds a = p.holds a := by
  obtain ⟨before, after, index⟩ := p
  cases a with
  | textStart | lineStart => rfl
  | textEnd => cases ha
  | lineEnd => cases after <;> rfl
  | finalEnd =>
    cases after with
    | nil => rfl
    | cons c cs =>
      have hc : (c == Text.newline) = false :=
        beq_eq_false_iff_ne.mpr fun h => hp (h ▸ List.mem_cons_self)
      simp only [Place.holds, Place.extended, List.cons_append, List.cons_beq_cons, hc]
      rfl
  | boundary repertoire negated =>
    cases negated with
    | true => cases ha
    | false =>
      cases after with
      | nil =>
        have hnewline : ClassName.word.has repertoire Text.newline = false := by
          cases repertoire <;> decide
        cases before <;> simp [Place.holds, Place.extended, Place.atBoundary, hnewline]
      | cons c cs => cases before <;> rfl

/-- The text that is left behind a place is a part of what was left before. -/
theorem Matches.newline_not_mem (h : r.Matches p q) (hp : Text.newline ∉ p.after) :
    Text.newline ∉ q.after := by
  obtain ⟨w, hw⟩ := h.passes
  exact fun hmem => hp (hw.after ▸ List.mem_append_right w hmem)

theorem unit_matches_extended {b : Atom} (h : b.has Text.newline = false) :
    Matches (.unit b) p.extended q ↔ ∃ m, q = m.extended ∧ Matches (.unit b) p m := by
  cases hafter : p.after with
  | nil =>
    have hextended : p.extended.after = [Text.newline] := congrArg (· ++ [Text.newline]) hafter
    rw [unit_matches_iff hextended, h]
    refine iff_of_false nofun ?_
    rintro ⟨m, -, hm⟩
    exact not_unit_matches_of_nil hafter hm
  | cons c cs =>
    have hextended : p.extended.after = c :: (cs ++ [Text.newline]) :=
      congrArg (· ++ [Text.newline]) hafter
    simp only [unit_matches_iff hextended, unit_matches_iff hafter]
    constructor
    · rintro ⟨hc, rfl⟩
      exact ⟨_, rfl, hc, rfl⟩
    · rintro ⟨m, rfl, hc, rfl⟩
      exact ⟨hc, rfl⟩

/-- A line feed behind the text makes no difference to rounds if it makes none to one of them. -/
theorem rounds_extended {n : Nat}
    (hr : ∀ {p q : Place}, Text.newline ∉ p.after →
      (r.Matches p.extended q ↔ ∃ m, q = m.extended ∧ r.Matches p m))
    (hp : Text.newline ∉ p.after) :
    Rounds r.Matches n p.extended q ↔ ∃ m, q = m.extended ∧ Rounds r.Matches n p m := by
  induction n generalizing p with
  | zero => simp [Rounds]
  | succ n ih =>
    constructor
    · rintro ⟨m', hm', hmore⟩
      obtain ⟨m, rfl, hm⟩ := (hr hp).mp hm'
      obtain ⟨u, rfl, hu⟩ := (ih (hm.newline_not_mem hp)).mp hmore
      exact ⟨u, rfl, m, hm, hu⟩
    · rintro ⟨u, rfl, m, hm, hu⟩
      exact ⟨m.extended, (hr hp).mpr ⟨m, rfl, hm⟩,
        (ih (hm.newline_not_mem hp)).mpr ⟨u, rfl, hu⟩⟩

/-- A line feed behind the text makes no difference. -/
theorem matches_extended (h : r.isIndifferent = true) (hp : Text.newline ∉ p.after) :
    r.Matches p.extended q ↔ ∃ m, q = m.extended ∧ r.Matches p m := by
  induction r generalizing p q with
  | empty => simp [Matches]
  | unit b =>
    refine unit_matches_extended ?_
    rcases Bool.or_eq_true _ _ ▸ h with h | h
    · exact Atom.not_has_of_isInline h (by decide)
    · simpa using h
  | anchor a =>
    simp only [Matches, holds_extended h hp]
    constructor
    · rintro ⟨rfl, ha⟩
      exact ⟨p, rfl, rfl, ha⟩
    · rintro ⟨m, rfl, rfl, ha⟩
      exact ⟨rfl, ha⟩
  | seq r s ihr ihs =>
    obtain ⟨hr, hs⟩ := Bool.and_eq_true_iff.mp h
    constructor
    · rintro ⟨m', hm', hq⟩
      obtain ⟨m, rfl, hm⟩ := (ihr hr hp).mp hm'
      obtain ⟨u, rfl, hu⟩ := (ihs hs (hm.newline_not_mem hp)).mp hq
      exact ⟨u, rfl, m, hm, hu⟩
    · rintro ⟨u, rfl, m, hm, hu⟩
      exact ⟨m.extended, (ihr hr hp).mpr ⟨m, rfl, hm⟩,
        (ihs hs (hm.newline_not_mem hp)).mpr ⟨u, rfl, hu⟩⟩
  | alt r s ihr ihs =>
    obtain ⟨hr, hs⟩ := Bool.and_eq_true_iff.mp h
    refine (or_congr (ihr hr hp) (ihs hs hp)).trans ?_
    rw [← exists_or]
    exact exists_congr fun m => and_or_left.symm
  | rounds greed least most r ih =>
    have hrounds (n : Nat) :
        Rounds r.Matches n p.extended q ↔ ∃ m, q = m.extended ∧ Rounds r.Matches n p m :=
      rounds_extended (fun hp => ih h hp) hp
    constructor
    · rintro ⟨n, hleast, hmost, hn⟩
      obtain ⟨m, rfl, hm⟩ := (hrounds n).mp hn
      exact ⟨m, rfl, n, hleast, hmost, hm⟩
    · rintro ⟨m, rfl, n, hleast, hmost, hm⟩
      exact ⟨n, hleast, hmost, (hrounds n).mpr ⟨m, rfl, hm⟩⟩
  | group index r ih => exact ih h hp
  | scope r ih => exact ih h hp
  | ahead negated r ih =>
    have hlook : (∃ m, r.Matches p.extended m) ↔ ∃ m, r.Matches p m := by
      constructor
      · rintro ⟨m', hm'⟩
        obtain ⟨m, -, hm⟩ := (ih h hp).mp hm'
        exact ⟨m, hm⟩
      · rintro ⟨m, hm⟩
        exact ⟨m.extended, (ih h hp).mpr ⟨m, rfl, hm⟩⟩
    simp only [Matches, hlook]
    constructor
    · rintro ⟨rfl, hfound⟩
      exact ⟨p, rfl, rfl, hfound⟩
    · rintro ⟨m, rfl, rfl, hfound⟩
      exact ⟨rfl, hfound⟩
  | behind | atomic | backref | ifGroup => cases h

end Extending

/-- The expressions that take code points of one line only, and that a line feed behind the text
makes no difference to. -/
def isInline (r : Regex) : Bool :=
  r.isPlain && r.isIndifferent && r.takers.all Atom.isInline

section Lines

variable {r : Regex} {rs : List Regex} {a : Atom} {c : CodePoint}

theorem isPlain_of_isInline (h : r.isInline = true) : r.isPlain = true :=
  (Bool.and_eq_true_iff.mp (Bool.and_eq_true_iff.mp h).1).1

theorem isIndifferent_of_isInline (h : r.isInline = true) : r.isIndifferent = true :=
  (Bool.and_eq_true_iff.mp (Bool.and_eq_true_iff.mp h).1).2

theorem not_terminator_of_isInline (h : r.isInline = true) (ha : a ∈ r.takers)
    (hc : a.has c = true) : c ∉ Text.lineTerminators := by
  intro hmem
  have hinline := List.all_eq_true.mp (Bool.and_eq_true_iff.mp h).2 a ha
  exact Bool.false_ne_true ((Atom.not_has_of_isInline hinline hmem).symm.trans hc)

theorem isInline_seq {s : Regex} (hr : r.isInline = true) (hs : s.isInline = true) :
    (Regex.seq r s).isInline = true := by
  simp only [isInline, isPlain, isIndifferent, takers, List.all_append, Bool.and_eq_true]
    at hr hs ⊢
  exact ⟨⟨⟨hr.1.1, hs.1.1⟩, hr.1.2, hs.1.2⟩, hr.2, hs.2⟩

theorem isInline_times (n : Nat) : (times n r).isInline = r.isInline := by
  have hgreed : (Greed.greedy != Greed.possessive) = true := rfl
  simp [times, isInline, isPlain, isIndifferent, takers, hgreed]

theorem isIndifferent_sequence : (sequence rs).isIndifferent = rs.all isIndifferent := by
  induction rs with
  | nil => rfl
  | cons r rs ih =>
    cases rs with
    | nil => exact (Bool.and_true _).symm
    | cons s rs => exact congrArg (r.isIndifferent && ·) ih

theorem takers_sequence : (sequence rs).takers = rs.flatMap takers := by
  induction rs with
  | nil => rfl
  | cons r rs ih =>
    cases rs with
    | nil => exact (List.append_nil _).symm
    | cons s rs => exact congrArg (r.takers ++ ·) ih

theorem isInline_wholeText (h : ∀ r ∈ rs, r.isInline = true) : (wholeText rs).isInline = true := by
  have hindifferent : (wholeText rs).isIndifferent = rs.all isIndifferent := by
    rw [wholeText, isIndifferent_sequence, List.all_cons, List.all_append]
    simp [isIndifferent, isIndifferentAnchor]
  have htakers : (wholeText rs).takers = rs.flatMap takers := by
    rw [wholeText, takers_sequence, List.flatMap_cons, List.flatMap_append]
    simp [takers]
  simp only [isInline, isPlain_wholeText, hindifferent, htakers, Bool.and_eq_true, List.all_eq_true,
    List.mem_flatMap]
  refine ⟨⟨fun r hr => isPlain_of_isInline (h r hr),
    fun r hr => isIndifferent_of_isInline (h r hr)⟩, ?_⟩
  rintro a ⟨r, hr, ha⟩
  exact List.all_eq_true.mp (Bool.and_eq_true_iff.mp (h r hr)).2 a ha

/-- The expressions at the end of which the text ends, or does so but for a line feed. -/
def endsFinally : Regex → Bool
  | .anchor .finalEnd => true
  | .seq _ s => s.endsFinally
  | _ => false

theorem Matches.endsFinally (h : r.Matches p q) (hr : r.endsFinally = true) :
    q.holds .finalEnd = true := by
  induction r generalizing p with
  | anchor a =>
    cases a with
    | finalEnd =>
      obtain ⟨rfl, hend⟩ := h
      exact hend
    | textStart | lineStart | textEnd | lineEnd | boundary => cases hr
  | seq r s ihr ihs =>
    obtain ⟨m, -, hs⟩ := h
    exact ihs hs hr
  | empty | unit | alt | rounds | group | scope | atomic | backref | ahead | behind | ifGroup =>
    cases hr

theorem endsFinally_wholeText : (wholeText rs).endsFinally = true := by
  have hlast (ss : List Regex) : (sequence (ss ++ [.anchor .finalEnd])).endsFinally = true := by
    induction ss with
    | nil => rfl
    | cons s ss ih =>
      cases ss with
      | nil => rfl
      | cons s' ss => exact ih
  exact hlast (.anchor .textStart :: rs)

/-- **Patterns of single lines**: what is matched is a line, or a line that is matched with a line
feed behind it. -/
theorem matchAt?_line_iff (h : r.isInline = true) (hend : r.endsFinally = true) (s : Text) :
    (r.matchAt? s).isSome = true ↔
      ∃ t, (s = t ∨ s = t ++ [Text.newline]) ∧ (r.matchAt? t).isSome = true ∧
        ∀ c ∈ t, c ∉ Text.lineTerminators := by
  simp only [matchAt?_isSome_iff (isPlain_of_isInline h)]
  -- A line feed behind a line makes no difference.
  have hextended {t : Text} (ht : ∀ c ∈ t, c ∉ Text.lineTerminators) :
      (∃ q, r.Matches (Place.start (t ++ [Text.newline])) q) ↔
        ∃ q, r.Matches (Place.start t) q := by
    have hp : Text.newline ∉ (Place.start t).after := fun hmem => ht _ hmem (by decide)
    have hsame (q : Place) : r.Matches (Place.start (t ++ [Text.newline])) q ↔
        ∃ m, q = m.extended ∧ r.Matches (Place.start t) m :=
      matches_extended (p := Place.start t) (isIndifferent_of_isInline h) hp
    constructor
    · rintro ⟨q, hq⟩
      obtain ⟨m, -, hm⟩ := (hsame q).mp hq
      exact ⟨m, hm⟩
    · rintro ⟨m, hm⟩
      exact ⟨m.extended, (hsame _).mpr ⟨m, rfl, hm⟩⟩
  constructor
  · rintro ⟨q, hq⟩
    obtain ⟨w, hw, hline⟩ := hq.each fun _ ha _ hc => not_terminator_of_isInline h ha hc
    rcases holds_finalEnd.mp (hq.endsFinally hend) with hrest | hrest
    · have hs : s = w := hw.after.trans (by rw [hrest, List.append_nil])
      exact ⟨w, .inl hs, ⟨q, hs ▸ hq⟩, hline⟩
    · have hs : s = w ++ [Text.newline] := hw.after.trans (by rw [hrest])
      subst hs
      exact ⟨w, .inr rfl, (hextended hline).mp ⟨q, hq⟩, hline⟩
  · rintro ⟨t, rfl | rfl, hmatch, hline⟩
    · exact hmatch
    · exact (hextended hline).mpr hmatch

end Lines

end Regex

end Conform
