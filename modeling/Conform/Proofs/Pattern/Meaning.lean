import Conform.Pattern.Match
import Mathlib.Data.List.Basic

/-!
# What expressions match

An expression relates the places of a text between which it matches. The matcher takes a way and
what happens afterwards, and finds a way to succeed exactly if there is a place that the expression
leads to and from which the rest succeeds. There is a rule for each way to put expressions together.
Expressions that look back at groups, or that give up ways for good, are left out.

## Main definitions

- `Place.Passes` — a text stands between two places
- `Regex.Matches` — what an expression matches
- `Regex.isPlain` — the expressions whose matching is found in every case
- `Regex.Goes` — a matcher finds what there is to find
- `Regex.goes_run`, `Regex.matchAt?_isSome_iff` — so do the matchers of expressions
-/

namespace Conform

/-- A text stands between two places. -/
structure Place.Passes (p : Place) (w : Text) (q : Place) : Prop where
  after : p.after = w ++ q.after
  before : q.before = w.reverse ++ p.before
  index : q.index = p.index + w.length

section Passing

variable {p q m : Place} {w v : Text} {c : CodePoint}

theorem Place.passes_nil : p.Passes [] q ↔ q = p := by
  constructor
  · intro h
    obtain ⟨before, after, index⟩ := q
    obtain ⟨hafter, rfl, rfl⟩ := h
    obtain rfl : p.after = after := hafter
    rfl
  · rintro rfl
    exact ⟨rfl, rfl, rfl⟩

theorem Place.Passes.trans (h : p.Passes w m) (h' : m.Passes v q) : p.Passes (w ++ v) q where
  after := by rw [h.after, h'.after, List.append_assoc]
  before := by rw [h'.before, h.before, List.reverse_append, List.append_assoc]
  index := by rw [h'.index, h.index, List.length_append, Nat.add_assoc]

theorem Place.Passes.split (h : p.Passes (w ++ v) q) : ∃ m, p.Passes w m ∧ m.Passes v q := by
  refine ⟨⟨w.reverse ++ p.before, v ++ q.after, p.index + w.length⟩, ⟨?_, rfl, rfl⟩, rfl, ?_, ?_⟩
  · rw [h.after, List.append_assoc]
  · rw [h.before, List.reverse_append, List.append_assoc]
  · rw [h.index, List.length_append, Nat.add_assoc]

/-- The place behind the next code point. -/
theorem Place.next?_eq_some_iff : p.next? = some (c, q) ↔ p.Passes [c] q := by
  unfold Place.next?
  constructor
  · intro h
    split at h
    · cases h
    · rename_i c cs hafter
      cases h
      exact ⟨hafter, rfl, rfl⟩
  · intro h
    obtain ⟨before, after, index⟩ := q
    obtain ⟨hafter, rfl, rfl⟩ := h
    rw [hafter]
    rfl

theorem Place.Passes.length (h : p.Passes w q) : p.after.length = w.length + q.after.length := by
  rw [h.after, List.length_append]

/-- A way that has moved has less of the text in front of it. -/
theorem Place.Passes.shorter (h : p.Passes w q) (hne : q ≠ p) :
    q.after.length < p.after.length := by
  have hw : w ≠ [] := by
    rintro rfl
    exact hne (passes_nil.mp h)
  have := List.length_pos_iff.mpr hw
  have := h.length
  omega

/-- A way that has not moved is where it was. -/
theorem Place.Passes.eq_of_index (h : p.Passes w q) (hindex : q.index = p.index) : q = p := by
  have hlength : w.length = 0 := by
    have := h.index
    omega
  obtain rfl := List.length_eq_zero_iff.mp hlength
  exact passes_nil.mp h

end Passing

namespace Regex

/-- So many steps of a relation. -/
def Rounds (R : Place → Place → Prop) : Nat → Place → Place → Prop
  | 0, p, q => q = p
  | n + 1, p, q => ∃ m, R p m ∧ Rounds R n m q

/-- Between which places an expression matches. -/
def Matches : Regex → Place → Place → Prop
  | .empty, p, q => q = p
  | .unit a, p, q => ∃ c, p.Passes [c] q ∧ a.has c = true
  | .anchor a, p, q => q = p ∧ p.holds a = true
  | .seq r s, p, q => ∃ m, r.Matches p m ∧ s.Matches m q
  | .alt r s, p, q => r.Matches p q ∨ s.Matches p q
  | .rounds _ least most r, p, q => ∃ n, least ≤ n ∧ (∀ m ∈ most, n ≤ m) ∧ Rounds r.Matches n p q
  | .group _ r, p, q => r.Matches p q
  | .scope r, p, q => r.Matches p q
  | .ahead negated r, p, q => q = p ∧ ((∃ m, r.Matches p m) ↔ negated = false)
  | .behind negated width r, p, q =>
    q = p ∧ ((∃ b, p.back? width = some b ∧ ∃ m, r.Matches b m) ↔ negated = false)
  | .atomic _, _, _ => False
  | .backref _ _, _, _ => False
  | .ifGroup _ _ _, _, _ => False

/-- The expressions that neither look back at groups nor give up ways for good. -/
def isPlain : Regex → Bool
  | .empty | .unit _ | .anchor _ => true
  | .seq r s | .alt r s => r.isPlain && s.isPlain
  | .rounds greed least most r => greed != .possessive && most.all (least ≤ ·) && r.isPlain
  | .group _ r | .scope r | .ahead _ r | .behind _ _ r => r.isPlain
  | .atomic _ | .backref _ _ | .ifGroup _ _ _ => false

section Relations

variable {R : Place → Place → Prop} {r : Regex} {p q : Place} {n : Nat}

theorem Rounds.passes (hR : ∀ p q, R p q → ∃ w, p.Passes w q) (h : Rounds R n p q) :
    ∃ w, p.Passes w q := by
  induction n generalizing p with
  | zero => exact ⟨[], Place.passes_nil.mpr h⟩
  | succ n ih =>
    obtain ⟨m, hfirst, hmore⟩ := h
    obtain ⟨w, hw⟩ := hR p m hfirst
    obtain ⟨v, hv⟩ := ih hmore
    exact ⟨w ++ v, hw.trans hv⟩

/-- An expression leads on through the text. -/
theorem Matches.passes (h : r.Matches p q) : ∃ w, p.Passes w q := by
  induction r generalizing p q with
  | empty => exact ⟨[], Place.passes_nil.mpr h⟩
  | unit a =>
    obtain ⟨c, hc, -⟩ := h
    exact ⟨[c], hc⟩
  | anchor a => exact ⟨[], Place.passes_nil.mpr h.1⟩
  | seq r s ihr ihs =>
    obtain ⟨m, hr, hs⟩ := h
    obtain ⟨w, hw⟩ := ihr hr
    obtain ⟨v, hv⟩ := ihs hs
    exact ⟨w ++ v, hw.trans hv⟩
  | alt r s ihr ihs => exact h.elim ihr ihs
  | rounds greed least most r ih =>
    obtain ⟨n, -, -, hn⟩ := h
    exact Rounds.passes (fun _ _ => ih) hn
  | group index r ih => exact ih h
  | scope r ih => exact ih h
  | ahead negated r ih => exact ⟨[], Place.passes_nil.mpr h.1⟩
  | behind negated width r ih => exact ⟨[], Place.passes_nil.mpr h.1⟩
  | atomic | backref | ifGroup => exact h.elim

end Relations

/-- At a place an atom matches. -/
def Offers (p : Place) (a : Atom) : Prop := ∃ q, (Regex.unit a).Matches p q

/-- What happens behind a relation from a way on: it succeeds at the places with a property, and all
of these offer what is announced. -/
structure Rest (R : Place → Place → Prop) (next : Option Atom) (w : Way) (k : Continuation)
    (P : Place → Prop) : Prop where
  decides : ∀ v : Way, R w.place v.place → ((k v).isOk = true ↔ P v.place)
  opens : ∀ a ∈ next, ∀ q, R w.place q → P q → Offers q a

/-- A matcher succeeds exactly if the relation leads to a place from which the rest succeeds. -/
def Goes (next : Option Atom) (m : Matcher) (R : Place → Place → Prop) : Prop :=
  ∀ (w : Way) (k : Continuation) (P : Place → Prop), Rest R next w k P →
    ((m w k).isOk = true ↔ ∃ q, R w.place q ∧ P q)

section Outcomes

variable {w : Way} {p q : Place} {a : Atom} {r : Regex} {t : Trail}

@[simp] theorem isOk_ok (w : Way) : (.ok w : Outcome).isOk = true := rfl

@[simp] theorem isOk_error (t : Trail) : (.error t : Outcome).isOk = false := rfl

@[simp] theorem isOk_mapError (o : Outcome) (f : Trail → Trail) : (o.mapError f).isOk = o.isOk := by
  cases o <;> rfl

@[simp] theorem isOk_turnedAt (o : Outcome) (p : Place) : (o.turnedAt p).isOk = o.isOk :=
  isOk_mapError o _

/-- An expression that begins with an atom matches where the atom does. -/
theorem Matches.opening {next : Option Atom} (h : r.Matches p q) (hnext : ∀ a ∈ next, Offers q a) :
    ∀ a ∈ r.opening next, Offers p a := by
  induction r generalizing p q next with
  | empty =>
    obtain rfl : q = p := h
    exact hnext
  | unit b =>
    intro a ha
    obtain rfl := Option.some.inj ha
    exact ⟨q, h⟩
  | scope r ih => exact ih h hnext
  | seq r s ihr ihs =>
    obtain ⟨m, hr, hs⟩ := h
    exact ihr hr (ihs hs hnext)
  | anchor | alt | rounds | group | atomic | backref | ahead | behind | ifGroup => nofun

theorem not_offers_of_bars (h : p.bars a = true) : ¬Offers p a := by
  rintro ⟨q, c, hc, ha⟩
  have hbars := (Bool.and_eq_true_iff.mp h).2
  rw [hc.after] at hbars
  simp [ha] at hbars

end Outcomes

section Rules

variable {next : Option Atom} {m : Matcher} {R S : Place → Place → Prop} {looping : Bool}
  {r s : Regex}

/-- Where a relation does not move on, the rest decides. -/
theorem Rest.stays {w v : Way} {k : Continuation} {P : Place → Prop} (h : Rest R next w k P)
    (hR : ∀ q, R w.place q ↔ q = w.place) (hv : v.place = w.place) :
    (k v).isOk = true ↔ ∃ q, R w.place q ∧ P q := by
  rw [h.decides v ((hR v.place).mpr hv), hv]
  exact ⟨fun hP => ⟨w.place, (hR w.place).mpr rfl, hP⟩, fun ⟨q, hq, hP⟩ => (hR q).mp hq ▸ hP⟩

theorem goes_empty : Goes next (run looping next .empty) (Matches .empty) := by
  intro w k P h
  rw [run]
  exact h.stays (fun _ => Iff.rfl) rfl

theorem goes_unit (a : Atom) : Goes next (run looping next (.unit a)) (Matches (.unit a)) := by
  intro w k P h
  rw [run]
  split
  · rename_i c q hnext
    have hpasses := Place.next?_eq_some_iff.mp hnext
    have hunique {q' : Place} {d : CodePoint} (h' : w.place.Passes [d] q') : d = c ∧ q' = q := by
      have hsame := (Place.next?_eq_some_iff.mpr h').symm.trans hnext
      exact Prod.mk.inj (Option.some.inj hsame)
    split
    · rename_i ha
      rw [h.decides (w.moved q) ⟨c, hpasses, ha⟩]
      refine ⟨fun hP => ⟨q, ⟨c, hpasses, ha⟩, hP⟩, ?_⟩
      rintro ⟨q', ⟨d, hd, -⟩, hP⟩
      obtain ⟨-, rfl⟩ := hunique hd
      exact hP
    · rename_i ha
      refine iff_of_false nofun ?_
      rintro ⟨q', ⟨d, hd, hhas⟩, -⟩
      obtain ⟨rfl, -⟩ := hunique hd
      exact ha hhas
  · rename_i hnone
    refine iff_of_false nofun ?_
    rintro ⟨q', ⟨d, hd, -⟩, -⟩
    cases hnone.symm.trans (Place.next?_eq_some_iff.mpr hd)

theorem goes_anchor (a : Anchor) :
    Goes next (run looping next (.anchor a)) (Matches (.anchor a)) := by
  intro w k P h
  rw [run]
  split
  · rename_i ha
    exact h.stays (fun _ => and_iff_left ha) rfl
  · rename_i ha
    exact iff_of_false nofun fun ⟨q, hq, _⟩ => ha hq.2

theorem Goes.seq (hr : Goes (s.opening next) (run looping (s.opening next) r) r.Matches)
    (hs : Goes next (run looping next s) s.Matches) :
    Goes next (run looping next (.seq r s)) (Matches (.seq r s)) := by
  intro w k P h
  rw [run]
  have hrest : Rest r.Matches (s.opening next) w (fun v => run looping next s v k)
      fun m => ∃ q, s.Matches m q ∧ P q := by
    refine ⟨fun v hv => hs v k P ⟨fun u hu => h.decides u ⟨_, hv, hu⟩, fun a ha q hq => ?_⟩, ?_⟩
    · exact h.opens a ha q ⟨_, hv, hq⟩
    · rintro a ha m hm ⟨q, hq, hP⟩
      exact hq.opening (fun b hb => h.opens b hb q ⟨m, hm, hq⟩ hP) a ha
  rw [hr w _ _ hrest]
  constructor
  · rintro ⟨m, hm, q, hq, hP⟩
    exact ⟨q, ⟨m, hm, hq⟩, hP⟩
  · rintro ⟨q, ⟨m, hm, hq⟩, hP⟩
    exact ⟨m, hm, q, hq, hP⟩

/-- No way is lost if an expression is not tried because its first atom cannot match. -/
theorem Goes.attempt (hr : Goes none m r.Matches) : Goes none (attempt r m) r.Matches := by
  intro w k P h
  rw [Regex.attempt]
  split
  · rename_i hbars
    refine iff_of_false nofun ?_
    rintro ⟨q, hq, -⟩
    obtain ⟨a, ha, hbar⟩ := (Option.any_eq_true _ _).mp hbars
    have hnothing : ∀ b ∈ (none : Option Atom), Offers q b := nofun
    exact not_offers_of_bars hbar (hq.opening hnothing a ha)
  · exact hr w.turned k P ⟨h.decides, h.opens⟩

theorem Goes.alt (hr : Goes none (run looping none r) r.Matches)
    (hs : Goes none (run looping none s) s.Matches) :
    Goes next (run looping next (.alt r s)) (Matches (.alt r s)) := by
  intro w k P h
  have hleft : Rest r.Matches none w k P := ⟨fun v hv => h.decides v (.inl hv), nofun⟩
  have hright (v : Way) (hv : v.place = w.place) : Rest s.Matches none v k P :=
    ⟨fun u hu => h.decides u (.inr (hv ▸ hu)), nofun⟩
  have hfirst := hr.attempt w k P hleft
  rw [run]
  cases hway : Regex.attempt r (run looping none r) w k with
  | ok v =>
    rw [hway] at hfirst
    obtain ⟨q, hq, hP⟩ := hfirst.mp rfl
    exact iff_of_true rfl ⟨q, .inl hq, hP⟩
  | error t =>
    rw [hway] at hfirst
    let v : Way := ⟨t.restored looping w.bounds, w.place⟩
    have hnone : ¬∃ q, r.Matches w.place q ∧ P q := fun hleft => nomatch hfirst.mpr hleft
    have hsecond : (∃ q, (Regex.alt r s).Matches w.place q ∧ P q) ↔
        ∃ q, s.Matches v.place q ∧ P q := by
      refine exists_congr fun q => and_congr_left fun hP => or_iff_right fun hq => ?_
      exact hnone ⟨q, hq, hP⟩
    dsimp only
    rw [hsecond]
    split
    · exact hs v k P (hright v rfl)
    · rw [isOk_mapError]
      exact hs.attempt v k P (hright v rfl)

end Rules

section Repetition

variable {body : Matcher} {R : Place → Place → Prop} {least count fuel : Nat} {most : Option Nat}
  {P : Place → Prop} {p q : Place} {k : Continuation}

/-- After some rounds, a place with a property can be reached by further ones. -/
def Reaches (R : Place → Place → Prop) (least : Nat) (most : Option Nat) (P : Place → Prop)
    (count : Nat) (p : Place) : Prop :=
  ∃ n q, least ≤ count + n ∧ (∀ m ∈ most, count + n ≤ m) ∧ Rounds R n p q ∧ P q

theorem mayRepeat_iff : mayRepeat most count = true ↔ ∀ m ∈ most, count + 1 ≤ m := by
  cases most with
  | none => simp [mayRepeat]
  | some m =>
    constructor
    · rintro h _ ⟨rfl⟩
      exact of_decide_eq_true h
    · intro h
      exact decide_eq_true (h m rfl)

/-- There are too few rounds yet. -/
theorem reaches_of_lt (h : count < least) :
    Reaches R least most P count p ↔ ∃ v, R p v ∧ Reaches R least most P (count + 1) v := by
  constructor
  · rintro ⟨n, q, hleast, hmost, hrounds, hP⟩
    cases n with
    | zero => omega
    | succ n =>
      obtain ⟨v, hv, hmore⟩ := hrounds
      refine ⟨v, hv, n, q, by omega, fun m hm => ?_, hmore, hP⟩
      have := hmost m hm
      omega
  · rintro ⟨v, hv, n, q, hleast, hmost, hrounds, hP⟩
    refine ⟨n + 1, q, by omega, fun m hm => ?_, ⟨v, hv, hrounds⟩, hP⟩
    have := hmost m hm
    omega

/-- There are enough rounds, and a further one need not be taken unless it moves on. -/
theorem reaches_of_le (hleast : least ≤ count) (hcount : ∀ m ∈ most, count ≤ m) :
    Reaches R least most P count p ↔
      P p ∨ mayRepeat most count = true ∧
        ∃ v, R p v ∧ v ≠ p ∧ Reaches R least most P (count + 1) v := by
  constructor
  · rintro ⟨n, q, -, hmost, hrounds, hP⟩
    induction n with
    | zero =>
      obtain rfl : q = p := hrounds
      exact .inl hP
    | succ n ih =>
      obtain ⟨v, hv, hmore⟩ := hrounds
      by_cases hmoved : v = p
      · -- The round leads back to where it began, so it is left out.
        subst hmoved
        exact ih (fun m hm => Nat.le_of_succ_le (hmost m hm)) hmore
      · refine .inr ⟨mayRepeat_iff.mpr fun m hm => ?_, v, hv, hmoved, n, q, by omega,
          fun m hm => ?_, hmore, hP⟩
        · have := hmost m hm
          omega
        · have := hmost m hm
          omega
  · rintro (hP | ⟨-, v, hv, -, n, q, -, hmost, hrounds, hP⟩)
    · exact ⟨0, p, hleast, hcount, rfl, hP⟩
    · refine ⟨n + 1, q, by omega, fun m hm => ?_, ⟨v, hv, hrounds⟩, hP⟩
      have := hmost m hm
      omega

/-- A round comes before further ones. -/
theorem Reaches.step {v : Place} (hv : R p v) (h : Reaches R least most P (count + 1) v) :
    Reaches R least most P count p := by
  obtain ⟨n, q, hleast, hmost, hrounds, hP⟩ := h
  refine ⟨n + 1, q, by omega, fun m hm => ?_, ⟨v, hv, hrounds⟩, hP⟩
  have := hmost m hm
  omega

/-- The rounds of a body: a round has to be taken while there are too few, and may be taken
afterwards if the last one that need not have been taken has moved on. -/
structure Repeats (body : Matcher) (least : Nat) (most : Option Nat)
    (rounds : (fuel count : Nat) → (last : Option Nat) → Matcher) : Prop where
  stop : ∀ count last w k, rounds 0 count last w k = k w
  few : ∀ fuel count last w k, count < least →
    (rounds (fuel + 1) count last w k).isOk =
      (body w.turned fun v => rounds fuel (count + 1) last v k).isOk
  enough : ∀ fuel count last w k, least ≤ count → ∃ start : Way, start.place = w.place ∧
    ((rounds (fuel + 1) count last w k).isOk = true ↔
      (k w.turned).isOk = true ∨ (mayRepeat most count = true ∧ last ≠ some w.place.index) ∧
        (body start fun v => rounds fuel (count + 1) (some w.place.index) v k).isOk = true)

theorem repeats_greedyRounds (body : Matcher) (least : Nat) (most : Option Nat) :
    Repeats body least most (greedyRounds body least most) where
  stop _ _ _ _ := rfl
  few fuel count last w k h := by
    rw [greedyRounds, if_pos h, isOk_turnedAt]
  enough fuel count last w k h := by
    refine ⟨w.turned, rfl, ?_⟩
    rw [greedyRounds, if_neg (Nat.not_lt.mpr h)]
    by_cases hround : mayRepeat most count = true ∧ last ≠ some w.place.index
    · rw [if_pos (by simpa using hround)]
      cases hway : body w.turned fun v =>
          greedyRounds body least most fuel (count + 1) (some w.place.index) v k with
      | ok v => simp [hround]
      | error t => simp
    · rw [if_neg (by simpa using hround)]
      simp [hround]

theorem repeats_lazyRounds (body : Matcher) (looping : Bool) (least : Nat) (most : Option Nat) :
    Repeats body least most (lazyRounds body looping least most) where
  stop _ _ _ _ := rfl
  few fuel count last w k h := by
    rw [lazyRounds]
    dsimp only
    rw [if_pos h, isOk_turnedAt]
  enough fuel count last w k h := by
    rw [lazyRounds]
    dsimp only
    rw [if_neg (Nat.not_lt.mpr h)]
    cases hway : k w.turned with
    | ok v => exact ⟨w.turned, rfl, by simp⟩
    | error t =>
      refine ⟨⟨(t.restored looping w.bounds).turnedAt w.place, w.place⟩, rfl, ?_⟩
      by_cases hround : mayRepeat most count = true ∧ last ≠ some w.place.index
      · dsimp only
        rw [if_pos (by simpa using hround), isOk_turnedAt]
        simp [hround]
      · dsimp only
        rw [if_neg (by simpa using hround)]
        simp [hround]

namespace Repeats

variable {rounds : (fuel count : Nat) → (last : Option Nat) → Matcher} {last : Option Nat} {w : Way}

/-- No round is taken if the last one has led back to where it began. -/
theorem isOk_stopped (hrounds : Repeats body least most rounds) (hleast : least ≤ count)
    (hk : ∀ v : Way, v.place = w.place → ((k v).isOk = true ↔ P v.place)) :
    (rounds fuel count (some w.place.index) w k).isOk = true ↔ P w.place := by
  cases fuel with
  | zero =>
    rw [hrounds.stop]
    exact hk w rfl
  | succ fuel =>
    obtain ⟨start, -, hway⟩ := hrounds.enough fuel count (some w.place.index) w k hleast
    rw [hway, hk w.turned rfl]
    exact or_iff_left fun h => h.1.2 rfl

/-- The rest of a round succeeds where it has not moved on and the property holds, or where it has
moved on and further rounds lead to the property. -/
theorem rest_round (hrounds : Repeats body least most rounds)
    (honward : ∀ p q, R p q → ∃ w, p.Passes w q) (hleast : least ≤ count)
    (hhere : ∀ v : Way, v.place = w.place → ((k v).isOk = true ↔ P v.place)) {start : Way}
    (hstart : start.place = w.place)
    (hmore : ∀ v : Way, R w.place v.place → some w.place.index ≠ some v.place.index →
      v.place.after.length < w.place.after.length →
      ((rounds fuel (count + 1) (some w.place.index) v k).isOk = true ↔
        Reaches R least most P (count + 1) v.place)) :
    Rest R none start (fun v => rounds fuel (count + 1) (some w.place.index) v k)
      fun v => v = w.place ∧ P v ∨ v ≠ w.place ∧ Reaches R least most P (count + 1) v := by
  refine ⟨fun v hv => ?_, nofun⟩
  rw [hstart] at hv
  by_cases hsame : v.place = w.place
  · rw [← hsame, hrounds.isOk_stopped (Nat.le_succ_of_le hleast) fun u hu => hhere u ?_]
    · simp
    · exact hu.trans hsame
  · obtain ⟨u, hu⟩ := honward _ _ hv
    have hindex : some w.place.index ≠ some v.place.index := fun hindex =>
      hsame (hu.eq_of_index (Option.some.inj hindex).symm)
    rw [hmore v hv hindex (hu.shorter hsame)]
    simp [hsame]

/-- There is fuel enough for all rounds that move on. -/
theorem isOk (hrounds : Repeats body least most rounds) (hbody : Goes none body R)
    (honward : ∀ p q, R p q → ∃ w, p.Passes w q) (hbounds : ∀ m ∈ most, least ≤ m)
    (hk : ∀ v : Way, Reaches R least most (· = v.place) count w.place →
      ((k v).isOk = true ↔ P v.place))
    (hfuel : least - count + w.place.after.length + 1 ≤ fuel) (hcount : ∀ m ∈ most, count ≤ m)
    (hlast : last = none ∨ least ≤ count ∧ last ≠ some w.place.index) :
    (rounds fuel count last w k).isOk = true ↔ Reaches R least most P count w.place := by
  induction fuel generalizing count last w with
  | zero => omega
  | succ fuel ih =>
    have hshorter {v : Place} (hv : R w.place v) : v.after.length ≤ w.place.after.length := by
      obtain ⟨u, hu⟩ := honward _ _ hv
      rw [hu.length]
      exact Nat.le_add_left _ _
    by_cases hless : count < least
    · rw [hrounds.few fuel count last w k hless, reaches_of_lt hless]
      refine hbody w.turned _ _ ⟨fun v hv => ?_, nofun⟩
      have := hshorter hv
      exact ih (fun u hu => hk u (hu.step hv)) (by omega)
        (fun m hm => Nat.succ_le_of_lt (Nat.lt_of_lt_of_le hless (hbounds m hm)))
        (.inl (hlast.resolve_right fun h => by omega))
    · have hleast : least ≤ count := Nat.le_of_not_lt hless
      have hmoved : last ≠ some w.place.index := hlast.elim (fun h => by simp [h]) (·.2)
      have hhere (v : Way) (hv : v.place = w.place) : (k v).isOk = true ↔ P v.place :=
        hk v ⟨0, w.place, hleast, hcount, rfl, hv.symm⟩
      obtain ⟨start, hstart, hway⟩ := hrounds.enough fuel count last w k hleast
      rw [hway, reaches_of_le hleast hcount, and_iff_left hmoved, hhere w.turned rfl]
      by_cases hround : mayRepeat most count = true
      · have hrest := hrounds.rest_round honward hleast hhere hstart
          fun v hv hindex hlength => ih (fun u hu => hk u (hu.step hv)) (by omega)
            (mayRepeat_iff.mp hround) (.inr ⟨Nat.le_succ_of_le hleast, hindex⟩)
        rw [hbody start _ _ hrest, hstart]
        constructor
        · rintro (hP | ⟨-, v, hv, ⟨rfl, hP⟩ | ⟨hne, hreach⟩⟩)
          · exact .inl hP
          · exact .inl hP
          · exact .inr ⟨hround, v, hv, hne, hreach⟩
        · rintro (hP | ⟨-, v, hv, hne, hreach⟩)
          · exact .inl hP
          · exact .inr ⟨hround, v, hv, .inr ⟨hne, hreach⟩⟩
      · simp [hround, Way.turned]

end Repeats

/-- So many rounds as a repetition allows. -/
def Repeated (R : Place → Place → Prop) (least : Nat) (most : Option Nat) (p q : Place) : Prop :=
  ∃ n, least ≤ n ∧ (∀ m ∈ most, n ≤ m) ∧ Rounds R n p q

theorem reaches_zero :
    Reaches R least most P 0 p ↔ ∃ q, Repeated R least most p q ∧ P q := by
  simp only [Reaches, Repeated, Nat.zero_add]
  constructor
  · rintro ⟨n, q, hleast, hmost, hrounds, hP⟩
    exact ⟨q, ⟨n, hleast, hmost, hrounds⟩, hP⟩
  · rintro ⟨q, ⟨n, hleast, hmost, hrounds⟩, hP⟩
    exact ⟨n, q, hleast, hmost, hrounds, hP⟩

theorem goes_roundsOf {next : Option Atom} {greed : Greed} {looping : Bool}
    (hbody : Goes none body R) (honward : ∀ p q, R p q → ∃ w, p.Passes w q)
    (hbounds : ∀ m ∈ most, least ≤ m) (hgreed : greed ≠ .possessive) :
    Goes next (roundsOf greed looping least most body) (Repeated R least most) := by
  intro w k P h
  have hrounds {rounds : (fuel count : Nat) → (last : Option Nat) → Matcher}
      (hrounds : Repeats body least most rounds) :
      (rounds (roundsNeeded least w.place) 0 none w k).isOk = true ↔
        ∃ q, Repeated R least most w.place q ∧ P q := by
    rw [← reaches_zero]
    refine hrounds.isOk hbody honward hbounds (fun v hv => h.decides v ?_) ?_ (by simp) (.inl rfl)
    · obtain ⟨q, hq, rfl⟩ := reaches_zero.mp hv
      exact hq
    · rw [roundsNeeded]
      omega
  cases greed with
  | greedy => exact hrounds (repeats_greedyRounds body least most)
  | lazy => exact hrounds (repeats_lazyRounds body looping least most)
  | possessive => exact absurd rfl hgreed

end Repetition

section Units

variable {a : Atom} {most : Option Nat} {p q : Place} {n least : Nat}

/-- The places after each further code point that an atom matches, the nearest first. -/
def unitChain (a : Atom) : (most : Option Nat) → (place : Place) → (after : Text) → List Place
  | _, p, [] => [p]
  | most, p, c :: cs =>
    if most = some 0 || !a.has c then [p]
    else p :: unitChain a (most.map (· - 1)) ⟨c :: p.before, cs, p.index + 1⟩ cs

theorem unitPlaces_eq (found : List Place) (p : Place) (after : Text) :
    unitPlaces a most found p after = (unitChain a most p after).reverse ++ found := by
  induction after generalizing most found p with
  | nil => rfl
  | cons c cs ih =>
    rw [unitPlaces, unitChain]
    split
    · rfl
    · rw [ih, List.reverse_cons, List.append_assoc, List.singleton_append]

theorem not_unit_matches_of_nil (h : p.after = []) : ¬Matches (.unit a) p q := by
  rintro ⟨c, hc, -⟩
  cases h.symm.trans hc.after

theorem unit_matches_iff {c : CodePoint} {cs : Text} (h : p.after = c :: cs) :
    Matches (.unit a) p q ↔ a.has c = true ∧ q = ⟨c :: p.before, cs, p.index + 1⟩ := by
  have hpasses : p.Passes [c] ⟨c :: p.before, cs, p.index + 1⟩ := ⟨h, rfl, rfl⟩
  constructor
  · rintro ⟨d, hd, ha⟩
    have hsame := (Place.next?_eq_some_iff.mpr hd).symm.trans (Place.next?_eq_some_iff.mpr hpasses)
    obtain ⟨rfl, rfl⟩ := Prod.mk.inj (Option.some.inj hsame)
    exact ⟨ha, rfl⟩
  · rintro ⟨ha, rfl⟩
    exact ⟨c, hpasses, ha⟩

theorem unitChain_eq_cons (a : Atom) (most : Option Nat) (p : Place) (after : Text) :
    ∃ more, unitChain a most p after = p :: more := by
  cases after with
  | nil => exact ⟨[], rfl⟩
  | cons c cs =>
    rw [unitChain]
    split
    · exact ⟨[], rfl⟩
    · exact ⟨_, rfl⟩

/-- The places of a run of an atom, by how many code points they are behind. -/
theorem getElem?_unitChain :
    (unitChain a most p p.after)[n]? = some q ↔
      (∀ m ∈ most, n ≤ m) ∧ Rounds (Matches (.unit a)) n p q := by
  generalize hafter : p.after = after
  induction after generalizing most p n with
  | nil =>
    cases n with
    | zero => simp [unitChain, Rounds, eq_comm]
    | succ n =>
      refine iff_of_false nofun ?_
      rintro ⟨-, m, hm, -⟩
      exact not_unit_matches_of_nil hafter hm
  | cons c cs ih =>
    cases n with
    | zero =>
      obtain ⟨more, hmore⟩ := unitChain_eq_cons a most p (c :: cs)
      rw [hmore]
      simp [Rounds, eq_comm]
    | succ n =>
      have hrounds : Rounds (Matches (.unit a)) (n + 1) p q ↔
          a.has c = true ∧ Rounds (Matches (.unit a)) n ⟨c :: p.before, cs, p.index + 1⟩ q := by
        simp only [Rounds, unit_matches_iff hafter, and_assoc, exists_and_left, exists_eq_left]
      rw [unitChain, hrounds]
      split
      · rename_i hstop
        refine iff_of_false nofun ?_
        rintro ⟨hmost, ha, -⟩
        rcases Bool.or_eq_true _ _ ▸ hstop with hzero | hbars
        · exact absurd (hmost 0 (of_decide_eq_true hzero)) (Nat.not_succ_le_zero n)
        · simp [ha] at hbars
      · rename_i hgo
        obtain ⟨hzero, ha⟩ : most ≠ some 0 ∧ a.has c = true := by simpa using hgo
        have hmost : (∀ m ∈ most.map (· - 1), n ≤ m) ↔ ∀ m ∈ most, n + 1 ≤ m := by
          cases most with
          | none => simp
          | some m =>
            have hpositive : m ≠ 0 := fun h => hzero (congrArg some h)
            simp only [Option.map_some, Option.mem_def, Option.some_inj, forall_eq']
            omega
        rw [List.getElem?_cons_succ, ih rfl, hmost, and_iff_right ha]

/-- A run of an atom passes as many code points as it has rounds. -/
theorem length_of_rounds (h : Rounds (Matches (.unit a)) n p q) : n ≤ p.after.length := by
  induction n generalizing p with
  | zero => exact Nat.zero_le _
  | succ n ih =>
    obtain ⟨m, ⟨c, hc, -⟩, hmore⟩ := h
    have := ih hmore
    have := hc.length
    rw [List.length_singleton] at this
    omega

/-- Where a run of an atom can end. -/
theorem mem_ends :
    q ∈ (unitPlaces a most [] p p.after).take ((unitPlaces a most [] p p.after).length - least) ↔
      Repeated (Matches (.unit a)) least most p q := by
  have hends : (unitPlaces a most [] p p.after).take
      ((unitPlaces a most [] p p.after).length - least) =
      ((unitChain a most p p.after).drop least).reverse := by
    rw [unitPlaces_eq, List.append_nil, List.length_reverse, List.take_reverse]
    rcases Nat.le_total least (unitChain a most p p.after).length with hleast | hleast
    · rw [Nat.sub_sub_self hleast]
    · rw [Nat.sub_eq_zero_of_le hleast, List.drop_eq_nil_of_le hleast,
        List.drop_eq_nil_of_le (Nat.le_of_eq (Nat.sub_zero _).symm)]
  rw [hends, List.mem_reverse, List.mem_iff_getElem?]
  simp only [List.getElem?_drop, getElem?_unitChain]
  constructor
  · rintro ⟨i, hmost, hrounds⟩
    exact ⟨least + i, Nat.le_add_right _ _, hmost, hrounds⟩
  · rintro ⟨n, hleast, hmost, hrounds⟩
    refine ⟨n - least, ?_⟩
    rw [Nat.add_sub_cancel' hleast]
    exact ⟨hmost, hrounds⟩

/-- The first of some places from which the rest succeeds is found. -/
theorem isOk_firstWay {looping : Bool} {earlier : Bounds} {k : Continuation} {P : Place → Prop}
    {places : List Place} {t : Trail}
    (hk : ∀ v : Way, v.place ∈ places → ((k v).isOk = true ↔ P v.place)) :
    (firstWay looping earlier k places t).isOk = true ↔ ∃ p ∈ places, P p := by
  induction places generalizing t with
  | nil => simp [firstWay]
  | cons p places ih =>
    have hhere := hk ⟨⟨p, t.bounds⟩, p⟩ List.mem_cons_self
    have hmore := fun v hv => hk v (List.mem_cons_of_mem p hv)
    rw [firstWay]
    cases hway : k ⟨⟨p, t.bounds⟩, p⟩ with
    | ok v =>
      rw [hway] at hhere
      exact iff_of_true rfl ⟨p, List.mem_cons_self, hhere.mp rfl⟩
    | error u =>
      rw [hway] at hhere
      have hnot : ¬P p := fun hP => nomatch hhere.mpr hP
      rw [List.exists_mem_cons_iff, or_iff_right hnot]
      exact ih hmore

/-- An atom that is matched as it stands only offers its code point. -/
theorem Offers.head {c : CodePoint} (h : Offers p a) (ha : a.only? = some c) :
    p.after.head? = some c := by
  obtain ⟨q, d, hd, hhas⟩ := h
  cases a with
  | one folding negated b =>
    cases folding with
    | exact =>
      cases negated with
      | false =>
        obtain rfl := Option.some.inj ha
        have hsame : b = d := by simpa [Atom.has, Folding.same] using hhas
        rw [hd.after, hsame]
        rfl
      | true => cases ha
    | ascii | unicode => cases ha
  | set | anyButNewline | any => cases ha

theorem goes_unitRounds {next : Option Atom} {greed : Greed} {looping : Bool}
    (hgreed : greed ≠ .possessive) :
    Goes next (unitRounds greed looping next least most a)
      (Repeated (Matches (.unit a)) least most) := by
  intro w k P h
  rw [unitRounds]
  split
  · rename_i hshort
    refine iff_of_false nofun ?_
    rintro ⟨q, ⟨n, hleast, -, hrounds⟩, -⟩
    have := length_of_rounds hrounds
    rw [List.length_take] at hshort
    omega
  · dsimp only
    have hmem (q : Place) : q ∈ (unitPlaces a most [] w.place w.place.after).take
        ((unitPlaces a most [] w.place w.place.after).length - least) ↔
        Repeated (Matches (.unit a)) least most w.place q := mem_ends
    generalize unitPlaces a most [] w.place w.place.after = places at hmem
    split
    · rename_i hfew
      refine iff_of_false nofun ?_
      rintro ⟨q, hq, -⟩
      rw [← hmem, Nat.sub_eq_zero_of_le hfew, List.take_zero] at hq
      exact nomatch hq
    · have hends : (∃ q, Repeated (Matches (.unit a)) least most w.place q ∧ P q) ↔
          ∃ q ∈ places.take (places.length - least), P q := by simp only [hmem]
      rw [hends]
      cases greed with
      | greedy =>
        dsimp only
        rw [isOk_firstWay fun v hv => h.decides v ((hmem _).mp (List.mem_filter.mp hv).1)]
        constructor
        · rintro ⟨q, hq, hP⟩
          exact ⟨q, (List.mem_filter.mp hq).1, hP⟩
        · rintro ⟨q, hq, hP⟩
          refine ⟨q, List.mem_filter.mpr ⟨hq, ?_⟩, hP⟩
          -- A place that is passed over would not offer what is announced.
          cases hnext : next.bind Atom.only? with
          | none => rfl
          | some c =>
            obtain ⟨b, hb, hc⟩ := Option.bind_eq_some_iff.mp hnext
            have hoffers := h.opens b hb q ((hmem q).mp hq) hP
            simp [hoffers.head hc]
      | lazy =>
        dsimp only
        rw [isOk_turnedAt,
          isOk_firstWay fun v hv => h.decides v ((hmem _).mp (List.mem_reverse.mp hv))]
        simp only [List.mem_reverse]
      | possessive => exact absurd rfl hgreed

end Units

section Expressions

variable {r : Regex} {looping : Bool} {next : Option Atom}

/-- A matcher that nothing comes behind. -/
theorem Goes.look {m : Matcher} {R : Place → Place → Prop} (hm : Goes none m R) (v : Way) :
    (m v done).isOk = true ↔ ∃ q, R v.place q := by
  rw [hm v done (fun _ => True) ⟨fun _ _ => iff_of_true rfl trivial, nofun⟩]
  simp

/-- What comes of having looked around. -/
def afterLook (negated looping : Bool) (w : Way) (k : Continuation) : Outcome → Outcome
  | .ok v => if negated then .error v.toTrail else k (v.moved w.place)
  | .error t => if negated then k ⟨t.restored looping w.bounds, w.place⟩ else .error t

theorem Rest.afterLook {R : Place → Place → Prop} {w : Way} {k : Continuation} {P : Place → Prop}
    {found : Prop} {negated : Bool} {o : Outcome} (h : Rest R next w k P)
    (ho : o.isOk = true ↔ found) (hR : ∀ q, R w.place q ↔ q = w.place ∧ (found ↔ negated = false)) :
    (afterLook negated looping w k o).isOk = true ↔ ∃ q, R w.place q ∧ P q := by
  have hstays (hfound : found ↔ negated = false) (q : Place) : R w.place q ↔ q = w.place :=
    (hR q).trans (and_iff_left hfound)
  have hfails (hfound : ¬(found ↔ negated = false)) : ¬∃ q, R w.place q ∧ P q :=
    fun ⟨q, hq, _⟩ => hfound ((hR q).mp hq).2
  cases o with
  | ok v =>
    have hfound : found := ho.mp rfl
    cases negated with
    | false => exact h.stays (hstays (iff_of_true hfound rfl)) rfl
    | true => exact iff_of_false nofun (hfails fun h => nomatch h.mp hfound)
  | error t =>
    have hfound : ¬found := fun h => nomatch ho.mpr h
    cases negated with
    | false => exact iff_of_false nofun (hfails fun h => hfound (h.mpr rfl))
    | true => exact h.stays (hstays (iff_of_false hfound nofun)) rfl

theorem Goes.ahead (negated : Bool) (hr : Goes none (run looping none r) r.Matches) :
    Goes next (run looping next (.ahead negated r)) (Matches (.ahead negated r)) := by
  intro w k P h
  have hrun : run looping next (.ahead negated r) w k =
      Regex.afterLook negated looping w k (run looping none r w.turned done) := by
    cases negated <;> rw [run] <;> cases run looping none r w.turned done <;> rfl
  rw [hrun]
  exact h.afterLook (hr.look w.turned) fun _ => Iff.rfl

theorem Goes.behind (negated : Bool) (width : Nat)
    (hr : Goes none (run looping none r) r.Matches) :
    Goes next (run looping next (.behind negated width r))
      (Matches (.behind negated width r)) := by
  intro w k P h
  cases hback : w.place.back? width with
  | none =>
    have hfound : ¬∃ b, w.place.back? width = some b ∧ ∃ q, r.Matches b q := by
      rintro ⟨b, hb, -⟩
      cases hback.symm.trans hb
    cases negated with
    | false =>
      rw [run, hback]
      exact iff_of_false nofun fun ⟨q, hq, _⟩ => hfound (hq.2.mpr rfl)
    | true =>
      rw [run, hback]
      exact h.stays (fun _ => and_iff_left (iff_of_false hfound nofun)) rfl
  | some b =>
    have hrun : run looping next (.behind negated width r) w k =
        Regex.afterLook negated looping w k (run looping none r (w.moved b).turned done) := by
      cases negated <;> rw [run, hback] <;> dsimp only <;>
        cases run looping none r (w.moved b).turned done <;> rfl
    have hfound : (∃ q, r.Matches b q) ↔ ∃ b, w.place.back? width = some b ∧ ∃ q, r.Matches b q :=
      ⟨fun hq => ⟨b, hback, hq⟩, fun ⟨b', hb, hq⟩ => Option.some.inj (hback.symm.trans hb) ▸ hq⟩
    rw [hrun]
    exact h.afterLook ((hr.look (w.moved b).turned).trans hfound) fun _ => Iff.rfl

/-- **The matcher of an expression finds what there is to find.** -/
theorem goes_run (h : r.isPlain = true) : Goes next (run looping next r) r.Matches := by
  induction r generalizing looping next with
  | empty => exact goes_empty
  | unit a => exact goes_unit a
  | anchor a => exact goes_anchor a
  | seq r s ihr ihs =>
    obtain ⟨hr, hs⟩ := Bool.and_eq_true_iff.mp h
    exact .seq (ihr hr) (ihs hs)
  | alt r s ihr ihs =>
    obtain ⟨hr, hs⟩ := Bool.and_eq_true_iff.mp h
    exact .alt (ihr hr) (ihs hs)
  | rounds greed least most r ih =>
    obtain ⟨hbounds, hr⟩ := Bool.and_eq_true_iff.mp h
    obtain ⟨hgreed, hmost⟩ := Bool.and_eq_true_iff.mp hbounds
    have hpossessive : greed ≠ .possessive := by simpa using hgreed
    have hleast : ∀ m ∈ most, least ≤ m := by
      rintro m rfl
      simpa using hmost
    by_cases hunit : ∃ a, r = .unit a
    · obtain ⟨a, rfl⟩ := hunit
      intro w k P hrest
      rw [run]
      exact goes_unitRounds hpossessive w k P hrest
    · intro w k P hrest
      rw [run]
      · exact goes_roundsOf (ih hr) (fun _ _ hm => hm.passes) hleast hpossessive w k P hrest
      · exact fun a ha => hunit ⟨a, ha⟩
      · exact hpossessive
  | group index r ih =>
    intro w k P hrest
    rw [run]
    exact ih h { w with bounds := w.bounds.opened index w.place } _ P
      ⟨fun v hv => hrest.decides { v with bounds := v.bounds.closed index v.place } hv, nofun⟩
  | scope r ih =>
    intro w k P hrest
    rw [run]
    exact ih h w k P hrest
  | ahead negated r ih => exact .ahead negated (ih h)
  | behind negated width r ih => exact .behind negated width (ih h)
  | atomic | backref | ifGroup => cases h

/-- An expression matches at the beginning of a text exactly if it leads somewhere from there. -/
theorem matchAt?_isSome_iff (h : r.isPlain = true) (t : Text) :
    (r.matchAt? t).isSome = true ↔ ∃ q, r.Matches (Place.start t) q := by
  have hgoes : Goes none (run false none r) r.Matches := goes_run h
  rw [← hgoes.look ⟨⟨Place.start t, []⟩, Place.start t⟩, matchAt?, foundAt?]
  cases run false none r ⟨⟨Place.start t, []⟩, Place.start t⟩ done <;> rfl

end Expressions

end Regex

end Conform
