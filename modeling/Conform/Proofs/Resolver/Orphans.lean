import Conform.Proofs.Resolver.Cancellation

/-!
# Flights that no call ends

When the exporter raises while a fetch is counted, the call ends and leaves its flight behind. For
all other calls this is as if the call never came back from its fetch, so such a resolver mirrors
one that has seen calm moves only, and what is known of that one carries over.

## Main definitions

- `Resolver.Stranded`, `Resolver.Orphaned` — a call has left its flight behind, and a flight is kept
  that no call is going to end
- `Resolver.Mirrors`, `Resolver.Mirrored` — resolvers that differ in such calls only
- `Resolver.LooseInv` — what holds of a resolver at all times, whatever is raised
- `Resolver.SlotFate` — what becomes of the flights that are kept
- `Resolver.run_slotFate` — which flights no call ends
-/

namespace Conform.Resolver

/-- A call for a version has ended because its fetch could not be counted. -/
def Stranded (r : Resolver) (v : Version) : Prop :=
  ∃ i error, r.At i v (.finished (.failed error))

/-- A flight is kept that no call is going to end. -/
structure Orphaned (r : Resolver) (v : Version) (f : Nat) : Prop where
  kept : r.slot? v = some (.pending f)
  unled : ∀ i g, ¬r.At i v (.fetching g)

/-- A flight begins, and its call ends at once, as the fetch cannot be counted. -/
def strand (r : Resolver) (v : Version) (name : Text) (error : Raised) : Resolver :=
  (r.addFlight v).addCall name (.finished (.failed error))

/-- The move without anything that is raised. -/
def Move.calmed : Move → Move
  | .begin name _ => .begin name none
  | m => m

/-- What becomes of the flights that are kept for a version. -/
structure SlotFate (r : Resolver) (v : Version) : Prop where
  /-- A flight that is kept has not ended. -/
  pending : ∀ f, r.slot? v = some (.pending f) → r.flights[f]? = some .pending
  /-- A call that comes back from its fetch, or whose fetch fails, binds the version. -/
  landed : ∀ i f, r.At i v (.fetching f) → ∀ declarations,
    ∃ b, (r.step (.land i declarations)).slot? v = some (.bound b) ∧
      (r.step (.land i declarations)).outcome? i = some (.bound b)
  /-- A call that is cancelled in its fetch leaves nothing behind. -/
  cancelled : ∀ i f, r.At i v (.fetching f) →
    (r.step (.cancel i)).slot? v = none ∧ (r.step (.cancel i)).outcome? i = some .cancelled
  /-- A call whose fetch cannot be counted leaves its flight behind. -/
  uncounted : ∀ name error, Version.ofName? name = some v → r.slot? v = none → r.fetches = true →
    (r.step (.begin name (some error))).Orphaned v r.flights.length ∧
      (r.step (.begin name (some error))).outcome? r.calls.length = some (.failed error)
  /-- A flight that no call is going to end is kept exactly if there has been such a call. -/
  orphaned : (∃ f, r.Orphaned v f) ↔ r.Stranded v
  /-- Otherwise the version is bound or nothing is kept for it when no call fetches. -/
  settled : ¬r.Stranded v → (∀ i g, ¬r.At i v (.fetching g)) →
    r.slot? v = none ∨ ∃ b, r.slot? v = some (.bound b)
  /-- And then every call for the version can end, whatever the fetches give. -/
  ends : ¬r.Stranded v → ∀ i p, r.At i v p → ∀ ends : Nat → Option Text,
    ∃ row, (∀ m ∈ row, m.Settles ends) ∧ ∃ outcome, (r.run row).At i v (.finished outcome)
  /-- The flight is kept for ever, and neither later calls nor those that wait for it end, unless
  they are cancelled. -/
  stuck : ∀ f, r.Orphaned v f → ∀ moves, (r.run moves).Orphaned v f ∧
    ∀ i p, r.calls.length ≤ i ∨ r.At i v (.waiting f) → (r.run moves).At i v p →
      p = .waiting f ∨ p = .finished .cancelled ∧ .cancel i ∈ moves

variable {r s : Resolver} {v w : Version} {m : Move} {moves : List Move} {p q : CallPoint}
  {i j f : Nat}

section AnyMove

theorem Move.calmed_calm (m : Move) : m.calmed.Calm := by
  cases m with
  | begin => rfl
  | land | wake | cancel => trivial

theorem Move.calmed_cancel (h : m.calmed = .cancel i) : m = .cancel i := by
  cases m with
  | begin => exact nomatch h
  | land | wake | cancel => exact h

/-- A move does what it does when nothing is raised, unless a fetch cannot be counted. -/
theorem step_calmed (r : Resolver) (m : Move) :
    r.step m = r.step m.calmed ∨ ∃ name error v, m = .begin name (some error) ∧
      Version.ofName? name = some v ∧ r.slot? v = none ∧ r.fetches = true ∧
      r.step m = r.strand v name error := by
  cases m with
  | land | wake | cancel => exact .inl rfl
  | begin name countFault =>
    cases countFault with
    | none => exact .inl rfl
    | some error =>
      cases hname : Version.ofName? name with
      | none =>
        refine .inl ?_
        simp only [step, Move.calmed, begin, hname]
      | some v =>
        cases hslot : r.slot? v with
        | some kept =>
          refine .inl ?_
          cases kept <;> simp only [step, Move.calmed, begin, hname, hslot]
        | none =>
          cases hfetches : r.fetches with
          | false =>
            refine .inl ?_
            simp only [step, Move.calmed, begin, hname, hslot, hfetches, Bool.false_eq_true,
              if_false]
          | true =>
            refine .inr ⟨name, error, v, rfl, hname, hslot, rfl, ?_⟩
            simp only [step, begin, hname, hslot, hfetches, if_true]
            rfl

theorem slot?_strand (r : Resolver) (v w : Version) (name : Text) (error : Raised) :
    (r.strand v name error).slot? w =
      if w = v then some (.pending r.flights.length) else r.slot? w :=
  lookup_setSlot v w _ r.slots

end AnyMove

section Mirroring

/-- A call that has failed stands for one that is still in its fetch. -/
inductive StandsFor : Call → Call → Prop
  | same {c : Call} (counted : ∀ error, c.point ≠ .finished (.failed error)) : StandsFor c c
  | failed {name : Text} {v : Version} (supported : Version.ofName? name = some v)
      (error : Raised) (f : Nat) : StandsFor ⟨name, .finished (.failed error)⟩ ⟨name, .fetching f⟩

/-- Two resolvers are the same but for calls that have failed in the first one and are in their
fetch in the second one. -/
structure Mirrors (r s : Resolver) : Prop where
  rest : s = { r with calls := s.calls, fetched := s.fetched }
  length : s.calls.length = r.calls.length
  stands : ∀ (i : Nat) c, r.calls[i]? = some c → ∃ d, s.calls[i]? = some d ∧ StandsFor c d

theorem Mirrors.slot? (h : Mirrors r s) (w : Version) : s.slot? w = r.slot? w := by
  rw [h.rest]
  rfl

theorem Mirrors.flights (h : Mirrors r s) : s.flights = r.flights := by
  rw [h.rest]

theorem Mirrors.fetches (h : Mirrors r s) : s.fetches = r.fetches := by
  rw [h.rest]

theorem Mirrors.newBinding (h : Mirrors r s) (declarations : Text) :
    s.newBinding v declarations = r.newBinding v declarations := by
  rw [h.rest]
  rfl

/-- A call that has not failed is the same. -/
theorem Mirrors.call (h : Mirrors r s) {c : Call} (hcall : r.calls[j]? = some c)
    (hcounted : ∀ error, c.point ≠ .finished (.failed error)) : s.calls[j]? = some c := by
  obtain ⟨d, hd, hstands⟩ := h.stands j c hcall
  cases hstands with
  | same => exact hd
  | failed _ error => exact absurd rfl (hcounted error)

/-- A call that has not failed is on behalf of the same version. -/
theorem Mirrors.at (h : Mirrors r s) (hcall : r.At i v p)
    (hcounted : ∀ error, p ≠ .finished (.failed error)) : s.At i v p := by
  obtain ⟨name, hname, hv⟩ := hcall
  exact ⟨name, h.call hname hcounted, hv⟩

/-- A call that has failed is in its fetch. -/
theorem Mirrors.at_failed (h : Mirrors r s) {error : Raised}
    (hcall : r.At i v (.finished (.failed error))) : ∃ f, s.At i v (.fetching f) := by
  obtain ⟨name, hname, hv⟩ := hcall
  obtain ⟨d, hd, hstands⟩ := h.stands i _ hname
  cases hstands with
  | same counted => exact absurd rfl (counted error)
  | failed _ _ f => exact ⟨f, name, hd, hv⟩

/-- A call that is in its fetch may have failed. -/
theorem Mirrors.of_at_fetching (h : Mirrors r s) (hcall : s.At i v (.fetching f)) :
    r.At i v (.fetching f) ∨ ∃ error, r.At i v (.finished (.failed error)) := by
  have hlt : i < r.calls.length := h.length ▸ hcall.lt_calls
  obtain ⟨name, hname, hv⟩ := hcall
  obtain ⟨d, hd, hstands⟩ := h.stands i _ (List.getElem?_eq_getElem hlt)
  obtain rfl := Option.some.inj (hname.symm.trans hd)
  generalize hc : r.calls[i] = c at hstands
  have hcall : r.calls[i]? = some c := hc ▸ List.getElem?_eq_getElem hlt
  cases hstands with
  | same => exact .inl ⟨name, hcall, hv⟩
  | failed _ error => exact .inr ⟨error, name, hcall, hv⟩

theorem Mirrors.addCall (h : Mirrors r s) {name : Text}
    (hstands : StandsFor ⟨name, p⟩ ⟨name, q⟩) :
    Mirrors (r.addCall name p) (s.addCall name q) where
  rest := by
    rw [h.rest]
    rfl
  length := by simp [Resolver.addCall, h.length]
  stands := by
    intro i c hc
    rw [getElem?_addCall] at hc ⊢
    rw [h.length]
    split at hc
    · obtain rfl := Option.some.inj hc
      exact ⟨_, if_pos ‹_›, hstands⟩
    · rw [if_neg ‹_›]
      exact h.stands i c hc

theorem Mirrors.moveCall (h : Mirrors r s) {name : Text}
    (hcall : r.calls[j]? = some ⟨name, p⟩) (hp : ∀ error, p ≠ .finished (.failed error))
    (hq : ∀ error, q ≠ .finished (.failed error)) :
    Mirrors (r.moveCall j q) (s.moveCall j q) where
  rest := by
    have hsame : s.calls[j]? = some ⟨name, p⟩ := h.call hcall hp
    simp only [Resolver.moveCall, hcall, hsame]
    rw [h.rest]
  length := by
    have hsame : s.calls[j]? = some ⟨name, p⟩ := h.call hcall hp
    simp only [Resolver.moveCall, hcall, hsame, List.length_set, h.length]
  stands := by
    intro i c hc
    rw [moveCall_calls hcall] at hc
    rw [moveCall_calls (h.call hcall hp)]
    split at hc
    · obtain rfl := Option.some.inj hc
      exact ⟨_, if_pos ‹_›, .same hq⟩
    · rw [if_neg ‹_›]
      exact h.stands i c hc

/-- Binding a version has nothing to do with the calls. -/
theorem Mirrors.bind (h : Mirrors r s) (v : Version) (f : Nat) (declarations : Text) :
    Mirrors (r.bind v f declarations) (s.bind v f declarations) where
  rest := by
    rw [h.rest]
    rfl
  length := h.length
  stands := h.stands

/-- A flight begins in both resolvers, and its call is in its fetch or has failed. -/
theorem Mirrors.lead (h : Mirrors r s) {name : Text} {fetched : List Version}
    (hstands : StandsFor ⟨name, p⟩ ⟨name, .fetching s.flights.length⟩) :
    Mirrors ({ r.addFlight v with fetched }.addCall name p) (s.lead v name) := by
  have hflight : Mirrors { r.addFlight v with fetched }
      { s.addFlight v with fetched := (s.addFlight v).fetched ++ [v] } := by
    refine ⟨?_, h.length, h.stands⟩
    rw [h.rest]
    rfl
  exact hflight.addCall hstands

/-- A flight is cancelled in both resolvers. -/
theorem Mirrors.abandoned (h : Mirrors r s) (hcall : r.At j v (.fetching f)) :
    Mirrors (r.abandoned v f j) (s.abandoned v f j) := by
  obtain ⟨name, hname, -⟩ := hcall
  have hemptied : Mirrors
      { r with slots := clearSlot v r.slots, flights := r.flights.set f .cancelled }
      { s with slots := clearSlot v s.slots, flights := s.flights.set f .cancelled } := by
    refine ⟨?_, h.length, h.stands⟩
    rw [h.rest]
  exact hemptied.moveCall hname (by simp) (by simp)

/-- Calm moves have the same effect on both resolvers, unless they have none on the first one. -/
theorem Mirrors.step_calm (h : Mirrors r s) (hm : m.Calm) :
    Mirrors (r.step m) (s.step m) ∨ r.step m = r := by
  have heffect : Effect r m (r.step m) := step_effect r hm
  generalize r.step m = next at heffect ⊢
  cases heffect with
  | idle => exact .inr rfl
  | unknown name unsupported =>
    have hs : s.step (.begin name none) = s.addCall name (.finished .unknown) := by
      simp only [step, begin, unsupported]
    rw [hs]
    exact .inl (h.addCall (.same (by simp)))
  | @hit v name supported b kept =>
    have hs : s.step (.begin name none) = s.addCall name (.finished (.bound b)) := by
      simp only [step, begin, supported, (h.slot? v).trans kept]
    rw [hs]
    exact .inl (h.addCall (.same (by simp)))
  | @follow v name supported f kept =>
    have hs : s.step (.begin name none) = s.addCall name (.waiting f) := by
      simp only [step, begin, supported, (h.slot? v).trans kept]
    rw [hs]
    exact .inl (h.addCall (.same (by simp)))
  | @lead v name supported kept fetches =>
    have hs : s.step (.begin name none) = s.lead v name := by
      simp only [step, begin, supported, (h.slot? v).trans kept, h.fetches.trans fetches, if_true]
      rfl
    have hflight : r.flights.length = s.flights.length := by rw [h.flights]
    rw [hs, Resolver.lead, hflight]
    exact .inl (h.lead (.same (by simp)))
  | @atOnce v name supported kept fetches =>
    have hs : s.step (.begin name none) = s.bindAtOnce v name := by
      simp only [step, begin, supported, (h.slot? v).trans kept, h.fetches.trans fetches,
        Bool.false_eq_true, if_false]
      rfl
    have hflight : Mirrors (r.addFlight v) (s.addFlight v) := by
      refine ⟨?_, h.length, h.stands⟩
      rw [h.rest]
      rfl
    rw [hs, bindAtOnce, bindAtOnce, h.flights, h.newBinding]
    exact .inl ((hflight.bind v _ []).addCall (.same (by simp)))
  | @landed v call f fetching declarations =>
    have hs : s.step (.land call declarations) = s.landed v f call (declarations.getD []) :=
      step_land (h.at fetching (by simp)) declarations
    obtain ⟨name, hname, -⟩ := fetching
    rw [hs, landed, landed, h.newBinding]
    exact .inl ((h.bind v f _).moveCall hname (by simp) (by simp))
  | @woken call f b name waiting settled =>
    have hs : s.step (.wake call) = s.moveCall call (.finished (.bound b)) := by
      simp only [step, wake, h.call waiting (by simp), h.flights, settled]
    rw [hs]
    exact .inl (h.moveCall waiting (by simp) (by simp))
  | @dropped call f name waiting settled =>
    have hs : s.step (.wake call) = s.moveCall call (.finished .cancelled) := by
      simp only [step, wake, h.call waiting (by simp), h.flights, settled]
    rw [hs]
    exact .inl (h.moveCall waiting (by simp) (by simp))
  | @left call f name waiting =>
    have hs : s.step (.cancel call) = s.moveCall call (.finished .cancelled) := by
      simp only [step, cancel, h.call waiting (by simp)]
    rw [hs]
    exact .inl (h.moveCall waiting (by simp) (by simp))
  | @abandoned v call f fetching =>
    have hs : s.step (.cancel call) = s.abandoned v f call :=
      step_cancel_fetching (h.at fetching (by simp))
    rw [hs]
    exact .inl (h.abandoned fetching)

/-- A resolver mirrors one that has seen calm moves only. -/
def Mirrored (r : Resolver) : Prop := ∃ s, Mirrors r s ∧ Inv s

theorem mirrored_new (fetches : Bool) : Mirrored { fetches } :=
  ⟨{ fetches }, ⟨rfl, rfl, fun _ _ hc => nomatch hc⟩, inv_new fetches⟩

/-- Every move keeps it. -/
theorem mirrored_step (h : Mirrored r) (m : Move) : Mirrored (r.step m) := by
  obtain ⟨s, hmirrors, hinv⟩ := h
  have hcalmed : Inv (s.step m.calmed) := inv_step hinv m.calmed_calm
  rcases step_calmed r m with heq | ⟨name, error, v, rfl, supported, kept, fetches, heq⟩
  · rw [heq]
    rcases hmirrors.step_calm m.calmed_calm with hstep | hidle
    · exact ⟨_, hstep, hcalmed⟩
    · rw [hidle]
      exact ⟨s, hmirrors, hinv⟩
  · -- In the second resolver the call is in the fetch that has not been counted in the first one.
    have hs : s.step (.begin name none) = s.lead v name := by
      simp only [step, begin, supported, (hmirrors.slot? v).trans kept,
        hmirrors.fetches.trans fetches, if_true]
      rfl
    rw [heq]
    refine ⟨s.lead v name, hmirrors.lead (.failed supported error _), ?_⟩
    rw [← hs]
    exact hcalmed

theorem mirrored_run (h : Mirrored r) (moves : List Move) : Mirrored (r.run moves) := by
  induction moves generalizing r with
  | nil => exact h
  | cons m moves ih => exact ih (mirrored_step h m)

end Mirroring

section Invariant

/-- What holds of a resolver at all times, whatever is raised. -/
structure LooseInv (r : Resolver) : Prop where
  /-- Calls that have not failed are where they may be. -/
  placed : ∀ i v p, r.At i v p → (∃ error, p = .finished (.failed error)) ∨ r.Placed v p
  /-- A flight that is kept is pending, and a call fetches for it or has failed. -/
  led : ∀ v f, r.slot? v = some (.pending f) →
    r.flights[f]? = some .pending ∧ ((∃ i, r.At i v (.fetching f)) ∨ r.Stranded v)
  /-- A call that has failed has left its flight behind. -/
  stranded : ∀ v, r.Stranded v → ∃ f, r.Orphaned v f

theorem Mirrored.looseInv (h : Mirrored r) : LooseInv r := by
  obtain ⟨s, hmirrors, hinv⟩ := h
  constructor
  · intro i v p hp
    by_cases hfailed : ∃ error, p = .finished (.failed error)
    · exact .inl hfailed
    · have hcall : s.At i v p := hmirrors.at hp fun error heq => hfailed ⟨error, heq⟩
      refine .inr ((hinv.placed i v p hcall).mono (fun t ht => ?_) fun g fl hg => ?_)
      · rwa [← hmirrors.slot?]
      · rwa [← hmirrors.flights]
  · intro v f hkept
    obtain ⟨hpending, i, hi⟩ := hinv.led v f ((hmirrors.slot? v).trans hkept)
    refine ⟨hmirrors.flights ▸ hpending, ?_⟩
    rcases hmirrors.of_at_fetching hi with hfetching | ⟨error, hfailed⟩
    · exact .inl ⟨i, hfetching⟩
    · exact .inr ⟨i, error, hfailed⟩
  · rintro v ⟨i, error, hfailed⟩
    obtain ⟨f, hi⟩ := hmirrors.at_failed hfailed
    refine ⟨f, (hmirrors.slot? v).symm.trans (hinv.kept hi), fun j g hfetching => ?_⟩
    -- No other call fetches for the flight of the call that has failed.
    have hj : s.At j v (.fetching g) := hmirrors.at hfetching (by simp)
    obtain rfl : f = g := by
      have heq := (hinv.kept hi).symm.trans (hinv.kept hj)
      exact Slot.pending.inj (Option.some.inj heq)
    obtain rfl := hinv.alone i j v f hi hj
    exact nomatch (hfailed.unique hfetching).2

/-- A call fetches for the flight that is kept. -/
theorem LooseInv.kept (h : LooseInv r) (hcall : r.At i v (.fetching f)) :
    r.slot? v = some (.pending f) := by
  rcases h.placed i v _ hcall with ⟨error, heq⟩ | hplaced
  · exact nomatch heq
  · cases hplaced with
    | fetching kept => exact kept

end Invariant

section Stuck

/-- What a call for a version with such a flight may have come to by a move. -/
inductive Stuck (r : Resolver) (v : Version) (f : Nat) (m : Move) (i : Nat) (p : CallPoint) : Prop
  | stays (call : r.At i v p)
  | waits (new : i = r.calls.length) (point : p = .waiting f)
  | cancelled (move : m = .cancel i) (point : p = .finished .cancelled)
  /-- The call has waited for an earlier flight. -/
  | earlier {g : Nat} {outcome : CallOutcome} (call : r.At i v (.waiting g)) (other : g ≠ f)
      (point : p = .finished outcome)

/-- A call that has been moved is where it was or has come to the new point. -/
theorem At.of_moveCall {name : Text} {point : CallPoint}
    (hcall : r.calls[j]? = some ⟨name, q⟩) (hp : (r.moveCall j point).At i v p) :
    r.At i v p ∨ (i = j ∧ p = point ∧ r.At i v q) := by
  obtain ⟨name', hname, hv⟩ := hp
  rw [moveCall_calls hcall] at hname
  split at hname
  · obtain ⟨rfl, rfl⟩ := Call.mk.inj (Option.some.inj hname)
    exact .inr ⟨‹_›, rfl, name, ‹i = j› ▸ hcall, hv⟩
  · exact .inl ⟨name', hname, hv⟩

/-- A flight that no call is going to end is not ended by any move, and hardly a call for its
version ends. -/
theorem orphaned_step (h : LooseInv r) (horphaned : r.Orphaned v f) (m : Move) :
    (r.step m).slot? v = some (.pending f) ∧
      ∀ i p, (r.step m).At i v p → r.Stuck v f m i p := by
  have hkept := horphaned.kept
  have hpending := (h.led v f hkept).1
  have hfree {w : Version} (hw : r.slot? w = none) : v ≠ w := by
    rintro rfl
    exact nomatch hkept.symm.trans hw
  have hfetching {w : Version} {j g : Nat} (hj : r.At j w (.fetching g)) : v ≠ w := by
    rintro rfl
    exact horphaned.unled j g hj
  -- A new call for another version is none for this one.
  have hnew {r' : Resolver} {name : Text} {w : Version} {point p : CallPoint} {i : Nat}
      (hcalls : r'.calls = r.calls) (hname : Version.ofName? name = some w) (hw : v ≠ w)
      (hp : (r'.addCall name point).At i v p) : r.Stuck v f m i p := by
    rcases at_addCall.mp hp with ⟨-, -, hv⟩ | ⟨name', hname', hv⟩
    · exact absurd (Option.some.inj (hv.symm.trans hname)) hw
    · exact .stays ⟨name', hcalls ▸ hname', hv⟩
  have hmoved {w : Version} {point q p : CallPoint} {i j : Nat} (hj : r.At j w q)
      (hw : v ≠ w) (hat : (i = j ∧ p = point ∧ v = w) ∨ (i ≠ j ∧ r.At i v p)) :
      r.Stuck v f m i p := by
    rcases hat with ⟨-, -, heq⟩ | ⟨-, hcall⟩
    · exact absurd heq hw
    · exact .stays hcall
  -- The flight has not ended, so a call that goes on has waited for another one.
  have hwoken {j g : Nat} {name : Text} {outcome : CallOutcome} {fl : Flight}
      (waiting : r.calls[j]? = some ⟨name, .waiting g⟩) (settled : r.flights[g]? = some fl)
      (hfl : fl ≠ .pending) :
      (r.moveCall j (.finished outcome)).slot? v = some (.pending f) ∧
        ∀ i p, (r.moveCall j (.finished outcome)).At i v p → r.Stuck v f m i p := by
    refine ⟨(slot?_moveCall ..).trans hkept, fun i p hp => ?_⟩
    rcases hp.of_moveCall waiting with hcall | ⟨-, hpoint, hcall⟩
    · exact .stays hcall
    · refine .earlier hcall ?_ hpoint
      rintro rfl
      exact hfl (Option.some.inj (settled.symm.trans hpending))
  rcases step_calmed r m with heq | ⟨name, error, w, rfl, supported, hw, fetches, heq⟩
  · rw [heq]
    have heffect : Effect r m.calmed (r.step m.calmed) := step_effect r m.calmed_calm
    generalize r.step m.calmed = next at heffect
    generalize hm : m.calmed = m' at heffect
    cases heffect with
    | idle => exact ⟨hkept, fun i p hp => .stays hp⟩
    | unknown name unsupported =>
      refine ⟨hkept, fun i p hp => ?_⟩
      rcases at_addCall.mp hp with ⟨-, -, hv⟩ | hcall
      · exact nomatch unsupported.symm.trans hv
      · exact .stays hcall
    | @hit w name supported b kept =>
      refine ⟨hkept, fun i p hp => hnew rfl supported ?_ hp⟩
      rintro rfl
      exact nomatch hkept.symm.trans kept
    | @follow w name supported g kept =>
      refine ⟨hkept, fun i p hp => ?_⟩
      rcases at_addCall.mp hp with ⟨hi, rfl, hv⟩ | hcall
      · obtain rfl := Option.some.inj (supported.symm.trans hv)
        obtain rfl := Slot.pending.inj (Option.some.inj (hkept.symm.trans kept))
        exact .waits hi rfl
      · exact .stays hcall
    | @lead w name supported kept =>
      exact ⟨by rw [slot?_lead, if_neg (hfree kept), hkept],
        fun i p hp => hnew rfl supported (hfree kept) hp⟩
    | @atOnce w name supported kept =>
      exact ⟨by rw [slot?_bindAtOnce, if_neg (hfree kept), hkept],
        fun i p hp => hnew rfl supported (hfree kept) hp⟩
    | @landed w j g fetching =>
      exact ⟨by rw [slot?_landed, if_neg (hfetching fetching), hkept],
        fun i p hp => hmoved fetching (hfetching fetching) ((at_landed fetching).mp hp)⟩
    | woken waiting settled => exact hwoken waiting settled (by simp)
    | dropped waiting settled => exact hwoken waiting settled (by simp)
    | @left j g name waiting =>
      refine ⟨(slot?_moveCall ..).trans hkept, fun i p hp => ?_⟩
      rcases hp.of_moveCall waiting with hcall | ⟨rfl, hpoint, -⟩
      · exact .stays hcall
      · exact .cancelled (Move.calmed_cancel hm) hpoint
    | @abandoned w j g fetching =>
      exact ⟨by rw [slot?_abandoned, if_neg (hfetching fetching), hkept],
        fun i p hp => hmoved fetching (hfetching fetching) ((at_abandoned fetching).mp hp)⟩
  · rw [heq]
    exact ⟨by rw [slot?_strand, if_neg (hfree hw), hkept],
      fun i p hp => hnew rfl supported (hfree hw) hp⟩

theorem Orphaned.step (h : LooseInv r) (horphaned : r.Orphaned v f) (m : Move) :
    (r.step m).Orphaned v f := by
  obtain ⟨hkept, hcalls⟩ := orphaned_step h horphaned m
  refine ⟨hkept, fun i g hfetching => ?_⟩
  cases hcalls i _ hfetching with
  | stays call => exact horphaned.unled i g call
  | waits _ point | cancelled _ point | earlier _ _ point => exact nomatch point

/-- Such a flight is kept for ever, and the calls that wait for it do not end on their own. -/
theorem orphaned_run (h : Mirrored r) (horphaned : r.Orphaned v f) (moves : List Move) :
    (r.run moves).Orphaned v f ∧
      ∀ i p, r.calls.length ≤ i ∨ r.At i v (.waiting f) → (r.run moves).At i v p →
        p = .waiting f ∨ p = .finished .cancelled ∧ .cancel i ∈ moves := by
  induction moves using List.reverseRecOn with
  | nil =>
    refine ⟨horphaned, fun i p hi hp => .inl ?_⟩
    rcases hi with hnew | hwaiting
    · exact absurd (At.lt_calls (r := r) hp) (Nat.not_lt.mpr hnew)
    · exact (At.unique (r := r) hp hwaiting).2
  | append_singleton moves m ih =>
    obtain ⟨hbefore, hcalls⟩ := ih
    have hinv : LooseInv (r.run moves) := (mirrored_run h moves).looseInv
    rw [run_concat]
    refine ⟨hbefore.step hinv m, fun i p hi hp => ?_⟩
    cases (orphaned_step hinv hbefore m).2 i p hp with
    | stays call =>
      rcases hcalls i p hi call with hwaiting | ⟨hcancelled, hm⟩
      · exact .inl hwaiting
      · exact .inr ⟨hcancelled, List.mem_append_left _ hm⟩
    | waits _ point => exact .inl point
    | cancelled move point => exact .inr ⟨point, List.mem_append_right _ (by simp [move])⟩
    | earlier call other =>
      rcases hcalls i _ hi call with hwaiting | ⟨hcancelled, -⟩
      · exact absurd (CallPoint.waiting.inj hwaiting) other
      · exact nomatch hcancelled

end Stuck

section Fate

/-- A call fails only if its fetch cannot be counted. -/
theorem failed_step {error : Raised} (hcall : (r.step m).At i v (.finished (.failed error))) :
    r.At i v (.finished (.failed error)) ∨
      ∃ name, Version.ofName? name = some v ∧ m = .begin name (some error) := by
  have hnew {r' : Resolver} {name : Text} {point : CallPoint} (hcalls : r'.calls = r.calls)
      (hpoint : point ≠ .finished (.failed error))
      (h : (r'.addCall name point).At i v (.finished (.failed error))) :
      r.At i v (.finished (.failed error)) := by
    rcases at_addCall.mp h with ⟨-, heq, -⟩ | ⟨name', hname', hv⟩
    · exact absurd heq.symm hpoint
    · exact ⟨name', hcalls ▸ hname', hv⟩
  have hmoved {name : Text} {point q : CallPoint} {j : Nat}
      (hj : r.calls[j]? = some ⟨name, q⟩) (hpoint : point ≠ .finished (.failed error))
      (h : (r.moveCall j point).At i v (.finished (.failed error))) :
      r.At i v (.finished (.failed error)) := by
    rcases h.of_moveCall hj with hold | ⟨-, heq, -⟩
    · exact hold
    · exact absurd heq.symm hpoint
  rcases step_calmed r m with heq | ⟨name, error', w, rfl, supported, -, -, heq⟩
  · rw [heq] at hcall
    refine .inl ?_
    have heffect : Effect r m.calmed (r.step m.calmed) := step_effect r m.calmed_calm
    generalize r.step m.calmed = next at heffect hcall
    generalize m.calmed = m' at heffect
    cases heffect with
    | idle => exact hcall
    | unknown | hit | follow | lead | atOnce => exact hnew rfl (by simp) hcall
    | landed fetching =>
      rcases (at_landed fetching).mp hcall with ⟨-, heq, -⟩ | ⟨-, hold⟩
      · exact nomatch heq
      · exact hold
    | woken waiting | dropped waiting | left waiting => exact hmoved waiting (by simp) hcall
    | abandoned fetching =>
      rcases (at_abandoned fetching).mp hcall with ⟨-, heq, -⟩ | ⟨-, hold⟩
      · exact nomatch heq
      · exact hold
  · rw [heq] at hcall
    rcases at_addCall.mp hcall with ⟨-, hpoint, hv⟩ | hold
    · obtain rfl := CallOutcome.failed.inj (CallPoint.finished.inj hpoint)
      exact .inr ⟨name, hv, rfl⟩
    · exact .inl hold

theorem stranded_run (hnew : ¬r.Stranded v) (hstranded : (r.run moves).Stranded v) :
    ∃ name error, Version.ofName? name = some v ∧ .begin name (some error) ∈ moves := by
  induction moves using List.reverseRecOn with
  | nil => exact absurd hstranded hnew
  | append_singleton moves m ih =>
    rw [run_concat] at hstranded
    obtain ⟨i, error, hcall⟩ := hstranded
    rcases failed_step hcall with hold | ⟨name, hname, rfl⟩
    · obtain ⟨name, error, hname, hm⟩ := ih ⟨i, error, hold⟩
      exact ⟨name, error, hname, List.mem_append_left _ hm⟩
    · exact ⟨name, error, hname, List.mem_append_right _ (List.mem_singleton_self _)⟩

theorem Mirrored.slotFate (h : Mirrored r) (v : Version) : r.SlotFate v where
  pending := fun f hkept => (h.looseInv.led v f hkept).1
  landed := by
    intro i f hcall declarations
    have hended : (r.landed v f i (declarations.getD [])).At i v _ :=
      (at_landed hcall).mpr (.inl ⟨rfl, rfl, rfl⟩)
    rw [step_land hcall]
    refine ⟨_, (slot?_landed ..).trans (if_pos rfl), ?_⟩
    obtain ⟨name, hname, -⟩ := hended
    rw [outcome?, hname]
  cancelled := by
    intro i f hcall
    have hended : (r.abandoned v f i).At i v _ := (at_abandoned hcall).mpr (.inl ⟨rfl, rfl, rfl⟩)
    rw [step_cancel_fetching hcall]
    refine ⟨(slot?_abandoned ..).trans (if_pos rfl), ?_⟩
    obtain ⟨name, hname, -⟩ := hended
    rw [outcome?, hname]
  uncounted := by
    intro name error hname hkept hfetches
    have hstep : r.step (.begin name (some error)) = r.strand v name error := by
      simp only [step, begin, hname, hkept, hfetches, if_true]
      rfl
    rw [hstep]
    refine ⟨⟨(slot?_strand ..).trans (if_pos rfl), fun i g hcall => ?_⟩, ?_⟩
    · rcases at_addCall.mp hcall with ⟨-, hpoint, -⟩ | hold
      · cases hpoint
      · have hsome : r.slot? v = some (.pending g) := h.looseInv.kept hold
        rw [hkept] at hsome
        cases hsome
    · have hended : (r.strand v name error).calls[r.calls.length]? = some ⟨name, _⟩ :=
        (getElem?_addCall ..).trans (if_pos rfl)
      rw [outcome?, hended]
  orphaned := by
    constructor
    · rintro ⟨f, horphaned⟩
      rcases (h.looseInv.led v f horphaned.kept).2 with ⟨i, hi⟩ | hstranded
      · exact absurd hi (horphaned.unled i f)
      · exact hstranded
    · exact h.looseInv.stranded v
  settled := by
    intro hstranded hunled
    cases hslot : r.slot? v with
    | none => exact .inl rfl
    | some kept =>
      cases kept with
      | bound b => exact .inr ⟨b, rfl⟩
      | pending f =>
        rcases (h.looseInv.led v f hslot).2 with ⟨i, hi⟩ | hfailed
        · exact absurd hi (hunled i f)
        · exact absurd hfailed hstranded
  ends := by
    intro hstranded i p hcall ends
    have hled : r.Led v := by
      intro f hkept
      obtain ⟨hpending, hleader⟩ := h.looseInv.led v f hkept
      exact ⟨hpending, hleader.resolve_right hstranded⟩
    rcases h.looseInv.placed i v p hcall with ⟨error, rfl⟩ | hplaced
    · exact absurd ⟨i, error, hcall⟩ hstranded
    · exact hplaced.can_finish hled hcall ends
  stuck := fun f horphaned moves => orphaned_run h horphaned moves

/-- **Flights that no call ends.** Whatever the calls of a resolver do, and whatever is raised as
their fetches are counted: a call that leaves its fetch, with a binding or cancelled, leaves behind
the binding or nothing. A flight that is kept without a call that is going to end it is there
exactly if a fetch for the version could not be counted, and then it stays for ever, and the calls
that wait for it with it. -/
theorem run_slotFate (fetches : Bool) (moves : List Move) (v : Version) :
    (run { fetches } moves).SlotFate v ∧
      ((run { fetches } moves).Stranded v →
        ∃ name error, Version.ofName? name = some v ∧ .begin name (some error) ∈ moves) := by
  have hmirrored : Mirrored (run { fetches } moves) := mirrored_run (mirrored_new fetches) moves
  refine ⟨hmirrored.slotFate v, stranded_run ?_⟩
  rintro ⟨i, error, name, hname, -⟩
  exact nomatch hname

/-- The fetch of a call cannot be counted, as the device is full, and a later call waits for it. -/
def uncounted (name : Text) : List Move :=
  [.begin name (some ⟨Text.ofString "No space left on device"⟩), .begin name none, .wake 1]

/-- After the call has failed its flight is still kept and has not ended, no call is going to end
it, and the later call waits. -/
theorem run_uncounted :
    let r := run { fetches := true } (uncounted Version.v3_24_2.name)
    r.outcome? 0 = some (.failed ⟨Text.ofString "No space left on device"⟩) ∧
      r.Orphaned .v3_24_2 0 ∧ r.flights[0]? = some .pending ∧
      r.At 1 .v3_24_2 (.waiting 0) := by
  intro r
  have hpoints : r.calls.map (·.point) =
      [.finished (.failed ⟨Text.ofString "No space left on device"⟩), .waiting 0] := by
    with_unfolding_all rfl
  have hslot : r.slot? .v3_24_2 = some (.pending 0) := by decide
  have hwaiting : r.calls[1]? = some ⟨Version.v3_24_2.name, .waiting 0⟩ := by
    with_unfolding_all rfl
  refine ⟨by with_unfolding_all rfl, ⟨hslot, ?_⟩, by decide, Version.v3_24_2.name, hwaiting,
    by decide⟩
  rintro i g ⟨name, hcall, -⟩
  have hmem : CallPoint.fetching g ∈ r.calls.map (·.point) :=
    List.mem_map_of_mem (List.mem_of_getElem? hcall)
  simp [hpoints] at hmem

end Fate

end Conform.Resolver
