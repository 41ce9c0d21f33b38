import Conform.Proofs.Resolver.Cancellation

/-!
# Resolvers at rest

Where no fetch is under way, everything that is kept is a binding. A call that then runs on its own
ends with a binding of its version, and leaves the resolver at rest.

## Main definitions

- `Resolver.AtRest` — no fetch is under way
- `Resolver.atRest_new`, `Resolver.Inv.atRest` — new resolvers and quiet ones are at rest
- `Resolver.AtRest.begin_spec`, `Resolver.AtRest.land_spec` — a call on its own
-/

namespace Conform.Resolver

variable {r r' : Resolver} {v : Version} {name : Text}

/-- No fetch is under way: what is kept for a version is a binding of this version. -/
def AtRest (r : Resolver) : Prop :=
  ∀ v s, r.slot? v = some s → ∃ b, s = .bound b ∧ b.version = v

/-- A new resolver. -/
theorem atRest_new (fetches : Bool) : AtRest { fetches } := fun _ _ h => nomatch h

/-- After moves in which no exporter has raised, a resolver is at rest as soon as nothing goes on
any more. -/
theorem Inv.atRest (h : Inv r) (hquiet : r.Quiet) : r.AtRest := by
  intro v s hslot
  cases s with
  | pending f =>
    -- A call fetches for the flight, and its landing would not leave the resolver as it is.
    obtain ⟨-, i, hi⟩ := h.led v f hslot
    have hsame : r.landed v f i [] = r := (step_land hi none).symm.trans ((hquiet i).2 none)
    have hlanded := slot?_landed r v v f i []
    rw [if_pos rfl, hsame, hslot] at hlanded
    exact nomatch hlanded
  | bound b =>
    have hfilter := h.announced v
    rw [hslot] at hfilter
    have hmem : b ∈ r.announced.filter fun b => b.version = v := hfilter ▸ List.mem_singleton_self b
    exact ⟨b, rfl, of_decide_eq_true (List.mem_filter.mp hmem).2⟩

/-- A version gets a binding, and nothing else changes. -/
theorem AtRest.bound (h : r.AtRest) {b : Binding} (hb : b.version = v)
    (hslots : ∀ w, r'.slot? w = if w = v then some (.bound b) else r.slot? w) : r'.AtRest := by
  intro w s hslot
  rw [hslots] at hslot
  by_cases hw : w = v
  · rw [if_pos hw] at hslot
    exact ⟨b, (Option.some.inj hslot).symm, hb.trans hw.symm⟩
  · rw [if_neg hw] at hslot
    exact h w s hslot

theorem outcome?_addCall (r : Resolver) (name : Text) (outcome : CallOutcome) :
    (r.addCall name (.finished outcome)).outcome? r.calls.length = some outcome := by
  rw [outcome?, getElem?_addCall, if_pos rfl]

/-- How a call by a name ends that nothing disturbs: with a binding if the name is that of a
version. -/
def Served (name : Text) : CallOutcome → Prop
  | .bound b => Version.ofName? name = some b.version
  | .unknown => Version.ofName? name = none
  | _ => False

/-- A call without a fetch of its own ends at once. -/
theorem AtRest.begin_spec (h : r.AtRest)
    (hfetch : ∀ v, Version.ofName? name = some v → r.slot? v = none → r.fetches = false) :
    ∃ outcome, (r.step (.begin name none)).outcome? r.calls.length = some outcome ∧
      Served name outcome ∧ (r.step (.begin name none)).AtRest := by
  cases hname : Version.ofName? name with
  | none =>
    have hbegin : r.step (.begin name none) = r.addCall name (.finished .unknown) := by
      simp only [step, begin, hname]
    exact hbegin ▸ ⟨.unknown, outcome?_addCall r name _, hname, h⟩
  | some v =>
    cases hslot : r.slot? v with
    | some s =>
      obtain ⟨b, rfl, hb⟩ := h v s hslot
      have hbegin : r.step (.begin name none) = r.addCall name (.finished (.bound b)) := by
        simp only [step, begin, hname, hslot]
      exact hbegin ▸ ⟨.bound b, outcome?_addCall r name _, hname.trans (congrArg some hb.symm), h⟩
    | none =>
      have hbegin : r.step (.begin name none) = r.bindAtOnce v name := by
        simp only [step, begin, hname, hslot, hfetch v hname hslot]
        rfl
      exact hbegin ▸ ⟨.bound (r.newBinding v []), outcome?_addCall _ name _, hname,
        h.bound (v := v) (b := r.newBinding v []) rfl fun w => slot?_bindAtOnce r v w name⟩

/-- A call whose fetch could not be counted fails. -/
theorem begin_uncounted (hname : Version.ofName? name = some v) (hslot : r.slot? v = none)
    (hfetches : r.fetches = true) (e : Raised) :
    (r.step (.begin name (some e))).outcome? r.calls.length = some (.failed e) := by
  simp only [step, begin, hname, hslot, hfetches, if_true]
  exact outcome?_addCall _ name _

/-- A call with a fetch of its own ends with it. -/
theorem AtRest.land_spec (h : r.AtRest) (hname : Version.ofName? name = some v)
    (hslot : r.slot? v = none) (hfetches : r.fetches = true) (declarations : Option Text) :
    ∃ outcome, ((r.step (.begin name none)).step (.land r.calls.length declarations)).outcome?
        r.calls.length = some outcome ∧
      Served name outcome ∧
      ((r.step (.begin name none)).step (.land r.calls.length declarations)).AtRest := by
  have hlead : r.step (.begin name none) = r.lead v name := by
    simp only [step, begin, hname, hslot, hfetches, if_true]
    rfl
  have hcall : (r.lead v name).calls[r.calls.length]? =
      some ⟨name, .fetching r.flights.length⟩ := by
    rw [lead, getElem?_addCall]
    exact if_pos rfl
  rw [hlead, step_land ⟨name, hcall, hname⟩]
  generalize hled : r.lead v name = led at hcall ⊢
  obtain ⟨b, hb⟩ : ∃ b, led.newBinding v (declarations.getD []) = b := ⟨_, rfl⟩
  have hversion : b.version = v := hb ▸ rfl
  have hmoved := moveCall_calls (r := led.bind v r.flights.length (declarations.getD [])) hcall
    (.finished (.bound b)) r.calls.length
  refine ⟨.bound b, ?_, hname.trans (congrArg some hversion.symm), h.bound hversion fun w => ?_⟩
  · rw [outcome?, landed, hb, hmoved, if_pos rfl]
  · rw [slot?_landed, hb, ← hled, slot?_lead]
    by_cases hw : w = v
    · rw [if_pos hw, if_pos hw]
    · rw [if_neg hw, if_neg hw, if_neg hw]

end Conform.Resolver
