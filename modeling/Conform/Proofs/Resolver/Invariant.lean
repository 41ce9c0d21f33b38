import Conform.Proofs.Resolver.Effect

/-!
# What resolvers keep

What holds of a new resolver and is kept by every calm move: which slot, flight and call belong
together.

## Main definitions

- `Resolver.Placed` — where a call may be
- `Resolver.Inv` — what holds of a resolver at all times
- `Resolver.inv_step`, `Resolver.inv_run` — calm moves keep it
-/

namespace Conform.Resolver

/-- Where a call for a version may be, given what is kept for the version and how the flights have
ended. -/
inductive Placed (r : Resolver) (v : Version) : CallPoint → Prop
  | fetching {f : Nat} (kept : r.slot? v = some (.pending f)) : Placed r v (.fetching f)
  | behind {f : Nat} (kept : r.slot? v = some (.pending f)) : Placed r v (.waiting f)
  | landed {f : Nat} {b : Binding} (settled : r.flights[f]? = some (.landed b))
      (kept : r.slot? v = some (.bound b)) : Placed r v (.waiting f)
  | cancelled {f : Nat} (settled : r.flights[f]? = some .cancelled) : Placed r v (.waiting f)
  | bound {b : Binding} (kept : r.slot? v = some (.bound b)) : Placed r v (.finished (.bound b))
  | ended : Placed r v (.finished .cancelled)

/-- The bindings that have been announced for a version, given what is kept for it. -/
def announcedFor : Option Slot → List Binding
  | some (.bound b) => [b]
  | _ => []

/-- What holds of a resolver at all times. -/
structure Inv (r : Resolver) : Prop where
  /-- Calls are where they may be. -/
  placed : ∀ i v p, r.At i v p → r.Placed v p
  /-- Calls for what is not supported have ended. -/
  unsupported : ∀ c ∈ r.calls, Version.ofName? c.name = none → c.point = .finished .unknown
  /-- A flight that is kept is pending, and a call fetches for it. -/
  led : ∀ v f, r.slot? v = some (.pending f) →
    r.flights[f]? = some .pending ∧ ∃ i, r.At i v (.fetching f)
  /-- No two calls fetch for a flight. -/
  alone : ∀ i j v f, r.At i v (.fetching f) → r.At j v (.fetching f) → i = j
  /-- No flight is kept for two versions. -/
  apart : ∀ v w f, r.slot? v = some (.pending f) → r.slot? w = some (.pending f) → v = w
  /-- What is bound has been announced, and nothing else. -/
  announced : ∀ v, r.announced.filter (fun b => b.version = v) = announcedFor (r.slot? v)

/-- A new resolver. -/
theorem inv_new (fetches : Bool) : Inv { fetches } where
  placed := by
    rintro i v p ⟨name, hname, -⟩
    exact nomatch hname
  unsupported := fun c hc => absurd hc List.not_mem_nil
  led := fun v f h => nomatch h
  alone := by
    rintro i j v f ⟨name, hname, -⟩
    exact nomatch hname
  apart := fun v w f h => nomatch h
  announced := fun v => rfl

variable {r r' : Resolver} {v w : Version} {p point : CallPoint} {i j f : Nat}

/-- A call stays where it may be as long as nothing that is kept changes. -/
theorem Placed.mono (h : r.Placed v p) (hslot : ∀ s, r.slot? v = some s → r'.slot? v = some s)
    (hflight : ∀ (g : Nat) (fl : Flight), r.flights[g]? = some fl → r'.flights[g]? = some fl) :
    r'.Placed v p := by
  cases h with
  | fetching kept => exact .fetching (hslot _ kept)
  | behind kept => exact .behind (hslot _ kept)
  | landed settled kept => exact .landed (hflight _ _ settled) (hslot _ kept)
  | cancelled settled => exact .cancelled (hflight _ _ settled)
  | bound kept => exact .bound (hslot _ kept)
  | ended => exact .ended

/-- A call that does not fetch for a flight stays where it may be when the flight ends, with a
binding or cancelled. -/
theorem Placed.settle (hinv : Inv r) (hkept : r.slot? v = some (.pending f))
    (hslots : ∀ u, u ≠ v → r'.slot? u = r.slot? u)
    (hflights : ∀ g, g ≠ f → r'.flights[g]? = r.flights[g]?)
    (hend : (∃ b, r'.flights[f]? = some (.landed b) ∧ r'.slot? v = some (.bound b)) ∨
      r'.flights[f]? = some .cancelled)
    (h : r.Placed w p) (hp : ¬(w = v ∧ p = .fetching f)) : r'.Placed w p := by
  -- What is kept for another version than `v` has not changed.
  have hother {s : Slot} (hs : r.slot? w = some s) (hne : s ≠ .pending f) :
      r'.slot? w = some s := by
    have hw : w ≠ v := by
      rintro rfl
      exact hne (Option.some.inj (hs.symm.trans hkept))
    rw [hslots w hw, hs]
  -- The flight was pending, so a flight that had ended is another one.
  have hended {g : Nat} {fl : Flight} (hg : r.flights[g]? = some fl) (hne : fl ≠ .pending) :
      r'.flights[g]? = some fl := by
    have hgf : g ≠ f := by
      rintro rfl
      exact hne (Option.some.inj (hg.symm.trans (hinv.led v g hkept).1))
    rw [hflights g hgf, hg]
  cases h with
  | @fetching g kept =>
    have hg : g ≠ f := by
      rintro rfl
      exact hp ⟨hinv.apart w v g kept hkept, rfl⟩
    exact .fetching (hother kept fun heq => hg (Slot.pending.inj heq))
  | @behind g kept =>
    by_cases hg : g = f
    · -- The call waits for the flight that ends, so it is for the same version.
      subst hg
      obtain rfl := hinv.apart w v g kept hkept
      rcases hend with ⟨b, hflight, hslot⟩ | hflight
      · exact .landed hflight hslot
      · exact .cancelled hflight
    · exact .behind (hother kept fun heq => hg (Slot.pending.inj heq))
  | landed settled kept => exact .landed (hended settled (by simp)) (hother kept (by simp))
  | cancelled settled => exact .cancelled (hended settled (by simp))
  | bound kept => exact .bound (hother kept (by simp))
  | ended => exact .ended

/-- A call for what is supported may be added anywhere. -/
theorem unsupported_addCall {name : Text}
    (hname : Version.ofName? name = none → point = .finished .unknown)
    (h : ∀ c ∈ r.calls, Version.ofName? c.name = none → c.point = .finished .unknown) :
    ∀ c ∈ (r.addCall name point).calls, Version.ofName? c.name = none →
      c.point = .finished .unknown := by
  intro c hc hnone
  rcases List.mem_append.mp hc with hc | hc
  · exact h c hc hnone
  · obtain rfl := List.mem_singleton.mp hc
    exact hname hnone

/-- A new call that does not fetch. -/
theorem Inv.addCall (h : Inv r) {name : Text}
    (hplaced : ∀ v, Version.ofName? name = some v → r.Placed v point)
    (hunsupported : Version.ofName? name = none → point = .finished .unknown)
    (hpoint : ∀ f, point ≠ .fetching f) : Inv (r.addCall name point) := by
  have hfetching {i : Nat} {v : Version} {f : Nat} :
      (r.addCall name point).At i v (.fetching f) ↔ r.At i v (.fetching f) := by
    rw [at_addCall]
    exact or_iff_right fun hnew => hpoint f hnew.2.1.symm
  constructor
  · intro i v p hp
    have hold : r.Placed v p := by
      rcases at_addCall.mp hp with ⟨-, rfl, hname⟩ | hp
      · exact hplaced v hname
      · exact h.placed i v p hp
    exact hold.mono (fun _ hs => hs) fun _ _ hf => hf
  · exact unsupported_addCall hunsupported h.unsupported
  · intro v f hv
    obtain ⟨hpending, i, hi⟩ := h.led v f hv
    exact ⟨hpending, i, hfetching.mpr hi⟩
  · intro i j v f hi hj
    exact h.alone i j v f (hfetching.mp hi) (hfetching.mp hj)
  · exact h.apart
  · exact h.announced

/-- A new call for a version that does not fetch. -/
theorem Inv.addCall_supported (h : Inv r) {name : Text} (hname : Version.ofName? name = some v)
    (hplaced : r.Placed v point) (hpoint : ∀ f, point ≠ .fetching f) :
    Inv (r.addCall name point) := by
  apply h.addCall
  · intro w hw
    obtain rfl := Option.some.inj (hname.symm.trans hw)
    exact hplaced
  · intro hnone
    exact nomatch hname.symm.trans hnone
  · exact hpoint

/-- A call for what is supported may be moved anywhere. -/
theorem unsupported_moveCall (hcall : r.At j w p)
    (h : ∀ c ∈ r.calls, Version.ofName? c.name = none → c.point = .finished .unknown) :
    ∀ c ∈ (r.moveCall j point).calls, Version.ofName? c.name = none →
      c.point = .finished .unknown := by
  intro c hc hnone
  obtain ⟨name, hname, hw⟩ := hcall
  obtain ⟨i, hi⟩ := List.mem_iff_getElem?.mp hc
  rw [moveCall_calls hname] at hi
  split at hi
  · obtain rfl := Option.some.inj hi
    exact nomatch hw.symm.trans hnone
  · exact h c (List.mem_of_getElem? hi) hnone

/-- A call that does not fetch goes on to where it may be and ends there. -/
theorem Inv.moveCall (h : Inv r) {outcome : CallOutcome} (hcall : r.At j w p)
    (hp : ∀ f, p ≠ .fetching f) (hplaced : r.Placed w (.finished outcome)) :
    Inv (r.moveCall j (.finished outcome)) := by
  have hfetching {i : Nat} {v : Version} {f : Nat} :
      (r.moveCall j (.finished outcome)).At i v (.fetching f) ↔ r.At i v (.fetching f) := by
    rw [at_moveCall hcall]
    constructor
    · rintro (⟨-, hpoint, -⟩ | ⟨-, hi⟩)
      · exact nomatch hpoint
      · exact hi
    · intro hi
      refine .inr ⟨?_, hi⟩
      rintro rfl
      exact hp f (hcall.unique hi).2
  have hmono {v : Version} {q : CallPoint} (hq : r.Placed v q) :
      (r.moveCall j (.finished outcome)).Placed v q :=
    hq.mono (fun _ hs => (slot?_moveCall ..).trans hs) fun f fl hf => by
      rwa [flights_moveCall]
  constructor
  · intro i v q hq
    rcases (at_moveCall hcall).mp hq with ⟨-, rfl, rfl⟩ | ⟨-, hq⟩
    · exact hmono hplaced
    · exact hmono (h.placed i v q hq)
  · exact unsupported_moveCall hcall h.unsupported
  · intro v f hv
    rw [slot?_moveCall] at hv
    obtain ⟨hpending, i, hi⟩ := h.led v f hv
    exact ⟨by rwa [flights_moveCall], i, hfetching.mpr hi⟩
  · intro i j v f hi hj
    exact h.alone i j v f (hfetching.mp hi) (hfetching.mp hj)
  · intro v w f hv hw
    rw [slot?_moveCall] at hv hw
    exact h.apart v w f hv hw
  · intro v
    rw [announced_moveCall, slot?_moveCall]
    exact h.announced v

/-- A call that is suspended is on behalf of a version. -/
theorem Inv.supported (h : Inv r) {name : Text} (hcall : r.calls[i]? = some ⟨name, point⟩)
    (hpoint : point ≠ .finished .unknown) : ∃ v, r.At i v point := by
  cases hname : Version.ofName? name with
  | none => exact absurd (h.unsupported _ (List.mem_of_getElem? hcall) hname) hpoint
  | some v => exact ⟨v, name, hcall, hname⟩

/-- A call fetches for the flight that is kept. -/
theorem Inv.kept (h : Inv r) (hcall : r.At i v (.fetching f)) :
    r.slot? v = some (.pending f) := by
  cases h.placed i v _ hcall with
  | fetching kept => exact kept

/-- A call for a version waited for the flight that has bound it. -/
theorem Inv.bound (h : Inv r) {b : Binding} (hcall : r.At i v (.waiting f))
    (hsettled : r.flights[f]? = some (.landed b)) : r.slot? v = some (.bound b) := by
  cases h.placed i v _ hcall with
  | behind kept => exact nomatch (h.led v f kept).1.symm.trans hsettled
  | landed settled kept =>
    obtain rfl := Flight.landed.inj (Option.some.inj (settled.symm.trans hsettled))
    exact kept
  | cancelled settled => exact nomatch settled.symm.trans hsettled

/-- A call leads a new flight. -/
theorem Inv.lead (h : Inv r) {name : Text} (hname : Version.ofName? name = some v)
    (hkept : r.slot? v = none) : Inv (r.lead v name) := by
  -- The new flight is none of the flights that are kept.
  have hnew {u : Version} (hu : r.slot? u = some (.pending r.flights.length)) : False := by
    have hflight := (h.led u _ hu).1
    rw [List.getElem?_eq_none (Nat.le_refl _)] at hflight
    exact nomatch hflight
  have hflights {g : Nat} {fl : Flight} (hg : r.flights[g]? = some fl) :
      (r.lead v name).flights[g]? = some fl := by
    have hlt : g < r.flights.length := (List.getElem?_eq_some_iff.mp hg).1
    exact (List.getElem?_append_left hlt).trans hg
  have hslot {u : Version} {s : Slot} (hs : r.slot? u = some s) :
      (r.lead v name).slot? u = some s := by
    have hu : u ≠ v := by
      rintro rfl
      exact nomatch hkept.symm.trans hs
    rw [slot?_lead, if_neg hu, hs]
  have hpending {u : Version} {g : Nat}
      (hg : (r.lead v name).slot? u = some (.pending g)) :
      (u = v ∧ g = r.flights.length) ∨ (u ≠ v ∧ r.slot? u = some (.pending g)) := by
    rw [slot?_lead] at hg
    split at hg
    · rename_i hu
      exact .inl ⟨hu, (Slot.pending.inj (Option.some.inj hg)).symm⟩
    · rename_i hu
      exact .inr ⟨hu, hg⟩
  constructor
  · intro i w p hp
    rcases at_addCall.mp hp with ⟨-, rfl, hw⟩ | hp
    · obtain rfl := Option.some.inj (hname.symm.trans hw)
      exact .fetching ((slot?_lead ..).trans (if_pos rfl))
    · exact (h.placed i w p hp).mono (fun _ hs => hslot hs) fun _ _ hg => hflights hg
  · exact unsupported_addCall (fun hnone => nomatch hname.symm.trans hnone) h.unsupported
  · intro u g hg
    rcases hpending hg with ⟨rfl, rfl⟩ | ⟨-, hg⟩
    · exact ⟨List.getElem?_concat_length, r.calls.length,
        at_addCall.mpr (.inl ⟨rfl, rfl, hname⟩)⟩
    · obtain ⟨hflight, i, hi⟩ := h.led u g hg
      exact ⟨hflights hflight, i, at_addCall.mpr (.inr hi)⟩
  · -- The new call is the only one that fetches for the new flight.
    intro i j u g hi hj
    rcases at_addCall.mp hi with ⟨rfl, hg, -⟩ | hi <;>
      rcases at_addCall.mp hj with ⟨rfl, hg', -⟩ | hj
    · rfl
    · obtain rfl := CallPoint.fetching.inj hg
      exact (hnew (h.kept hj)).elim
    · obtain rfl := CallPoint.fetching.inj hg'
      exact (hnew (h.kept hi)).elim
    · exact h.alone i j u g hi hj
  · intro u w g hu hw
    rcases hpending hu with ⟨rfl, rfl⟩ | ⟨-, hu'⟩ <;>
      rcases hpending hw with ⟨rfl, hg⟩ | ⟨-, hw'⟩
    · rfl
    · exact (hnew hw').elim
    · exact (hnew (hg ▸ hu')).elim
    · exact h.apart u w g hu' hw'
  · intro u
    rw [slot?_lead]
    refine (h.announced u).trans ?_
    split
    · rename_i hu
      rw [hu, hkept]
      rfl
    · rfl

/-- The announcements after another one. -/
theorem announced_concat (h : ∀ u, r.announced.filter (fun b => b.version = u) =
      announcedFor (r.slot? u)) (hv : announcedFor (r.slot? v) = []) {b : Binding}
    (hb : b.version = v) (hslots : ∀ u, r'.slot? u = if u = v then some (.bound b) else r.slot? u)
    (u : Version) :
    (r.announced ++ [b]).filter (fun b => b.version = u) = announcedFor (r'.slot? u) := by
  rw [List.filter_append, h u, hslots u]
  by_cases hu : u = v
  · subst hu
    rw [if_pos rfl, hv, List.filter_cons_of_pos (by simpa using hb)]
    rfl
  · have hne : ¬b.version = u := fun heq => hu (heq.symm.trans hb)
    rw [if_neg hu, List.filter_cons_of_neg (by simpa using hne), List.filter_nil, List.append_nil]

/-- A version is bound without a fetch. -/
theorem Inv.bindAtOnce (h : Inv r) {name : Text} (hname : Version.ofName? name = some v)
    (hkept : r.slot? v = none) : Inv (r.bindAtOnce v name) := by
  have hflights {g : Nat} {fl : Flight} (hg : r.flights[g]? = some fl) :
      (r.bindAtOnce v name).flights[g]? = some fl := by
    have hlt : g < r.flights.length := (List.getElem?_eq_some_iff.mp hg).1
    exact (List.getElem?_set_ne (by omega)).trans ((List.getElem?_append_left hlt).trans hg)
  have hslot {u : Version} {s : Slot} (hs : r.slot? u = some s) :
      (r.bindAtOnce v name).slot? u = some s := by
    have hu : u ≠ v := by
      rintro rfl
      exact nomatch hkept.symm.trans hs
    rw [slot?_bindAtOnce, if_neg hu, hs]
  have hpending {u : Version} {g : Nat}
      (hg : (r.bindAtOnce v name).slot? u = some (.pending g)) :
      r.slot? u = some (.pending g) := by
    rw [slot?_bindAtOnce] at hg
    split at hg
    · exact nomatch hg
    · exact hg
  have hfetching {i : Nat} {u : Version} {g : Nat} :
      (r.bindAtOnce v name).At i u (.fetching g) ↔ r.At i u (.fetching g) :=
    at_addCall.trans (or_iff_right fun hnew => nomatch hnew.2.1)
  constructor
  · intro i w p hp
    rcases at_addCall.mp hp with ⟨-, rfl, hw⟩ | hp
    · obtain rfl := Option.some.inj (hname.symm.trans hw)
      exact .bound ((slot?_bindAtOnce ..).trans (if_pos rfl))
    · exact (h.placed i w p hp).mono (fun _ hs => hslot hs) fun _ _ hg => hflights hg
  · exact unsupported_addCall (fun hnone => nomatch hname.symm.trans hnone) h.unsupported
  · intro u g hg
    obtain ⟨hflight, i, hi⟩ := h.led u g (hpending hg)
    exact ⟨hflights hflight, i, hfetching.mpr hi⟩
  · intro i j u g hi hj
    exact h.alone i j u g (hfetching.mp hi) (hfetching.mp hj)
  · intro u w g hu hw
    exact h.apart u w g (hpending hu) (hpending hw)
  · have hv : announcedFor (r.slot? v) = [] := by
      rw [hkept]
      rfl
    exact announced_concat h.announced hv rfl fun u => slot?_bindAtOnce r v u name

/-- The flight of the call that fetches ends. -/
theorem Inv.settle (h : Inv r) {outcome : CallOutcome} (hcall : r.At j v (.fetching f))
    (hat : ∀ {i w p}, r'.At i w p ↔
      (i = j ∧ p = .finished outcome ∧ w = v) ∨ (i ≠ j ∧ r.At i w p))
    (hunsupported : ∀ c ∈ r'.calls, Version.ofName? c.name = none →
      c.point = .finished .unknown)
    (hslots : ∀ u, u ≠ v → r'.slot? u = r.slot? u)
    (hflights : ∀ g, g ≠ f → r'.flights[g]? = r.flights[g]?)
    (hend : (∃ b, r'.flights[f]? = some (.landed b) ∧ r'.slot? v = some (.bound b)) ∨
      r'.flights[f]? = some .cancelled)
    (hfree : ∀ g, r'.slot? v ≠ some (.pending g)) (hplaced : r'.Placed v (.finished outcome))
    (hannounced : ∀ u, r'.announced.filter (fun b => b.version = u) = announcedFor (r'.slot? u)) :
    Inv r' := by
  have hpending {u : Version} {g : Nat} (hg : r'.slot? u = some (.pending g)) :
      u ≠ v ∧ r.slot? u = some (.pending g) := by
    have hu : u ≠ v := by
      rintro rfl
      exact hfree g hg
    exact ⟨hu, hslots u hu ▸ hg⟩
  have hfetching {i : Nat} {w : Version} {g : Nat} (hi : r'.At i w (.fetching g)) :
      r.At i w (.fetching g) := by
    rcases hat.mp hi with ⟨-, hpoint, -⟩ | ⟨-, hi⟩
    · exact nomatch hpoint
    · exact hi
  constructor
  · intro i w p hp
    rcases hat.mp hp with ⟨-, rfl, rfl⟩ | ⟨hi, hp⟩
    · exact hplaced
    · -- Any other call does not fetch for this flight, as one call alone does.
      refine (h.placed i w p hp).settle h (h.kept hcall) hslots hflights hend ?_
      rintro ⟨rfl, rfl⟩
      exact hi (h.alone i j w f hp hcall)
  · exact hunsupported
  · intro u g hg
    obtain ⟨hu, hg⟩ := hpending hg
    obtain ⟨hflight, i, hi⟩ := h.led u g hg
    have hgf : g ≠ f := by
      rintro rfl
      exact hu (h.apart u v g hg (h.kept hcall))
    have hij : i ≠ j := by
      rintro rfl
      exact hu (hi.unique hcall).1
    exact ⟨by rw [hflights g hgf, hflight], i, hat.mpr (.inr ⟨hij, hi⟩)⟩
  · intro i j u g hi hj
    exact h.alone i j u g (hfetching hi) (hfetching hj)
  · intro u w g hu hw
    exact h.apart u w g (hpending hu).2 (hpending hw).2
  · exact hannounced

/-- The flight of a call that fetches has begun. -/
theorem Inv.lt_flights (h : Inv r) (hcall : r.At j v (.fetching f)) : f < r.flights.length :=
  (List.getElem?_eq_some_iff.mp (h.led v f (h.kept hcall)).1).1

/-- A version is bound by the call that fetches. -/
theorem Inv.landed (h : Inv r) (hcall : r.At j v (.fetching f)) (declarations : Text) :
    Inv (r.landed v f j declarations) := by
  have hslot : (r.landed v f j declarations).slot? v = _ :=
    (slot?_landed ..).trans (if_pos rfl)
  have hflights : (r.landed v f j declarations).flights = _ := flights_moveCall ..
  have hkept : announcedFor (r.slot? v) = [] := by
    rw [h.kept hcall]
    rfl
  refine h.settle hcall (at_moveCall (r := r.bind v f declarations) hcall)
    (unsupported_moveCall (r := r.bind v f declarations) hcall h.unsupported) ?_ ?_ ?_ ?_ ?_ ?_
  · intro u hu
    exact (slot?_landed ..).trans (if_neg hu)
  · intro g hg
    rw [hflights]
    exact List.getElem?_set_ne (Ne.symm hg)
  · refine .inl ⟨_, ?_, hslot⟩
    rw [hflights]
    exact List.getElem?_set_self (h.lt_flights hcall)
  · intro g hg
    exact nomatch hslot.symm.trans hg
  · exact .bound hslot
  · intro u
    rw [Resolver.landed, announced_moveCall]
    exact announced_concat h.announced hkept rfl (fun u => slot?_landed r v u f j declarations) u

/-- A flight is cancelled together with the call that fetches. -/
theorem Inv.abandoned (h : Inv r) (hcall : r.At j v (.fetching f)) : Inv (r.abandoned v f j) := by
  have hslot : (r.abandoned v f j).slot? v = none := (slot?_abandoned ..).trans (if_pos rfl)
  have hflights : (r.abandoned v f j).flights = _ := flights_moveCall ..
  let emptied : Resolver := { r with
    slots := clearSlot v r.slots
    flights := r.flights.set f .cancelled }
  refine h.settle hcall (at_moveCall (r := emptied) hcall)
    (unsupported_moveCall (r := emptied) hcall h.unsupported) ?_ ?_ ?_ ?_ ?_ ?_
  · intro u hu
    exact (slot?_abandoned ..).trans (if_neg hu)
  · intro g hg
    rw [hflights]
    exact List.getElem?_set_ne (Ne.symm hg)
  · refine .inr ?_
    rw [hflights]
    exact List.getElem?_set_self (h.lt_flights hcall)
  · intro g hg
    exact nomatch hslot.symm.trans hg
  · exact .ended
  · intro u
    rw [Resolver.abandoned, announced_moveCall]
    refine (h.announced u).trans ?_
    rw [← Resolver.abandoned, slot?_abandoned]
    split
    · rename_i hu
      rw [hu, h.kept hcall]
      rfl
    · rfl

/-- Calm moves keep what holds. -/
theorem inv_step (h : Inv r) {m : Move} (hm : m.Calm) : Inv (r.step m) := by
  have heffect : Effect r m (r.step m) := step_effect r hm
  generalize r.step m = next at heffect
  cases heffect with
  | idle => exact h
  | unknown name unsupported =>
    refine h.addCall ?_ ?_ ?_
    · intro v hv
      exact nomatch unsupported.symm.trans hv
    · intro _
      rfl
    · exact fun f => nofun
  | hit name supported kept => exact h.addCall_supported supported (.bound kept) fun f => nofun
  | follow name supported kept => exact h.addCall_supported supported (.behind kept) fun f => nofun
  | lead name supported kept => exact h.lead supported kept
  | atOnce name supported kept => exact h.bindAtOnce supported kept
  | landed fetching => exact h.landed fetching _
  | woken waiting settled =>
    obtain ⟨v, hcall⟩ := h.supported waiting nofun
    exact h.moveCall hcall (fun f => nofun) (.bound (h.bound hcall settled))
  | dropped waiting settled =>
    obtain ⟨v, hcall⟩ := h.supported waiting nofun
    exact h.moveCall hcall (fun f => nofun) .ended
  | left waiting =>
    obtain ⟨v, hcall⟩ := h.supported waiting nofun
    exact h.moveCall hcall (fun f => nofun) .ended
  | abandoned fetching => exact h.abandoned fetching

/-- It holds after every row of calm moves. -/
theorem inv_run {moves : List Move} (h : Inv r) (calm : ∀ m ∈ moves, m.Calm) :
    Inv (r.run moves) := by
  induction moves generalizing r with
  | nil => exact h
  | cons m moves ih =>
    have hstep : Inv (r.step m) := inv_step h (calm m List.mem_cons_self)
    exact ih hstep fun m' hm' => calm m' (List.mem_cons_of_mem _ hm')

/-- What every calm move keeps, every row of them keeps. -/
theorem run_keeps {P : Resolver → Prop}
    (hstep : ∀ {r : Resolver} {m : Move}, Inv r → m.Calm → P r → P (r.step m)) {moves : List Move}
    (h : Inv r) (calm : ∀ m ∈ moves, m.Calm) (hr : P r) : P (r.run moves) := by
  induction moves generalizing r with
  | nil => exact hr
  | cons m moves ih =>
    have hm : m.Calm := calm m List.mem_cons_self
    have hrest : ∀ m' ∈ moves, m'.Calm := fun m' hm' => calm m' (List.mem_cons_of_mem m hm')
    exact ih (inv_step h hm) hrest (hstep h hm hr)

end Conform.Resolver
