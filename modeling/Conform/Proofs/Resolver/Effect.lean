import Conform.Resolver.Basic
import Mathlib.Data.List.Basic

/-!
# The effects of moves

A move of a resolver that raises nothing on its own has one of a few effects. They are listed with
all that they ask of the state, so that what moves keep is proved effect by effect.

## Main definitions

- `Resolver.Move.Calm` — no metric exporter raises in a move
- `Resolver.Effect` — what a calm move may do to a resolver
- `Resolver.step_effect` — every calm move has one of these effects
-/

namespace Conform.Resolver

theorem lookup_cons (u w : Version) (t : Slot) (slots : List (Version × Slot)) :
    ((u, t) :: slots).lookup w = if w = u then some t else slots.lookup w := by
  by_cases hw : w = u
  · rw [List.lookup_cons, if_pos hw, beq_iff_eq.mpr hw]
  · rw [List.lookup_cons, if_neg hw, beq_false_of_ne hw]

theorem lookup_setSlot (v w : Version) (s : Slot) (slots : List (Version × Slot)) :
    (setSlot v s slots).lookup w = if w = v then some s else slots.lookup w := by
  induction slots with
  | nil => rw [setSlot, lookup_cons]
  | cons entry slots ih =>
    obtain ⟨u, t⟩ := entry
    by_cases hu : u = v
    · subst hu
      rw [setSlot, if_pos rfl, lookup_cons, lookup_cons]
      split <;> rfl
    · -- The slot is set behind this entry, which is not for `v`.
      rw [setSlot, if_neg hu, lookup_cons, lookup_cons, ih]
      by_cases hw : w = u
      · have hwv : ¬w = v := hw ▸ hu
        rw [if_pos hw, if_neg hwv, if_pos hw]
      · rw [if_neg hw, if_neg hw]

theorem lookup_clearSlot (v w : Version) (slots : List (Version × Slot)) :
    (clearSlot v slots).lookup w = if w = v then none else slots.lookup w := by
  induction slots with
  | nil => rw [clearSlot, List.filter_nil, List.lookup_nil, ite_self]
  | cons entry slots ih =>
    obtain ⟨u, t⟩ := entry
    rw [clearSlot] at ih ⊢
    by_cases hu : u = v
    · subst hu
      rw [List.filter_cons_of_neg (by simp), ih, lookup_cons]
      by_cases hw : w = u
      · rw [if_pos hw, if_pos hw]
      · rw [if_neg hw, if_neg hw, if_neg hw]
    · rw [List.filter_cons_of_pos (by simpa using hu), lookup_cons, lookup_cons, ih]
      by_cases hw : w = u
      · have hwv : ¬w = v := hw ▸ hu
        rw [if_pos hw, if_neg hwv, if_pos hw]
      · rw [if_neg hw, if_neg hw]

/-- A call is somewhere on behalf of a version. -/
def At (r : Resolver) (i : Nat) (v : Version) (point : CallPoint) : Prop :=
  ∃ name, r.calls[i]? = some ⟨name, point⟩ ∧ Version.ofName? name = some v

/-- No exporter raises when a fetch is counted. -/
def Move.Calm : Move → Prop
  | .begin _ countFault => countFault = none
  | _ => True

/-- A flight begins, and the declarations are being fetched. -/
def lead (r : Resolver) (v : Version) (name : Text) : Resolver :=
  { r.addFlight v with fetched := (r.addFlight v).fetched ++ [v] }.addCall name
    (.fetching r.flights.length)

/-- A version is bound at once, as nothing is fetched. -/
def bindAtOnce (r : Resolver) (v : Version) (name : Text) : Resolver :=
  ((r.addFlight v).bind v r.flights.length []).addCall name (.finished (.bound (r.newBinding v [])))

/-- A version is bound by the call that has fetched its declarations. -/
def landed (r : Resolver) (v : Version) (flight call : Nat) (declarations : Text) : Resolver :=
  (r.bind v flight declarations).moveCall call (.finished (.bound (r.newBinding v declarations)))

/-- A flight is cancelled together with the call that fetches. -/
def abandoned (r : Resolver) (v : Version) (flight call : Nat) : Resolver :=
  { r with
    slots := clearSlot v r.slots
    flights := r.flights.set flight .cancelled }.moveCall call (.finished .cancelled)

/-- What a calm move may do to a resolver. -/
inductive Effect (r : Resolver) : Move → Resolver → Prop
  | idle (m : Move) : Effect r m r
  | unknown (name : Text) (unsupported : Version.ofName? name = none) :
      Effect r (.begin name none) (r.addCall name (.finished .unknown))
  | hit {v : Version} (name : Text) (supported : Version.ofName? name = some v) {b : Binding}
      (kept : r.slot? v = some (.bound b)) :
      Effect r (.begin name none) (r.addCall name (.finished (.bound b)))
  | follow {v : Version} (name : Text) (supported : Version.ofName? name = some v) {flight : Nat}
      (kept : r.slot? v = some (.pending flight)) :
      Effect r (.begin name none) (r.addCall name (.waiting flight))
  | lead {v : Version} (name : Text) (supported : Version.ofName? name = some v)
      (kept : r.slot? v = none) (fetches : r.fetches = true) :
      Effect r (.begin name none) (r.lead v name)
  | atOnce {v : Version} (name : Text) (supported : Version.ofName? name = some v)
      (kept : r.slot? v = none) (fetches : r.fetches = false) :
      Effect r (.begin name none) (r.bindAtOnce v name)
  | landed {v : Version} {call flight : Nat} (fetching : r.At call v (.fetching flight))
      (declarations : Option Text) :
      Effect r (.land call declarations) (r.landed v flight call (declarations.getD []))
  | woken {call flight : Nat} {b : Binding} {name : Text}
      (waiting : r.calls[call]? = some ⟨name, .waiting flight⟩)
      (settled : r.flights[flight]? = some (.landed b)) :
      Effect r (.wake call) (r.moveCall call (.finished (.bound b)))
  | dropped {call flight : Nat} {name : Text}
      (waiting : r.calls[call]? = some ⟨name, .waiting flight⟩)
      (settled : r.flights[flight]? = some .cancelled) :
      Effect r (.wake call) (r.moveCall call (.finished .cancelled))
  | left {call flight : Nat} {name : Text}
      (waiting : r.calls[call]? = some ⟨name, .waiting flight⟩) :
      Effect r (.cancel call) (r.moveCall call (.finished .cancelled))
  | abandoned {v : Version} {call flight : Nat} (fetching : r.At call v (.fetching flight)) :
      Effect r (.cancel call) (r.abandoned v flight call)

theorem begin_effect (r : Resolver) (name : Text) :
    Effect r (.begin name none) (r.begin name none) := by
  unfold begin
  cases hname : Version.ofName? name with
  | none => exact .unknown name hname
  | some v =>
    simp only
    cases hslot : r.slot? v with
    | some s =>
      cases s with
      | bound b => exact .hit name hname hslot
      | pending flight => exact .follow name hname hslot
    | none =>
      cases hfetches : r.fetches with
      | true => exact .lead name hname hslot hfetches
      | false => exact .atOnce name hname hslot hfetches

theorem land_effect (r : Resolver) (call : Nat) (declarations : Option Text) :
    Effect r (.land call declarations) (r.land call declarations) := by
  unfold land
  split
  · rename_i name flight hcall
    cases hname : Version.ofName? name with
    | none => exact .idle _
    | some v => exact .landed ⟨name, hcall, hname⟩ declarations
  · exact .idle _

theorem wake_effect (r : Resolver) (call : Nat) : Effect r (.wake call) (r.wake call) := by
  unfold wake
  split
  · rename_i name flight hcall
    split
    · rename_i b hflight
      exact .woken hcall hflight
    · rename_i hflight
      exact .dropped hcall hflight
    · exact .idle _
  · exact .idle _

theorem cancel_effect (r : Resolver) (call : Nat) : Effect r (.cancel call) (r.cancel call) := by
  unfold cancel
  split
  · rename_i name flight hcall
    cases hname : Version.ofName? name with
    | none => exact .idle _
    | some v => exact .abandoned ⟨name, hcall, hname⟩
  · rename_i name flight hcall
    exact .left hcall
  · exact .idle _

/-- Every calm move has one of the effects. -/
theorem step_effect (r : Resolver) {m : Move} (hm : m.Calm) : Effect r m (r.step m) := by
  cases m with
  | begin name countFault =>
    obtain rfl : countFault = none := hm
    exact r.begin_effect name
  | land call declarations => exact r.land_effect call declarations
  | wake call => exact r.wake_effect call
  | cancel call => exact r.cancel_effect call

section Reading

variable {r : Resolver} {j : Nat}

theorem getElem?_addCall (r : Resolver) (name : Text) (point : CallPoint) (i : Nat) :
    (r.addCall name point).calls[i]? =
      if i = r.calls.length then some ⟨name, point⟩ else r.calls[i]? := by
  rw [addCall]
  by_cases hi : i = r.calls.length
  · rw [if_pos hi, hi, List.getElem?_concat_length]
  · rw [if_neg hi, List.getElem?_append]
    by_cases hlt : i < r.calls.length
    · rw [if_pos hlt]
    · rw [if_neg hlt, List.getElem?_eq_none (by simp; omega), List.getElem?_eq_none (by omega)]

theorem moveCall_calls {c : Call} (hcall : r.calls[j]? = some c) (point : CallPoint) (i : Nat) :
    (r.moveCall j point).calls[i]? =
      if i = j then some { c with point } else r.calls[i]? := by
  have hlt : j < r.calls.length := (List.getElem?_eq_some_iff.mp hcall).1
  simp only [moveCall, hcall]
  by_cases hi : i = j
  · rw [if_pos hi, hi, List.getElem?_set_self hlt]
  · rw [if_neg hi, List.getElem?_set_ne (Ne.symm hi)]

/-- Calls may be moved without changing anything else. -/
theorem moveCall_eq (r : Resolver) (i : Nat) (point : CallPoint) :
    ∃ calls, r.moveCall i point = { r with calls } := by
  unfold moveCall
  split
  · exact ⟨_, rfl⟩
  · exact ⟨r.calls, rfl⟩

theorem slot?_lead (r : Resolver) (v w : Version) (name : Text) :
    (r.lead v name).slot? w = if w = v then some (.pending r.flights.length) else r.slot? w :=
  lookup_setSlot v w _ r.slots

theorem slot?_bindAtOnce (r : Resolver) (v w : Version) (name : Text) :
    (r.bindAtOnce v name).slot? w =
      if w = v then some (.bound (r.newBinding v [])) else r.slot? w := by
  -- The slot is set twice, first for the flight and then for the binding.
  refine (lookup_setSlot v w _ _).trans ?_
  by_cases hw : w = v
  · rw [if_pos hw, if_pos hw]
    rfl
  · rw [if_neg hw, if_neg hw]
    exact (lookup_setSlot v w _ r.slots).trans (if_neg hw)

theorem slot?_landed (r : Resolver) (v w : Version) (flight call : Nat) (declarations : Text) :
    (r.landed v flight call declarations).slot? w =
      if w = v then some (.bound (r.newBinding v declarations)) else r.slot? w := by
  obtain ⟨calls, hcalls⟩ := moveCall_eq (r.bind v flight declarations) call
    (.finished (.bound (r.newBinding v declarations)))
  rw [landed, hcalls]
  exact lookup_setSlot v w _ r.slots

theorem slot?_abandoned (r : Resolver) (v w : Version) (flight call : Nat) :
    (r.abandoned v flight call).slot? w = if w = v then none else r.slot? w := by
  obtain ⟨calls, hcalls⟩ := moveCall_eq { r with
    slots := clearSlot v r.slots
    flights := r.flights.set flight .cancelled } call (.finished .cancelled)
  rw [abandoned, hcalls]
  exact lookup_clearSlot v w r.slots

theorem announced_moveCall (r : Resolver) (i : Nat) (point : CallPoint) :
    (r.moveCall i point).announced = r.announced := by
  obtain ⟨calls, hcalls⟩ := moveCall_eq r i point
  rw [hcalls]

theorem flights_moveCall (r : Resolver) (i : Nat) (point : CallPoint) :
    (r.moveCall i point).flights = r.flights := by
  obtain ⟨calls, hcalls⟩ := moveCall_eq r i point
  rw [hcalls]

theorem fetched_moveCall (r : Resolver) (i : Nat) (point : CallPoint) :
    (r.moveCall i point).fetched = r.fetched := by
  obtain ⟨calls, hcalls⟩ := moveCall_eq r i point
  rw [hcalls]

theorem slot?_moveCall (r : Resolver) (i : Nat) (point : CallPoint) (w : Version) :
    (r.moveCall i point).slot? w = r.slot? w := by
  obtain ⟨calls, hcalls⟩ := moveCall_eq r i point
  rw [hcalls]
  rfl

end Reading

section Calls

variable {r : Resolver} {name : Text} {point p : CallPoint} {v w : Version} {i j : Nat}

/-- The calls after one has been added. -/
theorem at_addCall :
    (r.addCall name point).At i v p ↔
      (i = r.calls.length ∧ p = point ∧ Version.ofName? name = some v) ∨ r.At i v p := by
  unfold At
  rw [getElem?_addCall]
  by_cases hi : i = r.calls.length
  · rw [if_pos hi, hi, List.getElem?_eq_none (Nat.le_refl _)]
    constructor
    · rintro ⟨name', hname, hv⟩
      obtain ⟨rfl, rfl⟩ := Call.mk.inj (Option.some.inj hname)
      exact .inl ⟨rfl, rfl, hv⟩
    · rintro (⟨-, rfl, hv⟩ | ⟨name', hname, -⟩)
      · exact ⟨name, rfl, hv⟩
      · exact nomatch hname
  · rw [if_neg hi]
    exact (or_iff_right fun h => hi h.1).symm

/-- The calls after one has been moved. -/
theorem at_moveCall (hcall : r.At j w p) {q : CallPoint} :
    (r.moveCall j point).At i v q ↔
      (i = j ∧ q = point ∧ v = w) ∨ (i ≠ j ∧ r.At i v q) := by
  obtain ⟨name, hname, hw⟩ := hcall
  unfold At
  rw [moveCall_calls hname]
  by_cases hi : i = j
  · rw [if_pos hi]
    constructor
    · rintro ⟨name', heq, hv⟩
      obtain ⟨rfl, rfl⟩ := Call.mk.inj (Option.some.inj heq)
      exact .inl ⟨hi, rfl, Option.some.inj (hv.symm.trans hw)⟩
    · rintro (⟨-, rfl, rfl⟩ | ⟨hne, -⟩)
      · exact ⟨name, rfl, hw⟩
      · exact absurd hi hne
  · rw [if_neg hi]
    constructor
    · exact fun h => .inr ⟨hi, h⟩
    · rintro (⟨heq, -⟩ | ⟨-, h⟩)
      · exact absurd heq hi
      · exact h

/-- A call is at one point and on behalf of one version. -/
theorem At.unique {q : CallPoint} (hp : r.At i v p) (hq : r.At i w q) : v = w ∧ p = q := by
  obtain ⟨name, hname, hv⟩ := hp
  obtain ⟨name', hname', hw⟩ := hq
  obtain ⟨rfl, rfl⟩ := Call.mk.inj (Option.some.inj (hname.symm.trans hname'))
  exact ⟨Option.some.inj (hv.symm.trans hw), rfl⟩

end Calls

end Conform.Resolver
