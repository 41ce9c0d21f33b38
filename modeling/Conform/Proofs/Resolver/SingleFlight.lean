import Conform.Proofs.Resolver.Invariant

/-!
# One flight at a time

However the calls of a resolver are interleaved, a version is fetched by one call at a time, and it
is bound once and for all.

## Main definitions

- `Resolver.leaderCancellations` — how many calls were cancelled in their fetch
- `Resolver.BoundTo` — what it means that a version is bound
- `Resolver.SingleFlight` — what resolvers promise about a version
- `Resolver.IgnoresUnsupported` — what they promise about other names
- `Resolver.run_singleFlight` — they keep these promises
-/

namespace Conform.Resolver

/-- Whether a move cancels a call that fetches for a version. -/
def cancelsLeader (r : Resolver) (v : Version) : Move → Bool
  | .cancel call =>
    match r.calls[call]? with
    | some ⟨name, .fetching _⟩ => Version.ofName? name = some v
    | _ => false
  | _ => false

/-- How many of the moves cancel a call that fetches for a version. -/
def leaderCancellations (v : Version) : Resolver → List Move → Nat
  | _, [] => 0
  | r, m :: moves => (r.cancelsLeader v m).toNat + leaderCancellations v (r.step m) moves

/-- One if anything is kept for a version. -/
def keptCount (r : Resolver) (v : Version) : Nat := (r.slot? v).isSome.toNat

/-- A version is bound: this is what calls get. -/
structure BoundTo (r : Resolver) (v : Version) (b : Binding) : Prop where
  kept : r.slot? v = some (.bound b)
  version : b.version = v
  /-- No call fetches any more. -/
  idle : ∀ i f, ¬r.At i v (.fetching f)
  /-- Calls that got a binding got this one. -/
  given : ∀ i b', r.At i v (.finished (.bound b')) → b' = b
  /-- Later calls get it at once. -/
  later : ∀ name, Version.ofName? name = some v →
    (r.step (.begin name none)).outcome? r.calls.length = some (.bound b)
  /-- Waiting calls get it, unless their flight was cancelled. -/
  waiting : ∀ i f, r.At i v (.waiting f) → r.flights[f]? ≠ some .cancelled →
    (r.step (.wake i)).outcome? i = some (.bound b)

/-- What resolvers promise about a version. -/
structure SingleFlight (r : Resolver) (v : Version) (cancellations : Nat) : Prop where
  /-- At most one call fetches. -/
  alone : ∀ i j f g, r.At i v (.fetching f) → r.At j v (.fetching g) → i = j ∧ f = g
  /-- A flight is kept exactly as long as a call fetches for it. -/
  led : ∀ f, r.slot? v = some (.pending f) ↔ ∃ i, r.At i v (.fetching f)
  /-- The flight that a call is going to end has not ended yet. -/
  pending : ∀ i f, r.At i v (.fetching f) → r.flights[f]? = some .pending
  /-- A flight ends once. -/
  settled : ∀ moves, (∀ m ∈ moves, Move.Calm m) → ∀ (f : Nat) (fl : Flight),
    r.flights[f]? = some fl → fl ≠ .pending → (r.run moves).flights[f]? = some fl
  /-- Calls end with a binding or cancelled. -/
  ended : ∀ i outcome, r.At i v (.finished outcome) →
    outcome = .cancelled ∨ ∃ b, outcome = .bound b ∧ r.slot? v = some (.bound b)
  /-- Once the version is bound it stays so, and nothing is fetched for it. -/
  bound : ∀ b, r.slot? v = some (.bound b) → ∀ moves, (∀ m ∈ moves, Move.Calm m) →
    (r.run moves).BoundTo v b ∧ (r.run moves).fetched.count v = r.fetched.count v
  /-- It takes a cancelled fetch to begin another one. -/
  fetches : r.fetched.count v ≤ 1 + cancellations
  /-- The binding that is kept has been announced once, and no other one. -/
  announced : r.announced.filter (fun b => b.version = v) = announcedFor (r.slot? v)

/-- What resolvers promise about names that are not supported: a call for one ends at once, and
nothing else changes. -/
structure IgnoresUnsupported (r : Resolver) : Prop where
  begun : ∀ name countFault, Version.ofName? name = none →
    r.step (.begin name countFault) = r.addCall name (.finished .unknown)
  ended : ∀ i c, r.calls[i]? = some c → Version.ofName? c.name = none →
    r.step (.wake i) = r ∧ r.step (.cancel i) = r ∧
      ∀ declarations, r.step (.land i declarations) = r

variable {r : Resolver} {v : Version} {b : Binding} {m : Move} {moves : List Move}

/-- A flight that has ended is not touched any more. -/
theorem settled_step (h : Inv r) (hm : m.Calm) {f : Nat} {fl : Flight}
    (settled : r.flights[f]? = some fl) (hfl : fl ≠ .pending) :
    (r.step m).flights[f]? = some fl := by
  have hlt : f < r.flights.length := (List.getElem?_eq_some_iff.mp settled).1
  -- The flight of a call that fetches has not ended.
  have hne {v : Version} {i g : Nat} (hi : r.At i v (.fetching g)) : g ≠ f := by
    rintro rfl
    exact hfl (Option.some.inj (settled.symm.trans (h.led v g (h.kept hi)).1))
  have heffect : Effect r m (r.step m) := step_effect r hm
  generalize r.step m = next at heffect
  cases heffect with
  | idle | unknown | hit | follow => exact settled
  | lead => exact (List.getElem?_append_left hlt).trans settled
  | atOnce =>
    have hset : f ≠ r.flights.length := Nat.ne_of_lt hlt
    have hkept : (r.flights ++ [.pending])[f]? = some fl :=
      (List.getElem?_append_left hlt).trans settled
    exact (List.getElem?_set_ne (Ne.symm hset)).trans hkept
  | landed fetching =>
    rw [landed, flights_moveCall]
    exact (List.getElem?_set_ne (hne fetching)).trans settled
  | woken | dropped | left => rwa [flights_moveCall]
  | abandoned fetching =>
    rw [abandoned, flights_moveCall]
    exact (List.getElem?_set_ne (hne fetching)).trans settled

theorem settled_run (h : Inv r) (calm : ∀ m ∈ moves, m.Calm) {f : Nat} {fl : Flight}
    (settled : r.flights[f]? = some fl) (hfl : fl ≠ .pending) :
    (r.run moves).flights[f]? = some fl := by
  apply run_keeps (P := fun r => r.flights[f]? = some fl) _ h calm settled
  intro r m h hm settled
  exact settled_step h hm settled hfl

/-- What is bound stays bound, and nothing is fetched for it. -/
theorem bound_step (h : Inv r) (hm : m.Calm) (kept : r.slot? v = some (.bound b)) :
    (r.step m).slot? v = some (.bound b) ∧ (r.step m).fetched.count v = r.fetched.count v := by
  have hfree {w : Version} (hw : r.slot? w = none) : v ≠ w := by
    rintro rfl
    exact nomatch kept.symm.trans hw
  have hfetching {w : Version} {i f : Nat} (hi : r.At i w (.fetching f)) : v ≠ w := by
    rintro rfl
    exact nomatch kept.symm.trans (h.kept hi)
  have heffect : Effect r m (r.step m) := step_effect r hm
  generalize r.step m = next at heffect
  cases heffect with
  | idle | unknown | hit | follow => exact ⟨kept, rfl⟩
  | lead _ _ hw =>
    constructor
    · rw [slot?_lead, if_neg (hfree hw), kept]
    · refine List.count_append.trans ?_
      rw [List.count_singleton, beq_false_of_ne (Ne.symm (hfree hw))]
      rfl
  | atOnce _ _ hw =>
    constructor
    · rw [slot?_bindAtOnce, if_neg (hfree hw), kept]
    · rfl
  | landed fetching =>
    constructor
    · rw [slot?_landed, if_neg (hfetching fetching), kept]
    · rw [landed, fetched_moveCall]
      rfl
  | woken | dropped | left =>
    constructor
    · rw [slot?_moveCall, kept]
    · rw [fetched_moveCall]
  | abandoned fetching =>
    constructor
    · rw [slot?_abandoned, if_neg (hfetching fetching), kept]
    · rw [abandoned, fetched_moveCall]

theorem bound_run (h : Inv r) (calm : ∀ m ∈ moves, m.Calm) (kept : r.slot? v = some (.bound b)) :
    (r.run moves).slot? v = some (.bound b) ∧
      (r.run moves).fetched.count v = r.fetched.count v := by
  generalize hcount : r.fetched.count v = count
  apply run_keeps (P := fun r => r.slot? v = some (.bound b) ∧ r.fetched.count v = count) _ h calm
    ⟨kept, hcount⟩
  rintro r m h hm ⟨kept, hcount⟩
  obtain ⟨hslot, hfetched⟩ := bound_step h hm kept
  exact ⟨hslot, hfetched.trans hcount⟩

/-- What calls for a bound version get. -/
theorem Inv.boundTo (h : Inv r) (kept : r.slot? v = some (.bound b)) : r.BoundTo v b where
  kept := kept
  version := by
    have hannounced : r.announced.filter (fun b => b.version = v) = [b] := by
      rw [h.announced v, kept]
      rfl
    have hmem : b ∈ r.announced.filter fun b => b.version = v :=
      hannounced ▸ List.mem_singleton_self b
    simpa using (List.mem_filter.mp hmem).2
  idle := by
    intro i f hi
    exact nomatch kept.symm.trans (h.kept hi)
  given := by
    intro i b' hi
    cases h.placed i v _ hi with
    | bound kept' => exact Slot.bound.inj (Option.some.inj (kept'.symm.trans kept))
  later := by
    intro name hname
    have hbegin : r.step (.begin name none) = r.addCall name (.finished (.bound b)) := by
      simp only [step, begin, hname, kept]
    rw [hbegin, outcome?, getElem?_addCall, if_pos rfl]
  waiting := by
    intro i f hi hflight
    have hplaced := h.placed i v _ hi
    obtain ⟨name, hcall, -⟩ := hi
    cases hplaced with
    | behind kept' => exact nomatch kept.symm.trans kept'
    | cancelled settled => exact absurd settled hflight
    | @landed _ b' settled kept' =>
      obtain rfl := Slot.bound.inj (Option.some.inj (kept'.symm.trans kept))
      have hwake : r.step (.wake i) = r.moveCall i (.finished (.bound b')) := by
        simp only [step, wake, hcall, settled]
      rw [hwake, outcome?, moveCall_calls hcall, if_pos rfl]

/-- A fetch begins where nothing is kept, and only a cancelled fetch leaves nothing behind. -/
theorem fetched_step (hm : m.Calm) (v : Version) :
    (r.step m).fetched.count v + r.keptCount v ≤
      r.fetched.count v + (r.cancelsLeader v m).toNat + (r.step m).keptCount v := by
  have heffect : Effect r m (r.step m) := step_effect r hm
  generalize r.step m = next at heffect
  cases heffect with
  | idle | unknown | hit | follow =>
    exact Nat.add_le_add_right (Nat.le_add_right _ _) _
  | @lead w name _ hw =>
    have hfetched : (r.lead w name).fetched = r.fetched ++ [w] := rfl
    rw [hfetched, List.count_append, keptCount, keptCount, slot?_lead]
    by_cases hv : v = w
    · -- One more fetch, but also one more version for which something is kept.
      subst hv
      rw [if_pos rfl, hw, List.count_singleton_self]
      simp only [Option.isSome_none, Option.isSome_some, Bool.toNat_false, Bool.toNat_true]
      omega
    · rw [if_neg hv, List.count_singleton, beq_false_of_ne (Ne.symm hv)]
      simp only [Bool.false_eq_true, if_false]
      omega
  | @atOnce w name _ hw =>
    have hfetched : (r.bindAtOnce w name).fetched = r.fetched := rfl
    have hle : r.keptCount v ≤ (r.bindAtOnce w name).keptCount v := by
      rw [keptCount, keptCount, slot?_bindAtOnce]
      split
      · exact Bool.toNat_le _
      · exact Nat.le_refl _
    rw [hfetched]
    omega
  | @landed w call flight fetching declarations =>
    have hfetched : (r.landed w flight call (declarations.getD [])).fetched = r.fetched :=
      fetched_moveCall ..
    have hle : r.keptCount v ≤ (r.landed w flight call (declarations.getD [])).keptCount v := by
      rw [keptCount, keptCount, slot?_landed]
      split
      · exact Bool.toNat_le _
      · exact Nat.le_refl _
    rw [hfetched]
    omega
  | woken | dropped | left =>
    rw [fetched_moveCall, keptCount, keptCount, slot?_moveCall]
    omega
  | @abandoned w call flight fetching =>
    have hfetched : (r.abandoned w flight call).fetched = r.fetched := fetched_moveCall ..
    rw [hfetched, keptCount, keptCount, slot?_abandoned]
    by_cases hv : v = w
    · -- Nothing is kept any more, which the cancellation makes up for.
      subst hv
      have hcancels : r.cancelsLeader v (.cancel call) = true := by
        obtain ⟨name, hcall, hname⟩ := fetching
        simp only [cancelsLeader, hcall, hname, decide_true]
      have hle : (r.slot? v).isSome.toNat ≤ 1 := Bool.toNat_le _
      rw [hcancels, Bool.toNat_true]
      omega
    · rw [if_neg hv]
      omega

theorem fetched_run (calm : ∀ m ∈ moves, m.Calm) (v : Version) :
    (r.run moves).fetched.count v + r.keptCount v ≤
      r.fetched.count v + leaderCancellations v r moves + (r.run moves).keptCount v := by
  induction moves generalizing r with
  | nil => exact Nat.le_refl _
  | cons m moves ih =>
    have hm : m.Calm := calm m List.mem_cons_self
    have hstep := fetched_step (r := r) hm v
    have hrun := ih (r := r.step m) fun m' hm' => calm m' (List.mem_cons_of_mem _ hm')
    have hcons : r.run (m :: moves) = (r.step m).run moves := rfl
    rw [leaderCancellations, hcons]
    omega

theorem Inv.singleFlight (h : Inv r) {cancellations : Nat}
    (hfetched : r.fetched.count v ≤ 1 + cancellations) : r.SingleFlight v cancellations where
  alone := by
    intro i j f g hi hj
    have hfg : f = g := by
      have heq := (h.kept hi).symm.trans (h.kept hj)
      exact Slot.pending.inj (Option.some.inj heq)
    exact ⟨h.alone i j v f hi (hfg ▸ hj), hfg⟩
  led := by
    intro f
    constructor
    · intro hf
      exact (h.led v f hf).2
    · rintro ⟨i, hi⟩
      exact h.kept hi
  pending := by
    intro i f hi
    exact (h.led v f (h.kept hi)).1
  settled := fun moves calm f fl => settled_run h calm
  ended := by
    intro i outcome hi
    cases h.placed i v _ hi with
    | bound kept => exact .inr ⟨_, rfl, kept⟩
    | ended => exact .inl rfl
  bound := by
    intro b kept moves calm
    obtain ⟨hslot, hcount⟩ := bound_run h calm kept
    exact ⟨(inv_run h calm).boundTo hslot, hcount⟩
  fetches := hfetched
  announced := h.announced v

theorem Inv.ignoresUnsupported (h : Inv r) : r.IgnoresUnsupported where
  begun := by
    intro name countFault hname
    simp only [step, begin, hname]
  ended := by
    rintro i ⟨name, point⟩ hcall hname
    obtain rfl : point = .finished .unknown :=
      h.unsupported _ (List.mem_of_getElem? hcall) hname
    refine ⟨?_, ?_, fun declarations => ?_⟩
    · simp only [step, wake, hcall]
    · simp only [step, cancel, hcall]
    · simp only [step, land, hcall]

/-- **Single flight.** Whatever calls begin, land, wake and are cancelled, and in whatever order,
resolvers keep their promises, as long as no exporter raises. -/
theorem run_singleFlight (fetches : Bool) {moves : List Move} (calm : ∀ m ∈ moves, m.Calm) :
    (∀ v, (run { fetches } moves).SingleFlight v (leaderCancellations v { fetches } moves)) ∧
      (run { fetches } moves).IgnoresUnsupported := by
  have hinv : Inv (run { fetches } moves) := inv_run (inv_new fetches) calm
  refine ⟨fun v => hinv.singleFlight ?_, hinv.ignoresUnsupported⟩
  -- At first nothing has been fetched, and at any time at most one thing is kept for the version.
  have hcount := fetched_run (r := { fetches }) calm v
  have hnew : (fetched { fetches }).count v = 0 := rfl
  have hle : (run { fetches } moves).keptCount v ≤ 1 := Bool.toNat_le _
  omega

/-- The first of two calls is cancelled in its fetch, and two other calls follow. -/
def relay (name : Text) : List Move :=
  [.begin name none, .begin name none, .cancel 0, .begin name none, .wake 1, .begin name none,
    .land 2 none, .wake 3]

example : (run { fetches := true } (relay Version.v3_24_2.name)).calls.map (·.point) =
    [.finished .cancelled, .finished .cancelled, .finished (.bound ⟨0, .v3_24_2, []⟩),
      .finished (.bound ⟨0, .v3_24_2, []⟩)] := by
  decide

theorem run_singleFlight_relay :
    (∀ m ∈ relay Version.v3_24_2.name, m.Calm) ∧
      leaderCancellations .v3_24_2 { fetches := true } (relay Version.v3_24_2.name) = 1 ∧
      (run { fetches := true } (relay Version.v3_24_2.name)).SingleFlight .v3_24_2 1 ∧
      (run { fetches := true } (relay Version.v3_24_2.name)).IgnoresUnsupported := by
  have calm : ∀ m ∈ relay Version.v3_24_2.name, m.Calm := by
    simp [relay, Move.Calm]
  have hcancelled :
      leaderCancellations .v3_24_2 { fetches := true } (relay Version.v3_24_2.name) = 1 := by
    decide
  obtain ⟨hflight, hignores⟩ := run_singleFlight true calm
  exact ⟨calm, hcancelled, hcancelled ▸ hflight .v3_24_2, hignores⟩

end Conform.Resolver
