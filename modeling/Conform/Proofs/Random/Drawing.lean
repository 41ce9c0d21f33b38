import Conform.Random.Draws
import Mathlib.Data.List.Perm.Basic

/-!
# What holds for all draws

A property of drawn values that holds whatever the source of randomness gives, and rules that carry
it through the derived draws. A computation with such a property does not fail.

## Main definitions

- `Drawing.Always` — a computation gives a value with a property for all draws
- `Drawing.Always.bind`, `Drawing.Always.mono` — composition and consequence
- `Drawing.always_shuffle` — a shuffle gives the items in another order
- `Drawing.AlwaysOr` — a computation gives such a value or stops with one of some faults
-/

namespace Conform.Drawing

variable {S E α β : Type} {m : Drawing S E α} {P Q : α → Prop}

/-- A computation does not fail and gives a value with a property, whatever is drawn. -/
def Always (m : Drawing S E α) (P : α → Prop) : Prop :=
  ∀ draws s, ∃ a s', m draws s = .ok (a, s') ∧ P a

/-- **Consequence**: a property implies any weaker one. -/
theorem Always.mono (h : Always m P) (hPQ : ∀ a, P a → Q a) : Always m Q := by
  intro draws s
  obtain ⟨a, s', hrun, ha⟩ := h draws s
  exact ⟨a, s', hrun, hPQ a ha⟩

theorem always_pure {a : α} (h : P a) : Always (pure a : Drawing S E α) P := by
  intro draws s
  exact ⟨a, s, rfl, h⟩

/-- **Composition**: what goes on after every possible value. -/
theorem Always.bind {f : α → Drawing S E β} {R : β → Prop} (hm : Always m P)
    (hf : ∀ a, P a → Always (f a) R) : Always (m >>= f) R := by
  intro draws s
  obtain ⟨a, s', hrun, ha⟩ := hm draws s
  obtain ⟨b, s'', hnext, hb⟩ := hf a ha draws s'
  refine ⟨b, s'', ?_, hb⟩
  show (m draws s >>= fun p => f p.1 draws p.2) = _
  rw [hrun]
  exact hnext

theorem Always.map {f : α → β} {R : β → Prop} (hm : Always m P) (hf : ∀ a, P a → R (f a)) :
    Always (do return f (← m)) R :=
  hm.bind fun a ha => always_pure (hf a ha)

/-- Any number in the range may be drawn. -/
theorem always_upTo (n : Nat) : Always (upTo n : Drawing S E (Fin (n + 1))) fun _ => True := by
  intro draws s
  exact ⟨(draws.upTo n s).1, (draws.upTo n s).2, rfl, trivial⟩

theorem always_bits (count : Nat) :
    Always (bits count : Drawing S E Nat) fun n => n < Nat.pow 2 count := by
  intro draws s
  exact ⟨(draws.bits count s).1.val, (draws.bits count s).2, rfl, (draws.bits count s).1.isLt⟩

theorem always_between {low high : Int} (h : low ≤ high) :
    Always (between low high : Drawing S E Int) fun n => low ≤ n ∧ n ≤ high := by
  refine (always_upTo _).map fun k _ => ?_
  have hk : k.val ≤ (high - low).toNat := Nat.le_of_lt_succ k.isLt
  rw [Int.ofNat_eq_natCast]
  omega

theorem always_natBetween {low high : Nat} (h : low ≤ high) :
    Always (natBetween low high : Drawing S E Nat) fun n => low ≤ n ∧ n ≤ high := by
  refine (always_upTo _).map fun k _ => ?_
  have hk : k.val ≤ high - low := Nat.le_of_lt_succ k.isLt
  omega

theorem always_pick (first : α) (rest : List α) :
    Always (pick first rest : Drawing S E α) fun a => a ∈ first :: rest := by
  refine (always_upTo _).map fun k _ => ?_
  have hk : k.val < (first :: rest).length := k.isLt
  rw [List.getElem?_eq_getElem hk, Option.getD_some]
  exact List.getElem_mem hk

/-- A repeated computation gives as many values as asked for, all with the property. -/
theorem Always.times (h : Always m P) (n : Nat) :
    Always (times m n) fun items => items.length = n ∧ ∀ a ∈ items, P a := by
  induction n with
  | zero => exact always_pure ⟨rfl, fun a ha => absurd ha List.not_mem_nil⟩
  | succ n ih =>
    refine h.bind fun first hfirst => ih.map fun rest hrest => ?_
    exact ⟨congrArg (· + 1) hrest.1, List.forall_mem_cons.mpr ⟨hfirst, hrest.2⟩⟩

/-- Two items that change places. -/
theorem swap_perm (items : List α) (i j : Nat) : (swap items i j).Perm items := by
  unfold swap
  split
  · rename_i a b ha hb
    obtain ⟨hi, rfl⟩ := List.getElem?_eq_some_iff.mp ha
    obtain ⟨hj, rfl⟩ := List.getElem?_eq_some_iff.mp hb
    exact List.set_set_perm hi hj
  · exact List.Perm.refl items

theorem always_shuffleTo (last : Nat) (items : List α) :
    Always (shuffleTo last items : Drawing S E (List α)) fun found => found.Perm items := by
  induction last generalizing items with
  -- Each step swaps the last place that is not settled yet with a drawn one.
  | zero => exact always_pure (List.Perm.refl items)
  | succ last ih =>
    refine (always_upTo _).bind fun k _ => (ih _).mono fun found hfound => ?_
    exact hfound.trans (swap_perm items (last + 1) k.val)

/-- A shuffle gives the items in another order. -/
theorem always_shuffle (items : List α) :
    Always (shuffle items : Drawing S E (List α)) fun found => found.Perm items :=
  always_shuffleTo _ items

/-- A computation gives a value with a property, or it stops with one of some faults, whatever is
drawn. -/
def AlwaysOr (fault : E → Prop) (m : Drawing S E α) (P : α → Prop) : Prop :=
  ∀ draws s, (∃ a s', m draws s = .ok (a, s') ∧ P a) ∨ ∃ e, m draws s = .error e ∧ fault e

variable {fault : E → Prop}

theorem Always.or (h : Always m P) : AlwaysOr fault m P := fun draws s => .inl (h draws s)

theorem AlwaysOr.mono {fault' : E → Prop} (h : AlwaysOr fault m P)
    (hfault : ∀ e, fault e → fault' e) (hPQ : ∀ a, P a → Q a) : AlwaysOr fault' m Q := by
  intro draws s
  rcases h draws s with ⟨a, s', hrun, ha⟩ | ⟨e, hrun, he⟩
  · exact .inl ⟨a, s', hrun, hPQ a ha⟩
  · exact .inr ⟨e, hrun, hfault e he⟩

theorem alwaysOr_pure {a : α} (h : P a) : AlwaysOr fault (pure a : Drawing S E α) P :=
  (always_pure h).or

/-- Composition, where a fault of either part stops the whole. -/
theorem AlwaysOr.bind {f : α → Drawing S E β} {R : β → Prop} (hm : AlwaysOr fault m P)
    (hf : ∀ a, P a → AlwaysOr fault (f a) R) : AlwaysOr fault (m >>= f) R := by
  intro draws s
  show (∃ b s'', (m draws s >>= fun p => f p.1 draws p.2) = .ok (b, s'') ∧ R b) ∨
    ∃ e, (m draws s >>= fun p => f p.1 draws p.2) = .error e ∧ fault e
  rcases hm draws s with ⟨a, s', hrun, ha⟩ | ⟨e, hrun, he⟩
  · rw [hrun]
    exact hf a ha draws s'
  · rw [hrun]
    exact .inr ⟨e, rfl, he⟩

theorem AlwaysOr.times (h : AlwaysOr fault m P) (n : Nat) :
    AlwaysOr fault (Drawing.times m n) fun items => items.length = n ∧ ∀ a ∈ items, P a := by
  induction n with
  | zero => exact alwaysOr_pure ⟨rfl, fun a ha => absurd ha List.not_mem_nil⟩
  | succ n ih =>
    refine h.bind fun first hfirst => ih.bind fun rest hrest => alwaysOr_pure ?_
    exact ⟨congrArg (· + 1) hrest.1, List.forall_mem_cons.mpr ⟨hfirst, hrest.2⟩⟩

end Conform.Drawing
