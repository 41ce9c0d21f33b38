import Conform.Proofs.Sample.Conformance

/-!
# Samples of texts with affixes

Of the rules of a string the plan keeps the bounds of the length and a start, an end and a part that
are asked for. The text is put together from these and filled up to a length within the bounds. If
each affix is asked for once and there is room for all of them below the upper bounds, the text
obeys all rules, in whatever order they are written.

## Main definitions

- `Affixes`, `Affixes.room` — the parts of a text that are asked for, and how long they are together
- `TextPlan.Follows` — a plan keeps what some rules ask for
- `always_addAll_follows` — the plan of some rules
- `always_sampleText_affixed` — texts for lengths and affixes
- `Schema.sampleWith_affixed` — samples of such strings conform
-/

namespace Conform

open Drawing

/-- The parts of a text that are asked for: its start, its end, and what it includes from a position
on. -/
structure Affixes where
  start : Option Text := none
  tail : Option Text := none
  needle : Option (Text × Nat) := none

/-- One rule for each part, behind some about the length. -/
def Affixes.rules (a : Affixes) (lengths : List LengthRule) : List StringRule :=
  lengths.map .ofLength ++ a.start.toList.map .startsWith ++ a.tail.toList.map .endsWith ++
    a.needle.toList.map fun p => .includes p.1 p.2

/-- The length of a text that has the parts one behind the other. What is included stands at its
position, or behind the start if that is longer. -/
def Affixes.room (a : Affixes) : Nat :=
  max (a.needle.getD ([], 0)).2 (a.start.getD []).length + (a.needle.getD ([], 0)).1.length +
    (a.tail.getD []).length

/-- The greatest length that a rule allows, if there is one. -/
def LengthRule.upper? : LengthRule → Option Nat
  | .min _ => none
  | .max n => some n
  | .length n => some n

/-- A length may be stretched as far as the upper bound of a rule allows. -/
theorem holds_max {rule : LengthRule} {size room : Nat} (h : rule.Holds size)
    (hroom : ∀ m ∈ rule.upper?, room ≤ m) : rule.Holds (max size room) := by
  cases rule with
  | min n => exact le_max_of_le_left h
  | max n => exact max_le h (hroom n rfl)
  | length n =>
    obtain rfl : size = n := h
    exact max_eq_left (hroom size rfl)

/-- Rules that change nothing are read of the same text. -/
theorem textConforms_iff_forall {checks : List (Check StringRule)} {t : Text}
    (h : ∀ check ∈ checks, check.rule.transform t = t) :
    TextConforms checks t ↔ ∀ check ∈ checks, check.rule.Holds t := by
  induction checks with
  | nil => exact iff_of_true trivial (List.forall_mem_nil _)
  | cons check checks ih =>
    rw [List.forall_mem_cons] at h ⊢
    rw [TextConforms, h.1, ih h.2]

namespace StringRule

/-- Rules about the length or a part of a text. -/
inductive Partial : StringRule → Prop
  | ofLength (rule : LengthRule) : Partial (.ofLength rule)
  | startsWith (t : Text) : Partial (.startsWith t)
  | endsWith (t : Text) : Partial (.endsWith t)
  | includes (t : Text) (n : Nat) : Partial (.includes t n)

theorem Partial.transform {rule : StringRule} (h : rule.Partial) (t : Text) :
    rule.transform t = t := by
  cases h with
  | ofLength rule => exact transform_ofLength rule t
  | startsWith | endsWith | includes => rfl

variable {r r' : LengthRule} {t : Text} {n : Nat}

@[simp] theorem ofLength_inj : ofLength r = ofLength r' ↔ r = r' := by
  cases r <;> cases r' <;> simp [ofLength]

@[simp] theorem ofLength_ne_startsWith : ofLength r ≠ .startsWith t := by
  cases r <;> nofun

@[simp] theorem ofLength_ne_endsWith : ofLength r ≠ .endsWith t := by
  cases r <;> nofun

@[simp] theorem ofLength_ne_includes : ofLength r ≠ .includes t n := by
  cases r <;> nofun

end StringRule

namespace Affixes

variable {a : Affixes} {lengths : List LengthRule} {rule : StringRule}

theorem partial_of_mem (h : rule ∈ a.rules lengths) : rule.Partial := by
  simp only [rules, List.mem_append, List.mem_map, Option.mem_toList] at h
  obtain ((⟨r, -, rfl⟩ | ⟨t, -, rfl⟩) | ⟨t, -, rfl⟩) | ⟨p, -, rfl⟩ := h
  · exact .ofLength r
  · exact .startsWith t
  · exact .endsWith t
  · exact .includes p.1 p.2

theorem partial_of_perm {checks : List (Check StringRule)}
    (h : (checks.map Check.rule).Perm (a.rules lengths)) : ∀ check ∈ checks, check.rule.Partial :=
  fun _ hcheck => partial_of_mem (h.mem_iff.mp (List.mem_map_of_mem hcheck))

theorem ofLength_mem {r : LengthRule} : .ofLength r ∈ a.rules lengths ↔ r ∈ lengths := by
  simp [rules, eq_comm (b := StringRule.ofLength r)]

theorem startsWith_mem {t : Text} : .startsWith t ∈ a.rules lengths ↔ a.start = some t := by
  simp [rules]

theorem endsWith_mem {t : Text} : .endsWith t ∈ a.rules lengths ↔ a.tail = some t := by
  simp [rules]

theorem includes_mem {t : Text} {n : Nat} :
    .includes t n ∈ a.rules lengths ↔ a.needle = some (t, n) := by
  simp [rules]

end Affixes

namespace TextPlan

variable {S : Type} {plan : TextPlan} {rules : List StringRule} {rule : StringRule}

/-- A plan keeps the bounds of all lengths among some rules, and one of each affix. -/
structure Follows (plan : TextPlan) (rules : List StringRule) : Prop where
  bounds : ∃ lengths : List LengthRule, plan.bounds = lengths.foldl LengthBounds.add {} ∧
    ∀ r, r ∈ lengths ↔ .ofLength r ∈ rules
  start : .startsWith plan.start ∈ rules ∨ plan.start = [] ∧ ∀ t, .startsWith t ∉ rules
  tail : .endsWith plan.tail ∈ rules ∨ plan.tail = [] ∧ ∀ t, .endsWith t ∉ rules
  needle : .includes plan.needle plan.position ∈ rules ∨
    plan.needle = [] ∧ plan.position = 0 ∧ ∀ t n, .includes t n ∉ rules
  whole : plan.whole = none

theorem follows_nil : Follows {} [] :=
  ⟨⟨[], rfl, by simp⟩, by simp, by simp, by simp, rfl⟩

/-- A rule about the length or a part is kept, without a draw. -/
theorem Follows.add (h : plan.Follows rules) (hrule : rule.Partial) :
    ∃ plan', (plan.add rule : Sampling S TextPlan) = pure plan' ∧
      plan'.Follows (rules ++ [rule]) := by
  obtain ⟨⟨lengths, hbounds, hlengths⟩, hstart, htail, hneedle, hwhole⟩ := h
  cases hrule with
  | ofLength r =>
    refine ⟨_, add_ofLength plan r, ⟨lengths ++ [r], ?_, ?_⟩, ?_, ?_, ?_, hwhole⟩
    · simp [hbounds]
    · simp [hlengths]
    · simpa [eq_comm (b := StringRule.ofLength r)] using hstart
    · simpa [eq_comm (b := StringRule.ofLength r)] using htail
    · simpa [eq_comm (b := StringRule.ofLength r)] using hneedle
  | startsWith t =>
    refine ⟨_, rfl, ⟨lengths, hbounds, ?_⟩, ?_, ?_, ?_, hwhole⟩
    · simp [hlengths]
    · simp
    · simpa using htail
    · simpa using hneedle
  | endsWith t =>
    refine ⟨_, rfl, ⟨lengths, hbounds, ?_⟩, ?_, ?_, ?_, hwhole⟩
    · simp [hlengths]
    · simpa using hstart
    · simp
    · simpa using hneedle
  | includes t n =>
    refine ⟨_, rfl, ⟨lengths, hbounds, ?_⟩, ?_, ?_, ?_, hwhole⟩
    · simp [hlengths]
    · simpa using hstart
    · simpa using htail
    · simp

/-- The plan of rules about the length and parts. -/
theorem always_addAll_follows {checks : List (Check StringRule)} (hplan : plan.Follows rules)
    (hchecks : ∀ check ∈ checks, check.rule.Partial) :
    Always (addAll checks plan : Sampling S TextPlan) fun found =>
      found.Follows (rules ++ checks.map Check.rule) := by
  -- The rules that the plan follows grow from the left, as the plan does.
  induction checks generalizing plan rules with
  | nil => exact always_pure (by simpa using hplan)
  | cons check checks ih =>
    rw [List.forall_mem_cons] at hchecks
    obtain ⟨plan', hadd, hplan'⟩ := hplan.add (S := S) hchecks.1
    rw [addAll, hadd, List.map_cons, List.append_cons]
    exact ih hplan' hchecks.2

variable {a : Affixes} {lengths : List LengthRule}

/-- The plan of lengths and affixes, each of which is asked for once, has just these affixes, and
lengths within its bounds obey the rules. -/
theorem Follows.of_affixes (h : plan.Follows rules)
    (hrules : ∀ rule, rule ∈ rules ↔ rule ∈ a.rules lengths)
    (hlengths : ∃ size, ∀ r ∈ lengths, r.Holds size) :
    plan.start = a.start.getD [] ∧ plan.tail = a.tail.getD [] ∧
      (plan.needle, plan.position) = a.needle.getD ([], 0) ∧
      ∀ n, ∀ r ∈ lengths, r.Holds (plan.bounds.clamp n) := by
  obtain ⟨⟨found, hbounds, hfound⟩, hstart, htail, hneedle, -⟩ := h
  simp only [hrules, Affixes.startsWith_mem, Affixes.endsWith_mem, Affixes.includes_mem,
    Affixes.ofLength_mem] at hfound hstart htail hneedle
  refine ⟨?_, ?_, ?_, fun n r hr => ?_⟩
  · rcases hstart with hsome | ⟨hnil, hnone⟩
    · rw [hsome, Option.getD_some]
    · rw [Option.eq_none_iff_forall_ne_some.mpr hnone, hnil, Option.getD_none]
  · rcases htail with hsome | ⟨hnil, hnone⟩
    · rw [hsome, Option.getD_some]
    · rw [Option.eq_none_iff_forall_ne_some.mpr hnone, hnil, Option.getD_none]
  · rcases hneedle with hsome | ⟨hnil, hzero, hnone⟩
    · rw [hsome, Option.getD_some]
    · have habsent : a.needle = none :=
        Option.eq_none_iff_forall_ne_some.mpr fun p => hnone p.1 p.2
      rw [habsent, hnil, hzero, Option.getD_none]
  · obtain ⟨size, hsize⟩ := hlengths
    rw [hbounds]
    exact LengthBounds.clamp_holds ⟨size, fun r hr => hsize r ((hfound r).mp hr)⟩ n r
      ((hfound r).mpr hr)

end TextPlan

section Framed

variable {start gap needle filler tail : Text} {position size : Nat}
  (hgap : gap.length = position - start.length)
  (hfiller : filler.length = size - (start ++ gap ++ needle).length - tail.length)
include hgap

/-- What stands behind the gap is included from the position on. -/
theorem infix_drop_framed :
    needle <:+: (start ++ gap ++ needle ++ filler ++ tail).drop position := by
  have hposition : position ≤ (start ++ gap).length := by
    rw [List.length_append]
    omega
  rw [List.append_assoc _ needle, List.append_assoc, List.drop_append_of_le_length hposition]
  exact ⟨(start ++ gap).drop position, filler ++ tail, by simp⟩

include hfiller

/-- The filler stretches a text to a length, if its parts are not longer. -/
theorem length_framed : (start ++ gap ++ needle ++ filler ++ tail).length =
    max size (max position start.length + needle.length + tail.length) := by
  simp only [List.length_append] at hfiller ⊢
  omega

end Framed

section Affixed

variable {S : Type} {checks : List (Check StringRule)} {lengths : List LengthRule} {a : Affixes}

/-- A text for lengths and affixes obeys all of them, if there is room. -/
theorem always_sampleText_affixed (o : SampleOptions)
    (hchecks : (checks.map Check.rule).Perm (a.rules lengths))
    (hlengths : ∃ size, ∀ r ∈ lengths, r.Holds size)
    (hroom : ∀ r ∈ lengths, ∀ m ∈ r.upper?, a.room ≤ m) :
    Always (sampleText o checks : Sampling S Text) fun t =>
      ∀ rule ∈ checks.map Check.rule, rule.Holds t := by
  refine (TextPlan.always_addAll_follows TextPlan.follows_nil
    (Affixes.partial_of_perm hchecks)).bind fun plan hplan => ?_
  rw [hplan.whole]
  obtain ⟨hstart, htail, hneedle, hclamp⟩ :=
    hplan.of_affixes (fun rule => hchecks.mem_iff) hlengths
  refine (always_natBetween o.string_le).bind fun n _ => ?_
  refine (always_sampleWord _ _).bind fun gap hgap => ?_
  refine (always_sampleWord _ _).map fun filler hfiller => ?_
  generalize htext : plan.start ++ gap ++ plan.needle ++ filler ++ plan.tail = t
  -- The order of the rules is left behind here: each one is found in the plan by what it asks for.
  intro rule hrule
  have hmem := hchecks.mem_iff.mp hrule
  cases Affixes.partial_of_mem hmem with
  | ofLength r =>
    have hr := Affixes.ofLength_mem.mp hmem
    have hsize : t.length = max (plan.bounds.clamp n) a.room := by
      rw [← htext, length_framed hgap hfiller, Affixes.room, ← hstart, ← htail, ← hneedle]
    rw [StringRule.holds_ofLength, hsize]
    exact holds_max (hclamp n r hr) (hroom r hr)
  | startsWith start =>
    rw [Affixes.startsWith_mem.mp hmem, Option.getD_some] at hstart
    show start <+: t
    rw [← htext, hstart]
    simp only [List.append_assoc]
    exact List.prefix_append _ _
  | endsWith tail =>
    rw [Affixes.endsWith_mem.mp hmem, Option.getD_some] at htail
    show tail <:+ t
    rw [← htext, htail]
    exact List.suffix_append _ _
  | includes needle position =>
    rw [Affixes.includes_mem.mp hmem, Option.getD_some] at hneedle
    obtain ⟨rfl, rfl⟩ := Prod.mk.inj hneedle
    show plan.needle <:+: t.drop plan.position
    rw [← htext]
    exact infix_drop_framed hgap

/-- **Strings with affixes are sampled well**: if some rules about the length can be obeyed
together, if one start, one end and one part from a position on are asked for at most, and if there
is room for these below all upper bounds, every sample obeys all rules, whatever is drawn and in
whatever order the rules are written, so the samples are a success. -/
theorem Schema.sampleWith_affixed (description : Option Text) (lengths : List LengthRule)
    (a : Affixes) (hchecks : (checks.map Check.rule).Perm (a.rules lengths))
    (hlengths : ∃ size, ∀ r ∈ lengths, r.Holds size)
    (hroom : ∀ r ∈ lengths, ∀ m ∈ r.upper?, a.room ≤ m) (o : SampleOptions) (draws : Draws S)
    (state : S) (policy : Option Policy) :
    ∃ texts : List Text, texts.length = o.count ∧
      (∀ t ∈ texts, ∀ check ∈ checks, check.rule.Holds t) ∧
      (Schema.mk description (.string checks)).sampleWith draws state o
          (policy.map Policy.name) =
        .ok (.ofValues (.mk description (.string checks)) (policy.map Policy.name)
          (texts.map fun t => .text t)) ∧
      (SampleResult.ofValues (.mk description (.string checks)) (policy.map Policy.name)
        (texts.map fun t => .text t)).success = true := by
  have hbuilt : (Schema.mk description (.string checks)).WellBuilt :=
    .mk trivial (List.forall_mem_nil _)
  have hrange : (Schema.mk description (.string checks)).InRange :=
    .mk trivial (List.forall_mem_nil _)
  have hsample : Always ((Schema.mk description (.string checks)).sample o : Sampling S Value)
      fun v => ∃ t : Text, .text t = v ∧ ∀ check ∈ checks, check.rule.Holds t :=
    (always_sampleText_affixed o hchecks hlengths hroom).map fun t ht =>
      ⟨t, rfl, List.forall_mem_map.mp ht⟩
  obtain ⟨texts, hcount, htexts, hrun⟩ :=
    sampleWith_of_always_map hsample draws state (policy.map Policy.name)
  refine ⟨texts, hcount, htexts, hrun, SampleResult.success_ofValues_iff.mpr ?_⟩
  refine List.forall_mem_map.mpr fun t ht => ?_
  rw [isEmpty_validate_iff hbuilt hrange (.text t)]
  refine ⟨t, rfl, (textConforms_iff_forall fun check hcheck => ?_).mpr (htexts t ht)⟩
  exact (Affixes.partial_of_perm hchecks check hcheck).transform t

end Affixed

/-- A start, an end and a part in the middle, within at most eight code points. -/
theorem Schema.sampleWith_affixed_middle :
    let lengths : List LengthRule := [.max 8, .min 3]
    let a : Affixes := ⟨some "a", some "z", some ("bc", 4)⟩
    let checks : List (Check StringRule) := [⟨.startsWith "a", none⟩, ⟨.endsWith "z", none⟩,
      ⟨.includes "bc" 4, none⟩, ⟨.max 8, none⟩, ⟨.min 3, none⟩]
    (checks.map Check.rule).Perm (a.rules lengths) ∧ (∃ size, ∀ r ∈ lengths, r.Holds size) ∧
      (∀ r ∈ lengths, ∀ m ∈ r.upper?, a.room ≤ m) ∧
      ∃ texts : List Text, texts.length = SampleOptions.standard.count ∧
        (∀ t ∈ texts, ∀ check ∈ checks, check.rule.Holds t) ∧
        (Schema.mk none (.string checks)).sampleWith Draws.least () .standard
            (some Policy.strict.name) =
          .ok (.ofValues (.mk none (.string checks)) (some Policy.strict.name)
            (texts.map fun t => .text t)) ∧
        (SampleResult.ofValues (.mk none (.string checks)) (some Policy.strict.name)
          (texts.map fun t => .text t)).success = true := by
  intro lengths a checks
  have hchecks : (checks.map Check.rule).Perm (a.rules lengths) :=
    @List.perm_append_comm StringRule [.startsWith "a", .endsWith "z", .includes "bc" 4]
      [.max 8, .min 3]
  have hlengths : ∃ size, ∀ r ∈ lengths, r.Holds size :=
    ⟨3, by simp [lengths, LengthRule.Holds]⟩
  have hroom : ∀ r ∈ lengths, ∀ m ∈ r.upper?, a.room ≤ m := by
    simp only [lengths, List.forall_mem_cons, LengthRule.upper?]
    exact ⟨by decide, fun m hm => absurd hm (Option.not_mem_none m), List.forall_mem_nil _⟩
  exact ⟨hchecks, hlengths, hroom, sampleWith_affixed none lengths a hchecks hlengths hroom .standard
    Draws.least () (some .strict)⟩

end Conform
