import Conform.Proofs.Checking.Refinement
import Conform.Proofs.Schema.Built

/-!
# Conformance

Whether a value conforms to a schema is told by recursion on the schema alone, without paths and
without violations. Checking decides conformance: it finds no violation exactly if the value
conforms. Only integers beyond the range of doubles are kept out, which stop a check.

## Main definitions

- `Schema.Conforms` — a value conforms to a schema under a policy for undeclared keys
- `Value.InRange`, `Schema.InRange` — all integers have nearest doubles
- `Schema.check_decides` — a check decides conformance
- `Schema.validate_eq_nil_iff` — validation finds nothing exactly if the value conforms
-/

namespace Conform

open Walk

/-- The value itself, or another one in its place if it is absent. -/
def Value.orDefault : (v fallback : Value) → Value
  | .scalar .undefined, fallback => fallback
  | v, _ => v

theorem Value.orDefault_eq {v : Value} (h : v ≠ .undefined) (fallback : Value) :
    v.orDefault fallback = v := by
  unfold orDefault
  split
  · exact absurd rfl h
  · rfl

mutual

/-- A value conforms to a schema under a policy for undeclared keys. -/
def Schema.Conforms (policy : Policy) : Schema → Value → Prop
  | .mk _ form, value => form.Conforms policy value
termination_by structural s => s

/-- A value conforms to a form under a policy for undeclared keys. -/
def Form.Conforms (policy : Policy) : Form → Value → Prop
  | .string checks, value => ∃ t, value = .text t ∧ TextConforms checks t
  | .number checks, value =>
    ∃ n, value = .number n ∧ n.isNaN = false ∧ ∀ check ∈ checks, check.rule.Holds n
  | .boolean, value => ∃ b, value = .bool b
  | .null, value => value = .null
  | .undefined, value => value = .undefined
  | .void, value => value = .undefined
  | .nan, value => ∃ n, value = .number n ∧ n.isNaN = true
  | .date, value => ∃ d, value = .date d
  | .any, _ => True
  | .unknown, _ => True
  | .never, _ => False
  | .literal expected, value => expected.accepts value = true
  | .enum options, value => ∃ t ∈ options, value = .text t
  | .object shape unknownKeys catchall _, value =>
    ∃ fields, value = .object fields ∧ ShapeConforms policy shape fields ∧
      match catchall with
      | some rest => ∀ p ∈ extraFields shape fields, rest.Conforms policy p.2
      | none => unknownKeys.getD policy = .strict → extraFields shape fields = []
  | .array element checks, value =>
    ∃ items, value = .array items ∧ (∀ check ∈ checks, check.rule.Holds items.length) ∧
      ∀ v ∈ items, element.Conforms policy v
  | .tuple items rest, value =>
    ∃ values, value = .array values ∧ items.length ≤ values.length ∧
      ItemsConform policy items values ∧
      match rest with
      | some more => ∀ v ∈ values.drop items.length, more.Conforms policy v
      | none => values.length ≤ items.length
  | .record key element, value =>
    ∃ fields, value = .object fields ∧
      ∀ p ∈ fields, key.Conforms policy (.text p.1) ∧ element.Conforms policy p.2
  | .union options, value => SomeConforms policy options value
  | .discriminatedUnion discriminator options, value =>
    ∃ fields, value = .object fields ∧
      SomeTaggedConforms policy discriminator (fieldValue fields discriminator) options value
  | .intersection left right, value => left.Conforms policy value ∧ right.Conforms policy value
  | .optional inner, value => value = .undefined ∨ inner.Conforms policy value
  | .nullable inner, value => value = .null ∨ inner.Conforms policy value
  | .default inner fallback, value => inner.Conforms policy (value.orDefault fallback)
termination_by structural form => form

/-- Every declared field conforms, where a missing one counts as absent. -/
def ShapeConforms (policy : Policy) : List (Text × Schema) → List (Text × Value) → Prop
  | [], _ => True
  | (key, s) :: shape, fields =>
    s.Conforms policy (fieldValue fields key) ∧ ShapeConforms policy shape fields
termination_by structural shape => shape

/-- Values conform to the schemas at the same places. -/
def ItemsConform (policy : Policy) : List Schema → List Value → Prop
  | s :: items, v :: values => s.Conforms policy v ∧ ItemsConform policy items values
  | _, _ => True
termination_by structural items => items

/-- A value conforms to one of some options. -/
def SomeConforms (policy : Policy) : List Schema → Value → Prop
  | [], _ => False
  | s :: options, value => s.Conforms policy value ∨ SomeConforms policy options value
termination_by structural options => options

/-- A value conforms to one of those options that have its tag. -/
def SomeTaggedConforms (policy : Policy) (discriminator : Text) (tag : Value) :
    List Schema → Value → Prop
  | [], _ => False
  | s :: options, value =>
    (s.isTagged discriminator tag = true ∧ s.Conforms policy value) ∨
      SomeTaggedConforms policy discriminator tag options value
termination_by structural options => options

end

attribute [grind =] Form.check Schema.check Form.Conforms Schema.Conforms

section Lists

variable {policy : Policy}

theorem shapeConforms_iff {shape : List (Text × Schema)} {fields : List (Text × Value)} :
    ShapeConforms policy shape fields ↔
      ∀ p ∈ shape, p.2.Conforms policy (fieldValue fields p.1) := by
  induction shape with
  | nil => simp [ShapeConforms]
  | cons p shape ih => rw [ShapeConforms, ih, List.forall_mem_cons]

theorem itemsConform_iff {items : List Schema} {values : List Value} :
    ItemsConform policy items values ↔ ∀ p ∈ items.zip values, p.1.Conforms policy p.2 := by
  induction items generalizing values with
  | nil => simp [ItemsConform]
  | cons s items ih =>
    cases values with
    | nil => simp [ItemsConform]
    | cons v values => rw [ItemsConform, ih, List.zip_cons_cons, List.forall_mem_cons]

theorem someConforms_iff {options : List Schema} {value : Value} :
    SomeConforms policy options value ↔ ∃ s ∈ options, s.Conforms policy value := by
  induction options with
  | nil => simp [SomeConforms]
  | cons s options ih => rw [SomeConforms, ih, List.exists_mem_cons_iff]

theorem someTaggedConforms_iff {discriminator : Text} {tag value : Value}
    {options : List Schema} :
    SomeTaggedConforms policy discriminator tag options value ↔
      ∃ s ∈ options, s.isTagged discriminator tag = true ∧ s.Conforms policy value := by
  induction options with
  | nil => simp [SomeTaggedConforms]
  | cons s options ih => rw [SomeTaggedConforms, ih, List.exists_mem_cons_iff]

end Lists

/-- All integers in a value have nearest doubles. What a schema that stands as a value holds plays
no part. -/
inductive Value.InRange : Value → Prop
  | number {n : Number} (h : n.InRange) : InRange (.number n)
  | undefined : InRange .undefined
  | null : InRange .null
  | bool (b : Bool) : InRange (.bool b)
  | text (t : Text) : InRange (.text t)
  | date (d : Date) : InRange (.date d)
  | pattern (p : Pattern) : InRange (.pattern p)
  | schema (s : Schema) : InRange (.schema s)
  | array {items : List Value} (each : ∀ v ∈ items, InRange v) : InRange (.array items)
  | object {fields : List (Text × Value)} (each : ∀ p ∈ fields, InRange p.2) :
      InRange (.object fields)

/-- The integers that a form may compare doubles with have nearest doubles: the steps of
multiples and those in default values. -/
def Form.InRange : Form → Prop
  | .number checks => ∀ check ∈ checks, ∀ step, check.rule = .multipleOf step → step.InRange
  | .default _ value => value.InRange
  | _ => True

/-- The steps of multiples and the default values in a schema are in range. -/
def Schema.InRange (s : Schema) : Prop := s.Everywhere Form.InRange

/-- The fields of an object in range are in range, also those that are missing. -/
theorem fieldValue_inRange {fields : List (Text × Value)} (h : ∀ p ∈ fields, p.2.InRange)
    (key : Text) : (fieldValue fields key).InRange := by
  rw [fieldValue]
  rcases hget : Fields.get? fields key with _ | v
  · exact .undefined
  · exact h _ (Fields.mem_of_get? hget)

/-- Two literals that accept the same value clash. -/
theorem Scalar.clashes_of_accepts {a b : Scalar} {v : Value} (ha : a.accepts v = true)
    (hb : b.accepts v = true) : a.clashes b = true := by
  unfold accepts at ha hb
  split at ha <;> split at hb <;> simp_all [clashes]
  exact Number.same_of_same ha hb

/-- No value chooses two options whose tags do not clash. -/
theorem pairwise_isTagged {discriminator : Text} {options : List Schema}
    (htags : (options.flatMap (tagsOf discriminator)).Pairwise fun a b => a.clashes b = false)
    (tag : Value) :
    options.Pairwise fun s t =>
      s.isTagged discriminator tag = true → t.isTagged discriminator tag = false := by
  refine (List.pairwise_flatMap.mp htags).2.imp fun {s t} hapart hs => ?_
  obtain ⟨a, ha, haccepts⟩ := List.any_eq_true.mp hs
  refine Bool.eq_false_iff.mpr fun ht => ?_
  obtain ⟨b, hb, hbccepts⟩ := List.any_eq_true.mp ht
  exact Bool.false_ne_true ((hapart a ha b hb).symm.trans
    (Scalar.clashes_of_accepts haccepts hbccepts))

section Forms

variable {policy : Policy} {value : Value}

theorem string_decides (checks : List (Check StringRule)) :
    Decides policy (Form.check (.string checks) value)
      (Form.Conforms policy (.string checks) value) := by
  unfold Form.check Form.Conforms
  split
  · rename_i t
    have hnotes : Decides policy ((stringFaults checks t).forM note)
        (∀ message ∈ stringFaults checks t, False) :=
      decides_forM fun message _ => decides_note message id
    refine hnotes.congr ?_
    rw [← List.eq_nil_iff_forall_not_mem, stringFaults_eq_nil_iff]
    exact ⟨fun h => ⟨t, rfl, h⟩, fun ⟨u, hu, h⟩ => by cases hu; exact h⟩
  · rename_i hother
    exact decides_noteType _ _ fun ⟨t, ht, _⟩ => hother t ht

theorem number_decides {checks : List (Check NumberRule)} (hvalue : value.InRange)
    (hform : Form.InRange (.number checks)) :
    Decides policy (Form.check (.number checks) value)
      (Form.Conforms policy (.number checks) value) := by
  unfold Form.check Form.Conforms
  split
  · rename_i n
    cases hnan : n.isNaN with
    | true =>
      rw [if_pos rfl]
      refine decides_noteType _ _ fun ⟨m, hm, hnumber, _⟩ => ?_
      cases hm
      rw [hnan] at hnumber
      exact Bool.noConfusion hnumber
    | false =>
      rw [if_neg Bool.false_ne_true]
      have hn : n.InRange := by
        cases hvalue with
        | number h => exact h
      refine (checkNumber_decides hn hform).congr ?_
      exact ⟨fun h => ⟨n, rfl, hnan, h⟩, fun ⟨m, hm, _, h⟩ => by cases hm; exact h⟩
  · rename_i hother
    exact decides_noteType _ _ fun ⟨n, hn, _⟩ => hother n hn

theorem nan_decides :
    Decides policy (Form.check .nan value) (Form.Conforms policy .nan value) := by
  unfold Form.check Form.Conforms
  split
  · rename_i n
    cases hnan : n.isNaN with
    | true => exact decides_pure ⟨n, rfl, hnan⟩
    | false =>
      rw [if_neg Bool.false_ne_true]
      refine decides_noteType _ _ fun ⟨m, hm, hnumber⟩ => ?_
      cases hm
      rw [hnan] at hnumber
      exact Bool.noConfusion hnumber
  · rename_i hother
    exact decides_noteType _ _ fun ⟨n, hn, _⟩ => hother n hn

theorem literal_decides (expected : Scalar) :
    Decides policy (Form.check (.literal expected) value)
      (Form.Conforms policy (.literal expected) value) := by
  unfold Form.check Form.Conforms
  split
  · by_cases hexpected : expected = .undefined
    · rw [if_pos hexpected]
      exact decides_pure (by rw [hexpected]; rfl)
    · -- Only the absent literal accepts what is absent.
      rw [if_neg hexpected]
      refine decides_note _ fun haccepts => hexpected ?_
      cases expected <;> first | rfl | exact nomatch haccepts
  · by_cases haccepts : expected.accepts value = true
    · rw [if_pos haccepts]
      exact decides_pure haccepts
    · rw [if_neg haccepts]
      exact decides_note _ haccepts

theorem enum_decides (options : List Text) :
    Decides policy (Form.check (.enum options) value)
      (Form.Conforms policy (.enum options) value) := by
  unfold Form.check Form.Conforms
  split
  · rename_i t
    by_cases ht : t ∈ options
    · rw [if_pos ht]
      exact decides_pure ⟨t, ht, rfl⟩
    · rw [if_neg ht]
      refine decides_note _ fun ⟨u, hu, heq⟩ => ht ?_
      cases heq
      exact hu
  · rename_i hother
    exact decides_noteType _ _ fun ⟨t, _, ht⟩ => hother t ht

/-- The policy that a walk finds is the one it was started with. -/
theorem decides_policy {P : Prop} (walk : Policy → Walk PUnit)
    (h : Decides policy (walk policy) P) :
    Decides policy (do walk (← get).policy) P := by
  intro c hc
  subst hc
  have hget : (get : Walk Context).run.run c = (.ok c, c) := rfl
  rw [run_bind_of_ok hget]
  exact h c rfl

/-- What undeclared fields of an object must be like. -/
theorem extra_decides {unknownKeys : Option Policy} {catchall : Option Schema}
    {extra : List (Text × Value)} (message : Text) :
    (∀ rest ∈ catchall, ∀ p ∈ extra,
      Decides policy (rest.check p.2) (rest.Conforms policy p.2)) →
    Decides policy
      (if extra.isEmpty = true then pure ()
      else
        match catchall with
        | some rest => eachField (fun _ v => rest.check v) extra
        | none => do if unknownKeys.getD (← get).policy = .strict then note message)
      (match catchall with
        | some rest => ∀ p ∈ extra, rest.Conforms policy p.2
        | none => unknownKeys.getD policy = .strict → extra = []) := by
  intro hcatchall
  by_cases hempty : extra = []
  · subst hempty
    refine decides_pure ?_
    cases catchall with
    | none => exact fun _ => rfl
    | some rest => exact fun p hp => absurd hp List.not_mem_nil
  · rw [if_neg (mt List.isEmpty_iff.mp hempty)]
    cases catchall with
    | some rest =>
      exact eachField_decides (fun _ v => rest.Conforms policy v) (hcatchall rest rfl)
    | none =>
      apply decides_policy fun p => if unknownKeys.getD p = .strict then note message else pure ()
      by_cases hstrict : unknownKeys.getD policy = .strict
      · rw [if_pos hstrict]
        exact decides_note message fun h => hempty (h hstrict)
      · rw [if_neg hstrict]
        exact decides_pure fun h => absurd h hstrict

theorem object_decides {shape : List (Text × Schema)} {unknownKeys : Option Policy}
    {catchall : Option Schema} {strictMessage : Option Text} (hvalue : value.InRange)
    (hparts : ∀ s ∈ (Form.object shape unknownKeys catchall strictMessage).parts,
      ∀ v : Value, v.InRange → Decides policy (s.check v) (s.Conforms policy v)) :
    Decides policy (Form.check (.object shape unknownKeys catchall strictMessage) value)
      (Form.Conforms policy (.object shape unknownKeys catchall strictMessage) value) := by
  unfold Form.check Form.Conforms
  split
  · rename_i fields
    have hfields : ∀ p ∈ fields, p.2.InRange := by
      cases hvalue with
      | object each => exact each
    have hshape : Decides policy (checkShape shape fields) (ShapeConforms policy shape fields) := by
      refine (checkShape_decides fun p hp => hparts p.2 ?_ _ ?_).congr shapeConforms_iff.symm
      · exact List.mem_append_left _ (List.mem_map_of_mem hp)
      · exact fieldValue_inRange hfields p.1
    have hcatchall : ∀ rest ∈ catchall, ∀ p ∈ extraFields shape fields,
        Decides policy (rest.check p.2) (rest.Conforms policy p.2) := fun rest hrest p hp =>
      hparts rest (List.mem_append_right _ (Option.mem_toList.mpr hrest)) _
        (hfields p (List.mem_filter.mp hp).1)
    refine (hshape.seq (extra_decides _ hcatchall)).congr ?_
    simp only [Value.object.injEq, exists_eq_left']
  · rename_i hother
    exact decides_noteType _ _ fun ⟨fields, hf, _⟩ => hother fields hf

theorem array_decides {element : Schema} {checks : List (Check LengthRule)}
    (hvalue : value.InRange)
    (helement : ∀ v : Value, v.InRange →
      Decides policy (element.check v) (element.Conforms policy v)) :
    Decides policy (Form.check (.array element checks) value)
      (Form.Conforms policy (.array element checks) value) := by
  unfold Form.check Form.Conforms
  split
  · rename_i items
    have hitems : ∀ v ∈ items, v.InRange := by
      cases hvalue with
      | array each => exact each
    have hlength : Decides policy
        (checks.forM fun check =>
          noteAny ((lengthFault "Array" "element(s)" check.rule items.length).map
            (messageOr check.message)))
        (∀ check ∈ checks, check.rule.Holds items.length) :=
      decides_forM fun check _ => decides_noteAny
        (Option.map_eq_none_iff.trans (lengthFault_eq_none_iff _ _ check.rule items.length))
    have heach := eachFrom_decides (fun v hv => helement v (hitems v hv)) 0
    refine (hlength.seq heach).congr ?_
    simp only [Value.array.injEq, exists_eq_left']
  · rename_i hother
    exact decides_noteType _ _ fun ⟨items, hi, _⟩ => hother items hi

/-- What the elements of a tuple behind those with a schema of their own must be like. -/
theorem rest_decides {rest : Option Schema} {values : List Value} (index : Nat) :
    (∀ more ∈ rest, ∀ v ∈ values, Decides policy (more.check v) (more.Conforms policy v)) →
    Decides policy
      (match rest with
        | some more => eachFrom more.check index values
        | none => pure ())
      (∀ more ∈ rest, ∀ v ∈ values, more.Conforms policy v) := by
  intro hrest
  cases rest with
  | none => exact decides_pure fun more hmore => nomatch hmore
  | some more => exact (eachFrom_decides (hrest more rfl) index).congr (by simp)

theorem tuple_decides {items : List Schema} {rest : Option Schema} (hvalue : value.InRange)
    (hparts : ∀ s ∈ (Form.tuple items rest).parts,
      ∀ v : Value, v.InRange → Decides policy (s.check v) (s.Conforms policy v)) :
    Decides policy (Form.check (.tuple items rest) value)
      (Form.Conforms policy (.tuple items rest) value) := by
  unfold Form.check Form.Conforms
  split
  · rename_i values
    have hvalues : ∀ v ∈ values, v.InRange := by
      cases hvalue with
      | array each => exact each
    by_cases hshort : values.length < items.length
    · rw [if_pos hshort]
      refine decides_note _ fun ⟨_, hv, hlength, _⟩ => ?_
      cases hv
      omega
    · rw [if_neg hshort]
      have hitems : Decides policy (checkItems items values 0)
          (ItemsConform policy items values) := by
        refine (checkItems_decides (fun s hs v hv => ?_) 0).congr itemsConform_iff.symm
        exact hparts s (List.mem_append_left _ hs) v (hvalues v hv)
      have hmore : ∀ more ∈ rest, ∀ v ∈ values.drop items.length,
          Decides policy (more.check v) (more.Conforms policy v) := fun more hmore v hv =>
        hparts more (List.mem_append_right _ (Option.mem_toList.mpr hmore)) v
          (hvalues v (List.mem_of_mem_drop hv))
      have hrest := rest_decides items.length hmore
      -- Without a schema for the rest, too many elements are noted before any of them is checked.
      refine ((hitems.seq hrest).noteWhen _ _).congr ?_
      have hlength : items.length ≤ values.length := by omega
      cases rest with
      | none => simp [hlength, and_comm]
      | some more => simp [hlength]
  · rename_i hother
    exact decides_noteType _ _ fun ⟨values, hv, _⟩ => hother values hv

theorem record_decides {key element : Schema} (hvalue : value.InRange)
    (hkey : ∀ v : Value, v.InRange → Decides policy (key.check v) (key.Conforms policy v))
    (helement : ∀ v : Value, v.InRange →
      Decides policy (element.check v) (element.Conforms policy v)) :
    Decides policy (Form.check (.record key element) value)
      (Form.Conforms policy (.record key element) value) := by
  unfold Form.check Form.Conforms
  split
  · rename_i fields
    have hfields : ∀ p ∈ fields, p.2.InRange := by
      cases hvalue with
      | object each => exact each
    have heach : Decides policy
        (eachField (fun name v => do key.check (.text name); element.check v) fields)
        (∀ p ∈ fields, key.Conforms policy (.text p.1) ∧ element.Conforms policy p.2) :=
      eachField_decides
        (fun name v => key.Conforms policy (.text name) ∧ element.Conforms policy v)
        fun p hp => (hkey _ (.text p.1)).seq (helement p.2 (hfields p hp))
    refine heach.congr ?_
    simp only [Value.object.injEq, exists_eq_left']
  · rename_i hother
    exact decides_noteType _ _ fun ⟨fields, hf, _⟩ => hother fields hf

theorem discriminatedUnion_decides {discriminator : Text} {options : List Schema}
    (hbuilt : Form.WellBuilt (.discriminatedUnion discriminator options))
    (hoptions : ∀ s ∈ options, Decides policy (s.check value) (s.Conforms policy value)) :
    Decides policy (Form.check (.discriminatedUnion discriminator options) value)
      (Form.Conforms policy (.discriminatedUnion discriminator options) value) := by
  unfold Form.check Form.Conforms
  split
  · rename_i fields
    intro c hc
    have hconforms : (∃ found, Value.object fields = Value.object found ∧
        SomeTaggedConforms policy discriminator (fieldValue found discriminator) options
          (.object fields)) ↔
        ∃ s ∈ options, s.isTagged discriminator (fieldValue fields discriminator) = true ∧
          s.Conforms policy (.object fields) := by
      simp only [Value.object.injEq, exists_eq_left', someTaggedConforms_iff]
    rw [hconforms]
    -- Building has seen to it that at most one option has the tag.
    rcases checkTagged_run hoptions
      (pairwise_isTagged hbuilt.2.2 (fieldValue fields discriminator)) hc with
      ⟨found, hrun, hfound⟩ | ⟨hrun, hnone⟩
    · rw [run_bind_of_ok hrun]
      exact ⟨found, rfl, hfound⟩
    · rw [run_bind_of_ok hrun]
      refine (decides_note _ ?_).within (.field discriminator) c hc
      rintro ⟨s, hs, htagged, _⟩
      rw [hnone s hs] at htagged
      exact Bool.noConfusion htagged
  · rename_i hother
    exact decides_noteType _ _ fun ⟨fields, hf, _⟩ => hother fields hf

/-- A check of a form decides conformance if the checks of its parts do. -/
theorem Form.check_decides {form : Form} (hbuilt : form.WellBuilt) (hform : form.InRange)
    (hparts : ∀ s ∈ form.parts,
      ∀ v : Value, v.InRange → Decides policy (s.check v) (s.Conforms policy v))
    (hvalue : value.InRange) :
    Decides policy (form.check value) (form.Conforms policy value) := by
  cases form with
  | string checks => exact string_decides checks
  | number checks => exact number_decides hvalue hform
  | nan => exact nan_decides
  | literal expected => exact literal_decides expected
  | enum options => exact enum_decides options
  | object shape unknownKeys catchall strictMessage => exact object_decides hvalue hparts
  | array element checks => exact array_decides hvalue (hparts element List.mem_cons_self)
  | tuple items rest => exact tuple_decides hvalue hparts
  | record key element =>
    exact record_decides hvalue (hparts key List.mem_cons_self)
      (hparts element (List.mem_cons_of_mem key List.mem_cons_self))
  | union options =>
    unfold Form.check Form.Conforms
    exact (checkOptions_decides (fun s hs => hparts s hs value hvalue) (by simp)
      fun _ => hbuilt).congr someConforms_iff.symm
  | discriminatedUnion discriminator options =>
    exact discriminatedUnion_decides hbuilt fun s hs => hparts s hs value hvalue
  | intersection left right =>
    unfold Form.check Form.Conforms
    exact (hparts left List.mem_cons_self value hvalue).seq
      (hparts right (List.mem_cons_of_mem left List.mem_cons_self) value hvalue)
  | optional inner =>
    have hinner := hparts inner List.mem_cons_self value hvalue
    unfold Form.check Form.Conforms
    split
    · exact decides_pure (.inl rfl)
    · rename_i hother
      exact hinner.congr (or_iff_right hother).symm
  | nullable inner =>
    have hinner := hparts inner List.mem_cons_self value hvalue
    unfold Form.check Form.Conforms
    split
    · exact decides_pure (.inl rfl)
    · rename_i hother
      exact hinner.congr (or_iff_right hother).symm
  | default inner fallback =>
    unfold Form.check Form.Conforms
    split
    · exact hparts inner List.mem_cons_self fallback hform
    · rename_i hother
      rw [Value.orDefault_eq hother]
      exact hparts inner List.mem_cons_self value hvalue
  | boolean | null | undefined | void | date =>
    unfold Form.check Form.Conforms
    split
    · exact decides_pure (by simp)
    · first
      | exact decides_noteType _ _ (by simp_all)
      | exact decides_note _ (by simp_all)
  | any | unknown =>
    unfold Form.check Form.Conforms
    exact decides_pure trivial
  | never =>
    unfold Form.check Form.Conforms
    exact decides_noteType _ _ id

end Forms

/-- The check of a value decides whether it conforms. -/
theorem Schema.check_decides {s : Schema} (hbuilt : s.WellBuilt) (hs : s.InRange)
    (policy : Policy) {value : Value} (hvalue : value.InRange) :
    Decides policy (s.check value) (s.Conforms policy value) := by
  induction s using Schema.induct generalizing value with
  | mk description form ih =>
    unfold Schema.check Schema.Conforms
    exact Form.check_decides hbuilt.here hs.here
      (fun t ht v hv => ih t ht (hbuilt.part ht) (hs.part ht) hv) hvalue

/-- The name of a policy stands for it, and no name stands for `strip`. -/
theorem Policy.ofName?_name (policy : Option Policy) :
    Policy.ofName? (messageOr (policy.map Policy.name) Policy.strip.name) =
      some (policy.getD .strip) := by
  rcases policy with _ | policy
  · decide
  · cases policy <;> decide

/-- Validation under a policy is the check of the value from a fresh start. -/
theorem Schema.isEmpty_validate_iff {s : Schema} (hbuilt : s.WellBuilt) (hs : s.InRange)
    {value : Value} (hvalue : value.InRange) (policy : Option Policy) :
    (s.validate (policy.map Policy.name) value).isEmpty = true ↔
      s.Conforms (policy.getD .strip) value := by
  obtain ⟨found, hrun, hfound⟩ := check_decides hbuilt hs (policy.getD .strip) hvalue
    ⟨[], [], policy.getD .strip⟩ rfl
  have hissues : s.issues (policy.getD .strip) value = .ok found := by
    rw [issues, hrun]
    rfl
  rw [validate]
  simp only [Policy.ofName?_name, hissues, List.isEmpty_iff]
  exact hfound

end Conform
