import Conform.Proofs.Checking.Policies
import Conform.Proofs.Checking.Completeness
import Conform.Proofs.Schema.Masks

/-!
# Objects that share fields

Every declared field of an object is checked on its own, and what is found there stands behind its
key, in the order of the shape. So what an object with other fields finds can be told from what the
first one finds: fields that are dropped take their violations with them, and a field that becomes
optional loses them where the value lacks it.

## Main definitions

- `Schema.RunsThrough` — nothing stops the check of a value
- `Issue.inField` — violations in some fields
- `ObjectParts.fieldIssues`, `ObjectParts.found_of_fields` — what is found in fields and objects
- `ObjectParts.makeOptional_found`, `ObjectParts.select_found` — what is found with other fields
- `ObjectParts.partial_required` — fields that become optional or required
- `ObjectParts.pick_omit` — an object cut in two
-/

namespace Conform

open Walk

/-- Nothing stops the check of a value. -/
def Schema.RunsThrough (s : Schema) (policy : Policy) (v : Value) : Prop :=
  ∃ found, s.issues policy v = .ok found

section RunsThrough

variable {policy : Policy} {s : Schema} {v : Value}

theorem Schema.runsThrough_of_yields {found : List Issue}
    (h : Yields policy (s.check v) (.ok ()) found) :
    s.RunsThrough policy v ∧ s.validate (some policy.name) v = found :=
  ⟨⟨found, issues_eq h⟩, validate_of_ok (some policy) (issues_eq h)⟩

/-- A check that is not stopped finds what validation reports. -/
theorem Schema.RunsThrough.yields (h : s.RunsThrough policy v) :
    Yields policy (s.check v) (.ok ()) (s.validate (some policy.name) v) := by
  obtain ⟨found, hissues⟩ := h
  have hyields := yields_of_issues hissues
  rw [(runsThrough_of_yields hyields).2]
  exact hyields

/-- Nothing has stopped the check of a valid value. -/
theorem Schema.runsThrough_of_valid (h : s.validate (some policy.name) v = []) :
    s.RunsThrough policy v :=
  (runsThrough_of_yields (validates_iff.mp h)).1

end RunsThrough

/-- Undeclared keys that are neither reported nor checked. -/
theorem checkExtra_yields_nil {policy : Policy} {unknownKeys : Option Policy}
    (h : unknownKeys.getD policy ≠ .strict) (strictMessage : Option Text)
    (extra : List (Text × Value)) :
    Yields policy (checkExtra unknownKeys none strictMessage extra) (.ok ()) [] := by
  unfold checkExtra
  split
  · exact yields_pure ()
  · have hyields := undeclared_yields policy unknownKeys
      (messageOr strictMessage (unrecognized extra))
    rw [decide_eq_false h] at hyields
    exact hyields

/-- Whether a violation is in one of some fields. -/
def Issue.inField (among : Text → Bool) (i : Issue) : Bool :=
  match i.path with
  | .field key :: _ => among key
  | _ => false

namespace ObjectParts

variable {policy : Policy} {fields : List (Text × Value)} {o : ObjectParts}
  {p : Text × Schema} {extra : List Issue} {keys : List Text}

/-- What is found in a declared field of a value. -/
def fieldIssues (policy : Policy) (fields : List (Text × Value)) (p : Text × Schema) :
    List Issue :=
  (p.2.validate (some policy.name) (fieldValue fields p.1)).map (Issue.under [.field p.1])

/-- What is done with the fields of a value that an object does not declare. -/
def checkUndeclared (o : ObjectParts) (fields : List (Text × Value)) : Walk PUnit :=
  checkExtra o.unknownKeys o.catchall o.strictMessage (extraFields o.shape fields)

theorem check_toSchema (o : ObjectParts) (fields : List (Text × Value)) :
    o.toSchema.check (.object fields) = (do
      inTurn (o.shape.map fun p => (.field p.1, p.2.check (fieldValue fields p.1)))
      o.checkUndeclared fields) := by
  rw [toSchema, Schema.check, Form.check_object]
  rfl

/-- What is found in an object: field by field, and behind that in what it does not declare. -/
theorem found_of_fields
    (hfields : ∀ p ∈ o.shape, p.2.RunsThrough policy (fieldValue fields p.1))
    (hextra : Yields policy (o.checkUndeclared fields) (.ok ()) extra) :
    o.toSchema.RunsThrough policy (.object fields) ∧
      o.toSchema.validate (some policy.name) (.object fields) =
        o.shape.flatMap (fieldIssues policy fields) ++ extra := by
  have hshape : Yields policy
      (inTurn (o.shape.map fun p => (.field p.1, p.2.check (fieldValue fields p.1)))) (.ok ())
      (o.shape.flatMap (fieldIssues policy fields)) :=
    yields_inTurn fun p hp => (hfields p hp).yields
  refine Schema.runsThrough_of_yields ?_
  rw [check_toSchema]
  exact hshape.bind hextra

/-- Nothing stops the check of a field where nothing stops the check of the object. -/
theorem exists_found (h : o.toSchema.RunsThrough policy (.object fields)) :
    (∀ p ∈ o.shape, p.2.RunsThrough policy (fieldValue fields p.1)) ∧
      ∃ extra, Yields policy (o.checkUndeclared fields) (.ok ()) extra := by
  have hyields := h.yields
  refine ⟨fun p hp => ?_, ?_⟩
  · have hfield : Contains policy (o.toSchema.check (.object fields)) [.field p.1]
        (p.2.check (fieldValue fields p.1)) := (Schema.Checks.field hp).contains
    obtain ⟨found, hfound, -⟩ := hfield _ hyields
    exact (Schema.runsThrough_of_yields hfound).1
  · rw [toSchema, Schema.check] at hyields
    obtain ⟨extra, hextra, -⟩ := object_contains_extra _ _ _ _ _ _ hyields
    exact ⟨extra, hextra⟩

/-- What is found in a field is kept as a whole or not at all. -/
theorem filter_fieldIssues (keep : Issue → Bool) (among : Text → Bool)
    (hkeep : ∀ key i, keep (Issue.under [.field key] i) = among key) (p : Text × Schema) :
    (fieldIssues policy fields p).filter keep =
      if among p.1 = true then fieldIssues policy fields p else [] := by
  have hsame : ∀ i ∈ fieldIssues policy fields p, keep i = among p.1 := by
    intro i hi
    obtain ⟨j, -, rfl⟩ := List.mem_map.mp hi
    exact hkeep p.1 j
  by_cases hamong : among p.1 = true
  · rw [if_pos hamong]
    exact List.filter_eq_self.mpr fun i hi => (hsame i hi).trans hamong
  · rw [if_neg hamong]
    exact List.filter_eq_nil_iff.mpr fun i hi hkept => hamong ((hsame i hi).symm.trans hkept)

/-- The violations in some of the fields are found where only these fields are checked. -/
theorem filter_flatMap_fieldIssues (keep : Issue → Bool) (among : Text → Bool)
    (hkeep : ∀ key i, keep (Issue.under [.field key] i) = among key)
    (shape : List (Text × Schema)) :
    (shape.flatMap (fieldIssues policy fields)).filter keep =
      (shape.filter fun p => among p.1).flatMap (fieldIssues policy fields) := by
  induction shape with
  | nil => rfl
  | cons p shape ih =>
    rw [List.flatMap_cons, List.filter_append, ih, filter_fieldIssues keep among hkeep,
      List.filter_cons]
    split <;> rfl

/-- The object with some of the fields. -/
def select (o : ObjectParts) (among : Text → Bool) : ObjectParts :=
  { o with shape := o.shape.filter fun p => among p.1 }

/-- An object with some of the fields finds what the whole one finds in them, as long as undeclared
keys do not matter. -/
theorem select_found (keep : Issue → Bool) (among : Text → Bool)
    (hkeep : ∀ key i, keep (Issue.under [.field key] i) = among key)
    (hcatchall : o.catchall = none) (hlax : o.unknownKeys.getD policy ≠ .strict)
    (h : o.toSchema.RunsThrough policy (.object fields)) :
    (o.select among).toSchema.RunsThrough policy (.object fields) ∧
      (o.select among).toSchema.validate (some policy.name) (.object fields) =
        (o.toSchema.validate (some policy.name) (.object fields)).filter keep := by
  have hnothing (other : ObjectParts) (hown : other.unknownKeys = o.unknownKeys)
      (hother : other.catchall = o.catchall) :
      Yields policy (other.checkUndeclared fields) (.ok ()) [] := by
    rw [checkUndeclared, hother, hcatchall]
    exact checkExtra_yields_nil (hown ▸ hlax) _ _
  have hfields := (exists_found h).1
  obtain ⟨hruns, hfound⟩ := found_of_fields (o := o.select among)
    (fun p hp => hfields p (List.mem_of_mem_filter hp)) (hnothing _ rfl rfl)
  refine ⟨hruns, hfound.trans ?_⟩
  rw [(found_of_fields hfields (hnothing o rfl rfl)).2, List.append_nil, List.append_nil,
    filter_flatMap_fieldIssues keep among hkeep]
  rfl

/-- Whether a value has no field with a key, or an undefined one. -/
def lacks (fields : List (Text × Value)) (key : Text) : Bool :=
  match fieldValue fields key with
  | .scalar .undefined => true
  | _ => false

/-- Whether an object declares a field that a mask is about and that a value lacks. -/
def waives (o : ObjectParts) (mask : Mask) (fields : List (Text × Value)) (key : Text) : Bool :=
  Fields.has o.shape key && mask.marks key && lacks fields key

/-- An optional field is checked unless the value lacks it. -/
theorem optional_found {s : Schema} {key : Text}
    (h : s.RunsThrough policy (fieldValue fields key)) :
    s.optional.RunsThrough policy (fieldValue fields key) ∧
      s.optional.validate (some policy.name) (fieldValue fields key) =
        if lacks fields key = true then []
        else s.validate (some policy.name) (fieldValue fields key) := by
  refine Schema.runsThrough_of_yields ?_
  have hcheck : s.optional.check (fieldValue fields key) =
      if lacks fields key = true then pure () else s.check (fieldValue fields key) := by
    rw [Schema.optional, Schema.plain, Schema.check, lacks]
    generalize fieldValue fields key = v
    unfold Form.check
    rcases v with (_ | _ | _ | _ | _) | _ | _ | _ | _ | _ <;> rfl
  rw [hcheck]
  split
  · exact yields_pure ()
  · exact h.yields

/-- A shape with the same keys leaves the same fields undeclared. -/
theorem checkUndeclared_makeOptional (o : ObjectParts) (keys : List Text)
    (fields : List (Text × Value)) :
    (o.makeOptional keys).checkUndeclared fields = o.checkUndeclared fields := by
  have hextra : extraFields (o.makeOptional keys).shape fields = extraFields o.shape fields := by
    simp [extraFields, makeOptional, Fields.has, List.any_map, Function.comp_def]
  rw [checkUndeclared, hextra]
  rfl

/-- Undeclared fields of a value are no declared ones. -/
theorem not_inField_of_undeclared {among : Text → Bool}
    (hamong : ∀ key, among key = true → Fields.has o.shape key = true)
    (hextra : Yields policy (o.checkUndeclared fields) (.ok ()) extra) :
    ∀ i ∈ extra, i.inField among = false := by
  let At (path : List Key) : Prop := ∀ message, Issue.inField among ⟨path, message⟩ = false
  have hfinds : Finds policy (o.checkUndeclared fields) At True := by
    refine checkExtra_finds (fun _ => rfl) fun rest _ p hp => ?_
    have hundeclared : Fields.has o.shape p.1 = false := by
      simpa using (List.mem_filter.mp hp).2
    have hout : among p.1 = false := by
      rw [← Bool.not_eq_true]
      exact fun hin => Bool.false_ne_true (hundeclared.symm.trans (hamong p.1 hin))
    exact (rest.check_uniform policy p.2).finds.mono (fun _ _ _ => hout) id
  obtain ⟨outcome, found, hyields, hat, -⟩ := hfinds
  obtain ⟨-, rfl⟩ := hextra.unique hyields
  exact fun i hi => hat i hi i.message

/-- The field that comes of a declared one if some fields become optional. -/
def optionalField (keys : List Text) (p : Text × Schema) : Text × Schema :=
  (p.1, if keys.contains p.1 = true then p.2.optional else p.2)

/-- What is found in a field is lost where it becomes optional and the value lacks it. -/
theorem optionalField_found (keys : List Text)
    (h : p.2.RunsThrough policy (fieldValue fields p.1)) :
    (optionalField keys p).2.RunsThrough policy (fieldValue fields p.1) ∧
      fieldIssues policy fields (optionalField keys p) =
        if (keys.contains p.1 && lacks fields p.1) = true then []
        else fieldIssues policy fields p := by
  by_cases hkey : keys.contains p.1 = true
  · have hsame : optionalField keys p = (p.1, p.2.optional) := by rw [optionalField, if_pos hkey]
    obtain ⟨hruns, hfound⟩ := optional_found h
    rw [hsame]
    refine ⟨hruns, ?_⟩
    rw [fieldIssues, hfound, hkey, Bool.true_and]
    split <;> rfl
  · have hsame : optionalField keys p = p := by rw [optionalField, if_neg hkey]
    rw [hsame, Bool.eq_false_of_not_eq_true hkey]
    exact ⟨h, rfl⟩

/-- Making fields optional takes away what is found in those that the value lacks. -/
theorem makeOptional_found {mask : Mask}
    (hmask : ∀ p ∈ o.shape, keys.contains p.1 = mask.marks p.1)
    (h : o.toSchema.RunsThrough policy (.object fields)) :
    (o.makeOptional keys).toSchema.RunsThrough policy (.object fields) ∧
      (o.makeOptional keys).toSchema.validate (some policy.name) (.object fields) =
        (o.toSchema.validate (some policy.name) (.object fields)).filter
          fun i => !i.inField (o.waives mask fields) := by
  obtain ⟨hfields, extra, hextra⟩ := exists_found h
  obtain ⟨hruns, hfound⟩ := found_of_fields (o := o.makeOptional keys)
    (List.forall_mem_map.mpr fun p hp => (optionalField_found keys (hfields p hp)).1)
    ((checkUndeclared_makeOptional o keys fields).symm ▸ hextra)
  refine ⟨hruns, hfound.trans ?_⟩
  have hfield : ∀ p ∈ o.shape, fieldIssues policy fields (optionalField keys p) =
      (fieldIssues policy fields p).filter fun i => !i.inField (o.waives mask fields) := by
    intro p hp
    have hdeclared : Fields.has o.shape p.1 = true := Fields.has_iff.mpr ⟨p, hp, rfl⟩
    rw [(optionalField_found keys (hfields p hp)).2,
      filter_fieldIssues _ (fun key => !o.waives mask fields key) fun _ _ => rfl,
      waives, hdeclared, hmask p hp, Bool.true_and]
    cases mask.marks p.1 && lacks fields p.1 <;> rfl
  have hkept : extra.filter (fun i => !i.inField (o.waives mask fields)) = extra := by
    refine List.filter_eq_self.mpr fun i hi => ?_
    rw [not_inField_of_undeclared (fun key hwaived => ?_) hextra i hi]
    · rfl
    · rw [waives, Bool.and_assoc, Bool.and_eq_true] at hwaived
      exact hwaived.1
  rw [(found_of_fields hfields hextra).2, List.filter_append, hkept, List.filter_flatMap,
    ← List.flatMap_congr hfield]
  exact congrArg (· ++ extra) (List.flatMap_map _ _ _)

/-- Fields that become optional are required again as if they had never been optional, and fields
that are required stay so. Optional fields lose the violations where the value lacks them, and
nothing else changes, so that no valid value becomes invalid. Required fields keep their places, and
none of them is optional. -/
theorem partial_required (o : ObjectParts) (version : Version) {mask : Mask} {args : List Value}
    (hmask : mask.Written args) :
    ∃ loose required : ObjectParts,
      o.toSchema.invoke? version "partial" args = some (.ok loose.toSchema) ∧
      o.toSchema.invoke? version "required" args = some (.ok required.toSchema) ∧
      loose.toSchema.invoke? version "required" args = some (.ok required.toSchema) ∧
      required.toSchema.invoke? version "required" args = some (.ok required.toSchema) ∧
      required.keys = o.keys ∧
      (∀ p ∈ required.shape, mask.marks p.1 = true → p.2.kind ≠ .optional) ∧
      ∀ policy : Option Policy,
        (∀ fields, o.toSchema.RunsThrough (policy.getD .strip) (.object fields) →
          loose.toSchema.RunsThrough (policy.getD .strip) (.object fields) ∧
          loose.toSchema.validate (policy.map Policy.name) (.object fields) =
            (o.toSchema.validate (policy.map Policy.name) (.object fields)).filter
              fun i => !i.inField (o.waives mask fields)) ∧
        ∀ v, o.toSchema.validate (policy.map Policy.name) v = [] →
          loose.toSchema.validate (policy.map Policy.name) v = [] := by
  obtain ⟨keys, hmarks, hpartial, hrequired⟩ := hmask.exists_derived o version
  refine ⟨o.makeOptional keys, o.makeRequired keys, hpartial, hrequired o rfl, ?_, ?_,
    o.keys_makeRequired keys, ObjectParts.kind_of_mem_makeRequired hmarks,
    fun policy => ⟨fun fields hruns => ?_, fun v hvalid => ?_⟩⟩
  · rw [← makeRequired_makeOptional]
    exact hrequired _ (o.keys_makeOptional keys)
  · have hagain := hrequired _ (o.keys_makeRequired keys)
    rwa [makeRequired_makeRequired] at hagain
  · rw [Schema.validate_getD, Schema.validate_getD]
    exact makeOptional_found hmarks hruns
  · rw [Schema.validate_getD] at hvalid ⊢
    cases v with
    | object fields =>
      rw [(makeOptional_found hmarks (Schema.runsThrough_of_valid hvalid)).2, hvalid]
      rfl
    | _ => exact hvalid

/-- One of the marked fields is optional twice, another mark is about no field, and the last one is
not true. Nothing is left of the violations but that of the field that is not marked. -/
theorem partial_required_missing :
    let o : ObjectParts :=
      ⟨some "row", [("a", .plain (.string [])),
        ("b", (Schema.plain (.number [])).optional.optional), ("c", .plain (.string []))], none,
        none, none⟩
    let flags : List (Text × Value) :=
      [("b", .bool true), ("d", .bool true), ("a", .bool true), ("c", .bool false)]
    Mask.Written (.marked flags) [.object flags] ∧
      o.toSchema.RunsThrough .strip (.object []) ∧
      o.toSchema.validate none (.object []) =
        [⟨[.field "a"], "Required"⟩, ⟨[.field "c"], "Required"⟩] ∧
      ∃ loose required : ObjectParts,
        o.toSchema.invoke? .v3_24_2 "partial" [.object flags] = some (.ok loose.toSchema) ∧
        loose.toSchema.invoke? .v3_24_2 "required" [.object flags] = some (.ok required.toSchema) ∧
        loose.toSchema.validate none (.object []) = [⟨[.field "c"], "Required"⟩] := by
  intro o flags
  have hruns : o.toSchema.RunsThrough .strip (.object []) := ⟨_, by with_unfolding_all rfl⟩
  have hfound : o.toSchema.validate none (.object []) =
      [⟨[.field "a"], "Required"⟩, ⟨[.field "c"], "Required"⟩] := by decide +kernel
  obtain ⟨loose, required, hloose, -, hrequired, -, -, -, hall⟩ :=
    partial_required o .v3_24_2 (Mask.Written.object flags)
  obtain ⟨-, hleft⟩ := (hall none).1 [] hruns
  refine ⟨.object flags, hruns, hfound, loose, required, hloose, hrequired, hleft.trans ?_⟩
  decide +kernel

/-- Picking fields and omitting them cuts an object in two: each half finds what the whole finds in
its fields, in the same order, so a value is valid exactly if it is so for both halves. -/
theorem pick_omit (o : ObjectParts) (version : Version) (flags : List (Text × Value))
    (hcatchall : o.catchall = none) :
    ∃ picked left : ObjectParts,
      o.toSchema.invoke? version "pick" [.object flags] = some (.ok picked.toSchema) ∧
      o.toSchema.invoke? version "omit" [.object flags] = some (.ok left.toSchema) ∧
      ∀ (policy : Option Policy) (fields : List (Text × Value)),
        o.unknownKeys.getD (policy.getD .strip) ≠ .strict →
        o.toSchema.RunsThrough (policy.getD .strip) (.object fields) →
          (picked.toSchema.RunsThrough (policy.getD .strip) (.object fields) ∧
            picked.toSchema.validate (policy.map Policy.name) (.object fields) =
              (o.toSchema.validate (policy.map Policy.name) (.object fields)).filter
                fun i => i.inField (marksTrue flags)) ∧
          (left.toSchema.RunsThrough (policy.getD .strip) (.object fields) ∧
            left.toSchema.validate (policy.map Policy.name) (.object fields) =
              (o.toSchema.validate (policy.map Policy.name) (.object fields)).filter
                fun i => !i.inField (marksTrue flags)) ∧
          (o.toSchema.validate (policy.map Policy.name) (.object fields) = [] ↔
            picked.toSchema.validate (policy.map Policy.name) (.object fields) = [] ∧
              left.toSchema.validate (policy.map Policy.name) (.object fields) = []) := by
  obtain ⟨keys, hmarks, hpick, homit⟩ := o.exists_selected version flags
  refine ⟨o.select keys.contains, o.select fun key => !keys.contains key, hpick, homit,
    fun policy fields hlax hruns => ?_⟩
  have hpicked := select_found (fun i => i.inField (marksTrue flags)) keys.contains
    (fun key _ => (hmarks key).symm) hcatchall hlax hruns
  have hleft := select_found (fun i => !i.inField (marksTrue flags)) (fun key => !keys.contains key)
    (fun key _ => congrArg (!·) (hmarks key).symm) hcatchall hlax hruns
  rw [Schema.validate_getD, Schema.validate_getD, Schema.validate_getD]
  refine ⟨hpicked, hleft, fun hvalid => ?_, fun ⟨hin, hout⟩ => ?_⟩
  · rw [hvalid] at hpicked hleft
    exact ⟨hpicked.2, hleft.2⟩
  · -- A violation would be found in one of the halves.
    rw [hpicked.2, List.filter_eq_nil_iff] at hin
    rw [hleft.2, List.filter_eq_nil_iff] at hout
    refine List.eq_nil_iff_forall_not_mem.mpr fun i hi => hout i hi ?_
    rw [Bool.eq_false_of_not_eq_true (hin i hi)]
    rfl

/-- A marked field and one that is missing, besides a field that nobody has declared. -/
theorem pick_omit_halves :
    let o : ObjectParts :=
      ⟨none, [("a", .plain (.string [])), ("b", .plain (.number []))], some .passthrough, none,
        none⟩
    let flags : List (Text × Value) := [("a", .bool true), ("b", .bool false), ("c", .bool true)]
    let fields : List (Text × Value) := [("c", .bool true), ("a", .bool true)]
    o.catchall = none ∧ o.unknownKeys.getD .strict ≠ .strict ∧
      o.toSchema.RunsThrough .strict (.object fields) ∧
      ∃ picked left : ObjectParts,
        o.toSchema.invoke? .v3_24_2 "pick" [.object flags] = some (.ok picked.toSchema) ∧
        o.toSchema.invoke? .v3_24_2 "omit" [.object flags] = some (.ok left.toSchema) ∧
        picked.toSchema.validate (some "strict") (.object fields) =
          [⟨[.field "a"], "Expected string, received boolean"⟩] ∧
        left.toSchema.validate (some "strict") (.object fields) =
          [⟨[.field "b"], "Required"⟩] := by
  intro o flags fields
  have hruns : o.toSchema.RunsThrough .strict (.object fields) := ⟨_, by with_unfolding_all rfl⟩
  obtain ⟨picked, left, hpick, homit, hall⟩ := pick_omit o .v3_24_2 flags rfl
  obtain ⟨⟨-, hpicked⟩, ⟨-, hleft⟩, -⟩ := hall (some .strict) fields (by decide) hruns
  exact ⟨rfl, by decide, hruns, picked, left, hpick, homit, hpicked.trans (by decide +kernel),
    hleft.trans (by decide +kernel)⟩

end ObjectParts

end Conform
