import Conform.Schema.Basic

/-!
# Parts of schemas

A schema is a form over the schemas that it is made of. Statements about all schemas are proved
along these parts, and a condition on single forms is carried to whole schemas.

## Main definitions

- `Form.parts` — the schemas that a form is made of
- `Schema.induct` — induction along the parts
- `Schema.Everywhere` — a condition on the form of a schema and on those of all its parts
-/

namespace Conform

/-- The schemas that a form is made of. -/
def Form.parts : Form → List Schema
  | .object shape _ catchall _ => shape.map (·.2) ++ catchall.toList
  | .array element _ => [element]
  | .tuple items rest => items ++ rest.toList
  | .record key value => [key, value]
  | .union options => options
  | .discriminatedUnion _ options => options
  | .intersection left right => [left, right]
  | .optional inner => [inner]
  | .nullable inner => [inner]
  | .default inner _ => [inner]
  | _ => []

/-- A part is smaller than the form it belongs to. -/
theorem Form.sizeOf_lt_of_mem_parts {f : Form} {s : Schema} (h : s ∈ f.parts) :
    sizeOf s < sizeOf f := by
  cases f with
  | object shape unknownKeys catchall strictMessage =>
    simp only [parts, List.mem_append, List.mem_map, Option.mem_toList] at h
    rcases h with ⟨⟨key, t⟩, hmem, rfl⟩ | hrest
    · have hlt := List.sizeOf_lt_of_mem hmem
      simp only [Prod.mk.sizeOf_spec] at hlt
      simp only [Form.object.sizeOf_spec]
      omega
    · subst hrest
      simp only [Form.object.sizeOf_spec, Option.some.sizeOf_spec]
      omega
  | tuple items rest =>
    simp only [parts, List.mem_append, Option.mem_toList] at h
    rcases h with hmem | hrest
    · have hlt := List.sizeOf_lt_of_mem hmem
      simp only [Form.tuple.sizeOf_spec]
      omega
    · subst hrest
      simp only [Form.tuple.sizeOf_spec, Option.some.sizeOf_spec]
      omega
  | union options =>
    have hlt := List.sizeOf_lt_of_mem (show s ∈ options from h)
    simp only [Form.union.sizeOf_spec]
    omega
  | discriminatedUnion discriminator options =>
    have hlt := List.sizeOf_lt_of_mem (show s ∈ options from h)
    simp only [Form.discriminatedUnion.sizeOf_spec]
    omega
  | record key value =>
    simp only [parts, List.mem_cons, List.not_mem_nil, or_false] at h
    rcases h with rfl | rfl <;> simp only [Form.record.sizeOf_spec] <;> omega
  | intersection left right =>
    simp only [parts, List.mem_cons, List.not_mem_nil, or_false] at h
    rcases h with rfl | rfl <;> simp only [Form.intersection.sizeOf_spec] <;> omega
  | array element checks =>
    rw [List.mem_singleton.mp h, Form.array.sizeOf_spec]
    omega
  | optional inner =>
    rw [List.mem_singleton.mp h, Form.optional.sizeOf_spec]
    omega
  | nullable inner =>
    rw [List.mem_singleton.mp h, Form.nullable.sizeOf_spec]
    omega
  | default inner value =>
    rw [List.mem_singleton.mp h, Form.default.sizeOf_spec]
    omega
  | _ => exact absurd h List.not_mem_nil

namespace Schema

/-- Induction along the parts of schemas. -/
@[elab_as_elim]
theorem induct {motive : Schema → Prop}
    (mk : ∀ description form, (∀ s ∈ form.parts, motive s) → motive (.mk description form)) :
    ∀ s, motive s
  | .mk description form => mk description form fun s hs =>
    have _smaller := Form.sizeOf_lt_of_mem_parts hs
    induct mk s
termination_by s => sizeOf s
decreasing_by
  simp only [Schema.mk.sizeOf_spec]
  omega

/-- A condition on the form of a schema and on those of all its parts, however deep. -/
inductive Everywhere (p : Form → Prop) : Schema → Prop
  | mk {description : Option Text} {form : Form} (here : p form)
      (parts : ∀ s ∈ form.parts, Everywhere p s) : Everywhere p (.mk description form)

variable {p q : Form → Prop} {description : Option Text} {form : Form}

theorem Everywhere.here (h : Everywhere p (.mk description form)) : p form := by
  cases h with
  | mk here _ => exact here

theorem Everywhere.part (h : Everywhere p (.mk description form)) {s : Schema}
    (hs : s ∈ form.parts) : Everywhere p s := by
  cases h with
  | mk _ parts => exact parts s hs

/-- The description of a schema plays no part. -/
theorem Everywhere.describe (h : Everywhere p (.mk description form)) (other : Option Text) :
    Everywhere p (.mk other form) :=
  .mk h.here fun _ hs => h.part hs

end Schema

end Conform
