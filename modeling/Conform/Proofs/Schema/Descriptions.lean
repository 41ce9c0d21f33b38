import Conform.Compile.Basic
import Conform.Proofs.Failing
import Conform.Proofs.Schema.Methods

/-!
# Descriptions along calls

Methods that refine a schema give a schema of the same kind. All but three of them keep its
description: what `rest` makes of a tuple, and `extract` and `exclude` of an enumeration, is built
anew and has none.

## Main definitions

- `Method.Refines` — the methods that refine a schema
- `Method.forgets` — those of them whose results have no description
- `Schema.RefinedBy` — a row of refining calls
- `Schema.refinedBy_description` — what becomes of a description along such a row
-/

namespace Conform

/-- The methods that refine a schema into one of its own kind. -/
def Method.Refines : Method → Prop
  | .common _ m => m = .readonly
  | .string _ _ _ | .number _ _ _ | .array _ _ _ _ | .enum _ _ | .rest _ => True
  | .object _ m => m ≠ .keyof
  | .unwrapOptional _ | .unwrapNullable _ | .removeDefault _ => False

/-- The refining methods that do not know the description of their receiver. -/
def Method.forgets : Method → Bool
  | .enum _ _ | .rest _ => true
  | _ => false

/-- A schema comes from another one by calls of refining methods, listed in the order of the
calls. -/
inductive Schema.RefinedBy (version : Version) : Schema → List Method → Schema → Prop
  | done (s : Schema) : RefinedBy version s [] s
  | call {s t u : Schema} {name : Text} {m : Method} {args : List Value} {methods : List Method}
      (bound : s.method? version name = some m) (refines : m.Refines) (result : m.call args = .ok t)
      (next : RefinedBy version t methods u) : RefinedBy version s (m :: methods) u

/-- Methods of objects give objects with the description of their receiver. Only the declared keys
are no object. -/
theorem ObjectMethod.exists_parts {m : ObjectMethod} {o : ObjectParts} {args : List Value}
    {t : Schema} (hm : m ≠ .keyof) (h : m.call o args = .ok t) :
    ∃ p : ObjectParts, t = p.toSchema ∧ p.description = o.description := by
  cases m with
  | passthrough | strip =>
    cases h
    exact ⟨_, rfl, rfl⟩
  | strict | catchall | extend | pickFields | omitFields | partialFields | requiredFields =>
    obtain ⟨_, _, h⟩ := bind_eq_ok.mp h
    cases h
    exact ⟨_, rfl, rfl⟩
  | merge =>
    unfold call at h
    dsimp only at h
    split at h
    · split at h
      · cases h
        exact ⟨_, rfl, rfl⟩
      · exact nomatch h
    · exact nomatch h
  | keyof => exact absurd rfl hm

/-- Methods of enumerations give enumerations without a description. -/
theorem EnumMethod.exists_options {m : EnumMethod} {options : List Text} {args : List Value}
    {t : Schema} (h : m.call options args = .ok t) : ∃ chosen, t = .plain (.enum chosen) := by
  have henum {chosen : List Text} (h : enumOf chosen = .ok t) : t = .plain (.enum chosen) := by
    unfold enumOf at h
    split at h
    · exact nomatch h
    · exact (Except.ok.inj h).symm
  unfold call at h
  generalize argument args 0 = first at h
  cases first with
  | array items => cases m <;> exact ⟨_, henum h⟩
  | _ => exact nomatch h

/-- A refining call gives a schema of the same kind, with the same description or with none. -/
theorem Method.BoundTo.refined {m : Method} {s t : Schema} {args : List Value}
    (hbound : m.BoundTo s) (hrefines : m.Refines) (h : m.call args = .ok t) :
    t.kind = s.kind ∧ t.description = if m.forgets then none else s.description := by
  obtain ⟨_, _, h⟩ := bind_eq_ok.mp h
  cases hbound with
  | common s m =>
    obtain rfl : m = .readonly := hrefines
    cases h
    exact ⟨rfl, rfl⟩
  | string | number | array | rest =>
    obtain ⟨_, _, h⟩ := bind_eq_ok.mp h
    cases h
    exact ⟨rfl, rfl⟩
  | object parts m =>
    obtain ⟨p, rfl, hdescription⟩ := ObjectMethod.exists_parts hrefines h
    exact ⟨rfl, hdescription⟩
  | enum description options m =>
    obtain ⟨chosen, rfl⟩ := EnumMethod.exists_options h
    exact ⟨rfl, rfl⟩
  | unwrapOptional | unwrapNullable | removeDefault => exact hrefines.elim

namespace Schema

variable {version : Version} {s t : Schema} {methods : List Method}

/-- A description is kept along refining calls, unless one of them forgets it. -/
theorem RefinedBy.kept (h : s.RefinedBy version methods t) :
    t.kind = s.kind ∧
      t.description = if methods.any Method.forgets then none else s.description := by
  induction h with
  | done s => exact ⟨rfl, rfl⟩
  | @call s t u name m args methods bound refines result _ ih =>
    obtain ⟨hkind, hdescription⟩ := (method?_boundTo bound).refined refines result
    refine ⟨ih.1.trans hkind, ?_⟩
    rw [ih.2, hdescription, List.any_cons]
    -- What is forgotten at the first call stays forgotten.
    cases m.forgets <;> simp

theorem invoke?_describe (version : Version) (s : Schema) (text : Text) :
    s.invoke? version "describe" [.text text] = some (.ok (s.describe text)) := by
  cases version <;> rfl

/-- **Descriptions**: along a row of refining calls the kind of a schema and its description are
kept, and so is a description that is given in front of the row. But nothing is left of it as soon
as the rest of a tuple is set, or options of an enumeration are extracted or excluded. -/
theorem refinedBy_description (h : s.RefinedBy version methods t) :
    t.kind = s.kind ∧
      (t.description = if methods.any Method.forgets then none else s.description) ∧
      ∀ (r : Schema) (text : Text),
        r.invoke? version "describe" [.text text] = some (.ok s) →
          t.kind = r.kind ∧
            t.description = if methods.any Method.forgets then none else some text := by
  obtain ⟨hkind, hdescription⟩ := h.kept
  refine ⟨hkind, hdescription, fun r text hdescribe => ?_⟩
  obtain rfl : r.describe text = s :=
    Except.ok.inj (Option.some.inj ((invoke?_describe version r text).symm.trans hdescribe))
  exact ⟨hkind, hdescription⟩

/-- A described object keeps its description when fields are picked from it and it is made
strict. -/
theorem refinedBy_description_object :
    let text : Schema := .plain (.string [])
    let pair : ObjectParts := ⟨none, Fields.named [("a", text), ("b", text)], none, none, none⟩
    let described : ObjectParts := { pair with description := some "pair" }
    let single : ObjectParts := { described with shape := Fields.named [("a", text)] }
    let strict : ObjectParts := { single with unknownKeys := some .strict }
    let methods : List Method := [.object described .pickFields, .object single .strict]
    described.toSchema.RefinedBy .v3_18_0 methods strict.toSchema ∧
      pair.toSchema.invoke? .v3_18_0 "describe" [.text "pair"] = some (.ok described.toSchema) ∧
      strict.toSchema.kind = pair.toSchema.kind ∧ strict.toSchema.description = some "pair" := by
  intro text pair described single strict methods
  have hpick : described.toSchema.method? .v3_18_0 "pick" =
      some (.object described .pickFields) := rfl
  have hpicked : (Method.object described .pickFields).call [.object [("a", .bool true)]] =
      .ok single.toSchema := rfl
  have hstrict : single.toSchema.method? .v3_18_0 "strict" = some (.object single .strict) := rfl
  have hclosed : (Method.object single .strict).call [] = .ok strict.toSchema := rfl
  have hrow : described.toSchema.RefinedBy .v3_18_0 methods strict.toSchema :=
    .call hpick nofun hpicked (.call hstrict nofun hclosed (.done _))
  have hdescribed := invoke?_describe .v3_18_0 pair.toSchema "pair"
  obtain ⟨hkind, hdescription⟩ := (refinedBy_description hrow).2.2 pair.toSchema "pair" hdescribed
  exact ⟨hrow, hdescribed, hkind, hdescription⟩

/-- A tuple whose rest is set after it has been described, and an enumeration from which options are
extracted: each is a schema of its own kind that has lost its description. -/
theorem refinedBy_forgotten :
    let any : Schema := .plain .any
    let row : Schema := .mk (some "row") (.tuple [any] none)
    let rows : Schema := .mk none (.tuple [any] (some any))
    let letter : Schema := .mk (some "letter") (.enum ["a", "b"])
    let vowel : Schema := .mk none (.enum ["a"])
    compile .v3_24_2 "z.tuple([z.any()]).describe('row')" = .ok row ∧
      row.RefinedBy .v3_24_2 [.rest [any]] rows ∧
      compile .v3_24_2 "z.tuple([z.any()]).describe('row').rest(z.any())" = .ok rows ∧
      compile .v3_24_2 "z.enum(['a', 'b']).describe('letter')" = .ok letter ∧
      letter.RefinedBy .v3_24_2 [.enum ["a", "b"] .extract] vowel ∧
      letter.RefinedBy .v3_24_2 [.enum ["a", "b"] .exclude] vowel ∧
      compile .v3_24_2 "z.enum(['a', 'b']).describe('letter').extract(['a'])" = .ok vowel ∧
      compile .v3_24_2 "z.enum(['a', 'b']).describe('letter').exclude(['b'])" = .ok vowel := by
  intro any row rows letter vowel
  have hrest : row.RefinedBy .v3_24_2 [.rest [any]] rows := by
    have hbound : row.method? .v3_24_2 "rest" = some (.rest [any]) := rfl
    have hresult : (Method.rest [any]).call [.schema any] = .ok rows := rfl
    exact .call hbound trivial hresult (.done rows)
  have hextract : letter.RefinedBy .v3_24_2 [.enum ["a", "b"] .extract] vowel := by
    have hbound : letter.method? .v3_24_2 "extract" = some (.enum ["a", "b"] .extract) := rfl
    have hresult : (Method.enum ["a", "b"] .extract).call [.array [.text "a"]] = .ok vowel := rfl
    exact .call hbound trivial hresult (.done vowel)
  have hexclude : letter.RefinedBy .v3_24_2 [.enum ["a", "b"] .exclude] vowel := by
    have hbound : letter.method? .v3_24_2 "exclude" = some (.enum ["a", "b"] .exclude) := rfl
    have hresult : (Method.enum ["a", "b"] .exclude).call [.array [.text "b"]] = .ok vowel := rfl
    exact .call hbound trivial hresult (.done vowel)
  refine ⟨?row, hrest, ?rows, ?letter, hextract, hexclude, ?extracted, ?excluded⟩
  all_goals with_unfolding_all rfl

end Schema

end Conform
