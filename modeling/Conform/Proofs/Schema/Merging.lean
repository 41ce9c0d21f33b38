import Conform.Proofs.Schema.Fields
import Conform.Proofs.Schema.Methods

/-!
# Merging and extending objects

A merged object has the fields of both: those of the second one take the places of fields with the
same keys, and new ones stand behind. All else but the description is the second one's. Objects may
be merged in any grouping, and an object may be extended at once or in parts.

## Main definitions

- `shapeValue` — a shape as the argument of a call
- `ObjectParts.merge_merge`, `ObjectParts.extend_extend` — what the operations do in a row
- `ObjectParts.merge_grouping` — the same of calls
-/

namespace Conform

/-- A shape as the argument of a call. -/
def shapeValue (shape : List (Text × Schema)) : Value :=
  .object (shape.map fun (key, s) => (key, .schema s))

/-- A shape is read back from the argument. -/
theorem shapeArgument_shapeValue (name : Text) (shape : List (Text × Schema)) :
    shapeArgument name (shapeValue shape) = .ok shape := by
  rw [shapeValue, shapeArgument]
  induction shape with
  | nil => rfl
  | cons field shape ih =>
    rw [List.map_cons, shapeFields, ih]
    rfl

namespace ObjectParts

theorem invoke?_merge (o other : ObjectParts) (version : Version) :
    o.toSchema.invoke? version "merge" [.schema other.toSchema] =
      some (.ok (o.merge other).toSchema) :=
  o.invoke?_eq version .merge [.schema other.toSchema]

theorem invoke?_extend (o : ObjectParts) (shape : List (Text × Schema)) (version : Version) :
    o.toSchema.invoke? version "extend" [shapeValue shape] =
      some (.ok (o.extend shape).toSchema) := by
  have hcall : (Method.object o .extend).call [shapeValue shape] =
      (shapeArgument "extend" (shapeValue shape) >>= fun found =>
        .ok (o.extend found).toSchema) := rfl
  rw [shapeArgument_shapeValue] at hcall
  exact (o.invoke?_eq version .extend [shapeValue shape]).trans (congrArg some hcall)

/-- Objects may be merged in any grouping. -/
theorem merge_merge {b : ObjectParts} (hb : Fields.Distinct b.shape) (a c : ObjectParts) :
    (a.merge b).merge c = a.merge (b.merge c) := by
  have hshape : Fields.merge (Fields.merge a.shape b.shape) c.shape =
      Fields.merge a.shape (Fields.merge b.shape c.shape) := hb.merge_assoc a.shape c.shape
  rw [merge, merge, merge, merge, hshape]

/-- Fields are added one shape after another or all at once. -/
theorem extend_extend {x : List (Text × Schema)} (hx : Fields.Distinct x) (a : ObjectParts)
    (y : List (Text × Schema)) :
    (a.extend x).extend y = a.extend (Fields.merge x y) := by
  have hshape : Fields.merge (Fields.merge a.shape x) y =
      Fields.merge a.shape (Fields.merge x y) := hx.merge_assoc a.shape y
  rw [extend, extend, extend, hshape]

/-- **Merging and extending**: three objects are merged to the same schema in either grouping, and
an object is extended by two shapes in a row as it is by the first one overridden by the second one.
Both give an object the same fields: its own in their order, with what the other shape has under
their keys, and behind them the new ones. All else but the description is the other object's if they
are merged. The keys of a shape are distinct, as they are in every schema that can be built. -/
theorem merge_grouping (version : Version) :
    (∀ a b c : ObjectParts, Fields.Distinct b.shape → ∃ ab bc abc : Schema,
      a.toSchema.invoke? version "merge" [.schema b.toSchema] = some (.ok ab) ∧
      b.toSchema.invoke? version "merge" [.schema c.toSchema] = some (.ok bc) ∧
      ab.invoke? version "merge" [.schema c.toSchema] = some (.ok abc) ∧
      a.toSchema.invoke? version "merge" [.schema bc] = some (.ok abc)) ∧
    (∀ (a : ObjectParts) (x y : List (Text × Schema)), Fields.Distinct x → ∃ ax axy : Schema,
      a.toSchema.invoke? version "extend" [shapeValue x] = some (.ok ax) ∧
      ax.invoke? version "extend" [shapeValue y] = some (.ok axy) ∧
      a.toSchema.invoke? version "extend" [shapeValue (Fields.merge x y)] = some (.ok axy)) ∧
    ∀ a b : ObjectParts, Fields.Distinct a.shape → Fields.Distinct b.shape →
      let shape := a.shape.map (fun p => (p.1, (Fields.get? b.shape p.1).getD p.2)) ++
        b.shape.filter fun p => !Fields.has a.shape p.1
      a.toSchema.invoke? version "merge" [.schema b.toSchema] =
        some (.ok { b with description := a.description, shape := shape }.toSchema) ∧
      a.toSchema.invoke? version "extend" [shapeValue b.shape] =
        some (.ok { a with shape := shape }.toSchema) := by
  refine ⟨fun a b c hb => ?merged, fun a x y hx => ?extended, fun a b ha hb => ?shapes⟩
  case merged =>
    have hgrouped := a.invoke?_merge (b.merge c) version
    rw [← merge_merge hb] at hgrouped
    exact ⟨_, _, _, a.invoke?_merge b version, b.invoke?_merge c version,
      (a.merge b).invoke?_merge c version, hgrouped⟩
  case extended =>
    have hgrouped := a.invoke?_extend (Fields.merge x y) version
    rw [← extend_extend hx] at hgrouped
    exact ⟨_, _, a.invoke?_extend x version, (a.extend x).invoke?_extend y version, hgrouped⟩
  case shapes =>
    rw [a.invoke?_merge b version, a.invoke?_extend b.shape version, merge, extend,
      ha.merge_eq hb]
    exact ⟨rfl, rfl⟩

/-- Three objects that share keys: the first places are kept, the last values and the strictness of
the last object count, and the description stays. -/
theorem merge_grouping_overlap :
    let text : Schema := .plain (.string [])
    let number : Schema := .plain (.number [])
    let flag : Schema := .plain .boolean
    let a : ObjectParts :=
      ⟨some "row", Fields.named [("id", text), ("name", text)], none, none, none⟩
    let b : ObjectParts :=
      ⟨none, Fields.named [("age", text), ("id", number)], none, some text, none⟩
    let c : ObjectParts := ⟨none, Fields.named [("age", flag)], some .strict, none, some "closed"⟩
    let abc : ObjectParts := ⟨some "row",
      Fields.named [("id", number), ("name", text), ("age", flag)], some .strict, none,
      some "closed"⟩
    let x := Fields.named [("age", text), ("id", number)]
    let y := Fields.named [("age", flag)]
    let ab : ObjectParts := { a with
      shape := Fields.named [("id", number), ("name", text), ("age", text)] }
    Fields.Distinct a.shape ∧ Fields.Distinct b.shape ∧ Fields.Distinct x ∧
      (∃ merged bc : Schema,
        a.toSchema.invoke? .v3_18_0 "merge" [.schema b.toSchema] = some (.ok merged) ∧
        b.toSchema.invoke? .v3_18_0 "merge" [.schema c.toSchema] = some (.ok bc) ∧
        merged.invoke? .v3_18_0 "merge" [.schema c.toSchema] = some (.ok abc.toSchema) ∧
        a.toSchema.invoke? .v3_18_0 "merge" [.schema bc] = some (.ok abc.toSchema)) ∧
      (∃ ax axy : Schema,
        a.toSchema.invoke? .v3_18_0 "extend" [shapeValue x] = some (.ok ax) ∧
        ax.invoke? .v3_18_0 "extend" [shapeValue y] = some (.ok axy) ∧
        a.toSchema.invoke? .v3_18_0 "extend" [shapeValue (Fields.merge x y)] = some (.ok axy)) ∧
      a.toSchema.invoke? .v3_18_0 "extend" [shapeValue b.shape] = some (.ok ab.toSchema) := by
  intro text number flag a b c abc x y ab
  have ha : Fields.Distinct a.shape := by decide
  have hb : Fields.Distinct b.shape := by decide
  have hx : Fields.Distinct x := by decide
  obtain ⟨hmerge, hextend, hshapes⟩ := merge_grouping .v3_18_0
  obtain ⟨merged, bc, abc', hmerged, hbc, habc, hgrouped⟩ := hmerge a b c hb
  -- What the calls give is known from the first grouping.
  obtain rfl : merged = (a.merge b).toSchema :=
    Except.ok.inj (Option.some.inj (hmerged.symm.trans (a.invoke?_merge b _)))
  obtain rfl : abc' = abc.toSchema :=
    Except.ok.inj (Option.some.inj (habc.symm.trans ((a.merge b).invoke?_merge c _)))
  exact ⟨ha, hb, hx, ⟨_, _, hmerged, hbc, habc, hgrouped⟩, hextend a x y hx,
    (hshapes a b ha hb).2⟩

end ObjectParts

end Conform
