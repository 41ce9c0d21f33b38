import Conform.Proofs.Schema.Methods
import Conform.Proofs.Schema.Parts

/-!
# Masks of fields

Methods of objects that are about some of the declared fields take an object that marks them with
true. Other flags and other keys count for nothing. Where fields become optional or required, no
object at all stands for all declared fields.

## Main definitions

- `marksTrue`, `Mask` — what is marked
- `Mask.Written` — masks as arguments
- `Mask.Written.exists_derived`, `ObjectParts.exists_selected` — what the methods make of an object
- `ObjectParts.makeRequired_makeOptional` — optional fields that become required again
-/

namespace Conform

/-- Whether an object marks a key with true. -/
def marksTrue (flags : List (Text × Value)) (key : Text) : Bool :=
  flags.any fun
    | (k, .scalar (.bool true)) => k == key
    | _ => false

/-- The declared fields that a call is about: all of them, or those that an object marks. -/
inductive Mask
  | all
  | marked (flags : List (Text × Value))

/-- Whether a mask is about a declared field. -/
def Mask.marks : Mask → Text → Bool
  | .all, _ => true
  | .marked flags, key => marksTrue flags key

/-- Arguments stand for a mask. -/
inductive Mask.Written : Mask → List Value → Prop
  | missing : Written .all []
  | null : Written .all [.null]
  | object (flags : List (Text × Value)) : Written (.marked flags) [.object flags]

/-- Every object is a mask. -/
theorem exists_maskArgument (flags : List (Text × Value)) :
    ∃ keys : List Text, (∀ name, maskArgument name (.object flags) = .ok keys) ∧
      ∀ key, keys.contains key = marksTrue flags key := by
  refine ⟨_, fun _ => rfl, fun key => ?_⟩
  rw [List.contains_eq_any_beq, List.any_filterMap, marksTrue]
  congr 1
  funext ⟨k, flag⟩
  rcases flag with ⟨_ | _ | (_ | _) | _ | _⟩ | _ | _ <;> simp [Bool.beq_comm]

/-- A written mask is read as the declared keys that it is about. -/
theorem Mask.Written.exists_keys {mask : Mask} {args : List Value} (h : mask.Written args)
    (o : ObjectParts) :
    ∃ keys : List Text, (∀ name, maskOrAll name o.keys (argumentOrNull args 0) = .ok keys) ∧
      ∀ p ∈ o.shape, keys.contains p.1 = mask.marks p.1 := by
  cases h with
  | missing | null =>
    refine ⟨o.keys, fun _ => rfl, fun p hp => ?_⟩
    have hmem : p.1 ∈ o.keys := List.mem_map_of_mem hp
    exact List.contains_iff_mem.mpr hmem
  | object flags =>
    obtain ⟨keys, hkeys, hmarks⟩ := exists_maskArgument flags
    exact ⟨keys, hkeys, fun p _ => hmarks p.1⟩

/-- Without the optional wrappers around it a schema is not optional any more. -/
theorem Schema.required_required (s : Schema) : s.required.required = s.required := by
  induction s using Schema.induct with
  | mk description form ih =>
    cases form with
    | optional inner => exact ih inner List.mem_cons_self
    | _ => rfl

theorem Schema.kind_required (s : Schema) : s.required.kind ≠ .optional := by
  induction s using Schema.induct with
  | mk description form ih =>
    cases form with
    | optional inner => exact ih inner List.mem_cons_self
    | _ => exact nofun

namespace ObjectParts

theorem keys_makeOptional (o : ObjectParts) (keys : List Text) :
    (o.makeOptional keys).keys = o.keys := by
  simp [ObjectParts.keys, makeOptional]

theorem keys_makeRequired (o : ObjectParts) (keys : List Text) :
    (o.makeRequired keys).keys = o.keys := by
  simp [ObjectParts.keys, makeRequired]

/-- Fields that become required are not optional, not even in several layers. -/
theorem kind_of_mem_makeRequired {o : ObjectParts} {keys : List Text} {mask : Mask}
    (hmask : ∀ p ∈ o.shape, keys.contains p.1 = mask.marks p.1) :
    ∀ p ∈ (o.makeRequired keys).shape, mask.marks p.1 = true → p.2.kind ≠ .optional := by
  intro p hp hmarked
  obtain ⟨q, hq, rfl⟩ := List.mem_map.mp hp
  have hkey : keys.contains q.1 = true := (hmask q hq).trans hmarked
  dsimp only
  rw [if_pos hkey]
  exact q.2.kind_required

/-- Fields that become optional and then required lose all optional wrappers. -/
theorem makeRequired_makeOptional (o : ObjectParts) (keys : List Text) :
    (o.makeOptional keys).makeRequired keys = o.makeRequired keys := by
  rw [makeOptional, makeRequired, makeRequired]
  dsimp only
  rw [List.map_map]
  congr 1
  refine List.map_congr_left fun p _ => ?_
  by_cases hkey : keys.contains p.1 = true
  · simp only [Function.comp, if_pos hkey]
    rfl
  · simp only [Function.comp, if_neg hkey]

theorem makeRequired_makeRequired (o : ObjectParts) (keys : List Text) :
    (o.makeRequired keys).makeRequired keys = o.makeRequired keys := by
  rw [makeRequired, makeRequired]
  dsimp only
  rw [List.map_map]
  congr 1
  refine List.map_congr_left fun p _ => ?_
  by_cases hkey : keys.contains p.1 = true
  · simp only [Function.comp, if_pos hkey, Schema.required_required]
  · simp only [Function.comp, if_neg hkey]

end ObjectParts

/-- What the two methods make of an object when they get a mask. -/
theorem Mask.Written.exists_derived {mask : Mask} {args : List Value} (h : mask.Written args)
    (o : ObjectParts) (version : Version) :
    ∃ keys : List Text, (∀ p ∈ o.shape, keys.contains p.1 = mask.marks p.1) ∧
      o.toSchema.invoke? version "partial" args = some (.ok (o.makeOptional keys).toSchema) ∧
      ∀ other : ObjectParts, other.keys = o.keys →
        other.toSchema.invoke? version "required" args =
          some (.ok (other.makeRequired keys).toSchema) := by
  obtain ⟨keys, hkeys, hmarks⟩ := h.exists_keys o
  refine ⟨keys, hmarks, ?_, fun other hother => ?_⟩
  · have hcall : (Method.object o .partialFields).call args =
        (maskOrAll "partial" o.keys (argumentOrNull args 0) >>= fun keys =>
          .ok (o.makeOptional keys).toSchema) := by cases h <;> rfl
    rw [hkeys] at hcall
    exact (o.invoke?_eq version .partialFields args).trans (congrArg some hcall)
  · have hcall : (Method.object other .requiredFields).call args =
        (maskOrAll "required" other.keys (argumentOrNull args 0) >>= fun keys =>
          .ok (other.makeRequired keys).toSchema) := by cases h <;> rfl
    rw [hother, hkeys] at hcall
    exact (other.invoke?_eq version .requiredFields args).trans (congrArg some hcall)

/-- What is selected from an object by a mask, and what is left. -/
theorem ObjectParts.exists_selected (o : ObjectParts) (version : Version)
    (flags : List (Text × Value)) :
    ∃ keys : List Text, (∀ key, keys.contains key = marksTrue flags key) ∧
      o.toSchema.invoke? version "pick" [.object flags] = some (.ok (o.pick keys).toSchema) ∧
      o.toSchema.invoke? version "omit" [.object flags] =
        some (.ok (o.dropFields keys).toSchema) := by
  obtain ⟨keys, hkeys, hmarks⟩ := exists_maskArgument flags
  refine ⟨keys, hmarks, ?_, ?_⟩
  · have hcall : (Method.object o .pickFields).call [.object flags] =
        (maskArgument "pick" (.object flags) >>= fun keys => .ok (o.pick keys).toSchema) := rfl
    rw [hkeys] at hcall
    exact (o.invoke?_eq version .pickFields [.object flags]).trans (congrArg some hcall)
  · have hcall : (Method.object o .omitFields).call [.object flags] =
        (maskArgument "omit" (.object flags) >>= fun keys => .ok (o.dropFields keys).toSchema) :=
      rfl
    rw [hkeys] at hcall
    exact (o.invoke?_eq version .omitFields [.object flags]).trans (congrArg some hcall)

end Conform
