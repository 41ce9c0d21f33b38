import Conform.Schema.Building

/-!
# Methods bound to schemas

A method that is found by its name holds of its receiver what calls of it need. What is known of
calls is therefore told by cases: one for each kind of method, with the form of its receiver.

## Main definitions

- `Method.BoundTo` — a method holds parts of a schema
- `Schema.method?_boundTo` — the methods of a schema hold its parts
- `Schema.invoke?` — what a call by name comes to
- `ObjectParts.invoke?_eq` — all versions have the methods of objects
-/

namespace Conform

/-- A method holds of a schema what calls of it need. -/
inductive Method.BoundTo : Method → Schema → Prop
  | common (s : Schema) (m : CommonMethod) : BoundTo (.common s m) s
  | string (description : Option Text) (checks : List (Check StringRule)) (m : StringMethod) :
      BoundTo (.string description checks m) (.mk description (.string checks))
  | number (description : Option Text) (checks : List (Check NumberRule)) (m : NumberMethod) :
      BoundTo (.number description checks m) (.mk description (.number checks))
  | array (description : Option Text) (element : Schema) (checks : List (Check LengthRule))
      (m : ArrayMethod) :
      BoundTo (.array description element checks m) (.mk description (.array element checks))
  | object (parts : ObjectParts) (m : ObjectMethod) : BoundTo (.object parts m) parts.toSchema
  | enum (description : Option Text) (options : List Text) (m : EnumMethod) :
      BoundTo (.enum options m) (.mk description (.enum options))
  | rest (description : Option Text) (items : List Schema) (rest : Option Schema) :
      BoundTo (.rest items) (.mk description (.tuple items rest))
  | unwrapOptional (description : Option Text) (inner : Schema) :
      BoundTo (.unwrapOptional inner) (.mk description (.optional inner))
  | unwrapNullable (description : Option Text) (inner : Schema) :
      BoundTo (.unwrapNullable inner) (.mk description (.nullable inner))
  | removeDefault (description : Option Text) (inner : Schema) (value : Value) :
      BoundTo (.removeDefault inner) (.mk description (.default inner value))

namespace Schema

variable {version : Version} {s : Schema} {name : Text} {m : Method}

/-- What the methods of one kind of schemas hold of a schema of this kind. -/
theorem ownMethod?_boundTo (h : s.ownMethod? version name = some m) : m.BoundTo s := by
  obtain ⟨description, form⟩ := s
  cases form with
  | string checks =>
    obtain ⟨own, _, rfl⟩ := Option.map_eq_some_iff.mp h
    exact .string description checks own
  | number checks =>
    obtain ⟨own, _, rfl⟩ := Option.map_eq_some_iff.mp h
    exact .number description checks own
  | array element checks =>
    obtain ⟨own, _, rfl⟩ := Option.map_eq_some_iff.mp h
    exact .array description element checks own
  | object shape unknownKeys catchall strictMessage =>
    obtain ⟨own, _, rfl⟩ := Option.map_eq_some_iff.mp h
    exact .object ⟨description, shape, unknownKeys, catchall, strictMessage⟩ own
  | enum options =>
    obtain ⟨own, _, rfl⟩ := Option.map_eq_some_iff.mp h
    exact .enum description options own
  | tuple items rest =>
    obtain ⟨_, h⟩ := Option.ite_none_right_eq_some.mp h
    cases h
    exact .rest description items rest
  | optional inner =>
    obtain ⟨_, h⟩ := Option.ite_none_right_eq_some.mp h
    cases h
    exact .unwrapOptional description inner
  | nullable inner =>
    obtain ⟨_, h⟩ := Option.ite_none_right_eq_some.mp h
    cases h
    exact .unwrapNullable description inner
  | default inner value =>
    obtain ⟨_, h⟩ := Option.ite_none_right_eq_some.mp h
    cases h
    exact .removeDefault description inner value
  | _ => exact nomatch h

/-- A method that is found by its name holds what it needs of the schema that it was found for. -/
theorem method?_boundTo (h : s.method? version name = some m) : m.BoundTo s := by
  unfold method? at h
  -- Methods that all schemas have come first, then those of the form.
  split at h
  · cases h
    exact .common s _
  · exact ownMethod?_boundTo h

/-- What a call of the method with a name comes to, if the schema has it in the version. -/
def invoke? (version : Version) (s : Schema) (name : Text) (args : List Value) :
    Option (Build Schema) :=
  (s.method? version name).map fun m => m.call args

end Schema

/-- No method of all schemas has the name of a method of objects. -/
theorem Version.commonMethod?_objectName (version : Version) (m : ObjectMethod) :
    version.commonMethod? m.name = none := by
  cases version <;> cases m <;> rfl

theorem Version.objectMethod?_name (m : ObjectMethod) : objectMethod? m.name = some m := by
  cases m <;> rfl

/-- Objects have their methods in every version. -/
theorem ObjectParts.invoke?_eq (o : ObjectParts) (version : Version) (m : ObjectMethod)
    (args : List Value) :
    o.toSchema.invoke? version m.name args = some ((Method.object o m).call args) := by
  rw [Schema.invoke?, Schema.method?, Version.commonMethod?_objectName]
  dsimp only
  rw [toSchema, Schema.ownMethod?, Version.objectMethod?_name]
  rfl

end Conform
