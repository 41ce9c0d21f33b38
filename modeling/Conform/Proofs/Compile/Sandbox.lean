import Conform.Proofs.Compile.Versions

/-!
# What sources can reach

A source that compiles has been evaluated as a whole, so that every node of its tree had a meaning
that fits the place where it stands. It names nothing but the root and what its version lists, and
all that it takes from there it calls.

## Main definitions

- `Version.Lists` — a version lists a name under a heading
- `Expr.Place`, `Expr.At` — the nodes of an expression and where they stand
- `Expr.Place.Allows`, `Expr.At.meaning` — what the nodes of an evaluated expression stand for
- `Expr.Sandboxed` — what an expression may reach
- `compile_sandboxed` — for a whole source
-/

namespace Conform

namespace Version

/-- A version lists a name under a heading of its vocabulary. -/
def Lists (v : Version) (heading name : Text) : Prop :=
  ∃ names, (heading, names) ∈ v.vocabulary ∧ name ∈ names

theorem mem_insertSorted {t u : Text} {texts : List Text} :
    t ∈ insertSorted u texts ↔ t = u ∨ t ∈ texts := by
  induction texts with
  | nil => exact List.mem_singleton.trans (or_iff_left List.not_mem_nil).symm
  | cons w texts ih =>
    rw [insertSorted]
    split
    · rw [List.mem_cons, ih, List.mem_cons]
      exact or_left_comm
    · exact List.mem_cons

theorem mem_sorted {t : Text} {texts : List Text} : t ∈ sorted texts ↔ t ∈ texts := by
  induction texts with
  | nil => exact Iff.rfl
  | cons u texts ih =>
    have hcons : sorted (u :: texts) = insertSorted u (sorted texts) := rfl
    rw [hcons, mem_insertSorted, ih, List.mem_cons]

variable {α : Type} {all : List α} {nameOf : α → Text} {x : α} {v : Version} {name : Text}

/-- What is found by its name alone is among the sorted names. -/
theorem mem_sorted_of_find? (hfind : (all.find? fun y => nameOf y == name) = some x) :
    name ∈ sorted (all.map nameOf) :=
  mem_sorted.mpr (mem_names (fun _ => id) hfind)

/-- What a version finds by its name is among its names. -/
theorem mem_namesOf {since : α → Version}
    (hfind : (all.find? fun y => nameOf y == name && v.includes (since y)) = some x) :
    name ∈ v.namesOf all nameOf since := by
  have hx : (nameOf x == name && v.includes (since x)) = true :=
    List.find?_some (p := fun y => nameOf y == name && v.includes (since y)) hfind
  obtain ⟨hname, hsince⟩ := Bool.and_eq_true_iff.mp hx
  rw [namesOf, mem_sorted]
  exact List.mem_map.mpr
    ⟨x, List.mem_filter.mpr ⟨List.mem_of_find?_eq_some hfind, hsince⟩, eq_of_beq hname⟩

/-- A heading is left out only if there are no names under it. -/
theorem lists_of_mem {heading : Text} {names : List Text} (hmem : (heading, names) ∈ v.headings)
    (hname : name ∈ names) : v.Lists heading name := by
  have hnames : (!names.isEmpty) = true := by
    rw [List.isEmpty_eq_false_iff.mpr (List.ne_nil_of_mem hname)]
    rfl
  exact ⟨names, List.mem_filter.mpr ⟨hmem, hnames⟩, hname⟩

theorem constructor?_lists {c : Constructor} (hfind : v.constructor? name = some c) :
    v.Lists "constructors" name :=
  lists_of_mem (.head _) (mem_namesOf hfind)

theorem commonMethod?_lists {m : CommonMethod} (hfind : v.commonMethod? name = some m) :
    v.Lists "common" name :=
  lists_of_mem (.tail _ (.head _)) (mem_namesOf hfind)

end Version

open Version

/-- The methods that only some schemas have are listed under their kinds. -/
theorem Schema.ownMethod?_lists {v : Version} {s : Schema} {name : Text} {m : Method}
    (hfind : s.ownMethod? v name = some m) : v.Lists s.kind.name name := by
  -- A kind with one method compares the name with its own.
  have hsingle {only : Text} {found : Method}
      (h : (if name = only then some found else none) = some m) :
      name ∈ v.namesOf [only] id fun _ => .v3_18_0 := by
    rw [(Option.ite_none_right_eq_some.mp h).1, namesOf, mem_sorted]
    exact List.mem_map.mpr
      ⟨only, List.mem_filter.mpr ⟨.head _, decide_eq_true (Nat.zero_le _)⟩, rfl⟩
  obtain ⟨description, form⟩ := s
  cases form with
  | array element checks =>
    obtain ⟨own, hown, _⟩ := Option.map_eq_some_iff.mp hfind
    exact lists_of_mem (List.mem_of_getElem? (i := 2) rfl) (mem_sorted_of_find? hown)
  | default inner value =>
    exact lists_of_mem (List.mem_of_getElem? (i := 3) rfl) (hsingle hfind)
  | enum options =>
    obtain ⟨own, hown, _⟩ := Option.map_eq_some_iff.mp hfind
    exact lists_of_mem (List.mem_of_getElem? (i := 4) rfl) (mem_namesOf hown)
  | nullable inner => exact lists_of_mem (List.mem_of_getElem? (i := 5) rfl) (hsingle hfind)
  | number checks =>
    obtain ⟨own, hown, _⟩ := Option.map_eq_some_iff.mp hfind
    exact lists_of_mem (List.mem_of_getElem? (i := 6) rfl) (mem_namesOf hown)
  | object shape unknownKeys catchall strictMessage =>
    obtain ⟨own, hown, _⟩ := Option.map_eq_some_iff.mp hfind
    exact lists_of_mem (List.mem_of_getElem? (i := 7) rfl) (mem_sorted_of_find? hown)
  | optional inner => exact lists_of_mem (List.mem_of_getElem? (i := 8) rfl) (hsingle hfind)
  | string checks =>
    obtain ⟨own, hown, _⟩ := Option.map_eq_some_iff.mp hfind
    exact lists_of_mem (List.mem_of_getElem? (i := 9) rfl) (mem_namesOf hown)
  | tuple items rest => exact lists_of_mem (List.mem_of_getElem? (i := 10) rfl) (hsingle hfind)
  | _ => exact nomatch hfind

theorem Schema.method?_lists {v : Version} {s : Schema} {name : Text} {m : Method}
    (hfind : s.method? v name = some m) : v.Lists "common" name ∨ v.Lists s.kind.name name := by
  unfold Schema.method? at hfind
  split at hfind
  · rename_i common hcommon
    exact .inl (commonMethod?_lists hcommon)
  · exact .inr (ownMethod?_lists hfind)

/-- Only constructors and methods can be called. -/
def Meaning.Callable (meaning : Meaning) : Prop :=
  (∃ c, meaning = .constructor c) ∨ ∃ name m, meaning = .method name m

namespace Expr

/-- Where a node stands: it is the whole expression, or some part of another node. -/
inductive Place
  | whole
  | target
  | callee
  | argument
  | element
  | property

/-- The nodes of an expression, each with the place where it stands. -/
inductive At (tree : Expr) : Place → Expr → Prop
  | whole : At tree .whole tree
  | target {place : Place} {span : Span} {target : Expr} {name : Text}
      (node : At tree place (.member span target name)) : At tree .target target
  | callee {place : Place} {span : Span} {callee : Expr} {arguments : List Expr}
      (node : At tree place (.call span callee arguments)) : At tree .callee callee
  | argument {place : Place} {span : Span} {callee : Expr} {arguments : List Expr}
      (node : At tree place (.call span callee arguments)) {e : Expr} (mem : e ∈ arguments) :
      At tree .argument e
  | element {place : Place} {span : Span} {elements : List Expr}
      (node : At tree place (.array span elements)) {e : Expr} (mem : e ∈ elements) :
      At tree .element e
  | property {place : Place} {span : Span} {properties : List (PropertyKey × Expr)}
      (node : At tree place (.object span properties)) {p : PropertyKey × Expr}
      (mem : p ∈ properties) : At tree .property p.2

/-- What a node may stand for at a place: the root and schemas have members, constructors and
methods are called, and anywhere else there is a value. -/
def Place.Allows : Place → Meaning → Prop
  | .target, meaning => meaning = .root ∨ ∃ s, meaning = .value (.schema s)
  | .callee, meaning => meaning.Callable
  | _, meaning => ∃ value, meaning = .value value

end Expr

theorem settled_eq_ok {node : Expr} {meaning : Meaning} {value : Value}
    (h : settled node meaning = .ok value) : meaning = .value value := by
  cases meaning with
  | value found =>
    cases h
    rfl
  | _ => exact nomatch h

section Evaluation

variable {v : Version} {budget : Nat} {span : Span} {meaning : Meaning}

/-- Expressions in a row have values only if each of them has one. -/
theorem valuesOf_mem {es : List Expr} {values : List Value}
    (h : valuesOf v budget es = .ok values) {e : Expr} (he : e ∈ es) :
    ∃ value, e.meaning v budget = .ok (.value value) := by
  induction es generalizing values with
  | nil => exact absurd he List.not_mem_nil
  | cons first es ih =>
    rw [valuesOf] at h
    obtain ⟨found, hfound, h⟩ := bind_eq_ok.mp h
    obtain ⟨value, hvalue, h⟩ := bind_eq_ok.mp h
    obtain ⟨rest, hrest, -⟩ := bind_eq_ok.mp h
    rcases List.mem_cons.mp he with rfl | he
    · exact ⟨value, settled_eq_ok hvalue ▸ hfound⟩
    · exact ih hrest he

/-- Properties in a row have values only if each of them has one. -/
theorem fieldsOf_mem {ps : List (PropertyKey × Expr)} {fields : List (Text × Value)}
    (h : fieldsOf v budget ps = .ok fields) {p : PropertyKey × Expr} (hp : p ∈ ps) :
    ∃ value, p.2.meaning v budget = .ok (.value value) := by
  induction ps generalizing fields with
  | nil => exact absurd hp List.not_mem_nil
  | cons first ps ih =>
    rw [fieldsOf] at h
    obtain ⟨found, hfound, h⟩ := bind_eq_ok.mp h
    obtain ⟨value, hvalue, h⟩ := bind_eq_ok.mp h
    obtain ⟨rest, hrest, -⟩ := bind_eq_ok.mp h
    rcases List.mem_cons.mp hp with rfl | hp
    · exact ⟨value, settled_eq_ok hvalue ▸ hfound⟩
    · exact ih hrest hp

/-- An array stands for something only if its elements have values. -/
theorem meaning_array {elements : List Expr}
    (h : (Expr.array span elements).meaning v budget = .ok meaning) :
    ∃ values, valuesOf v (budget - 1) elements = .ok values ∧ meaning = .value (.array values) := by
  rw [Expr.meaning] at h
  obtain ⟨values, hvalues, h⟩ := bind_eq_ok.mp (eq_ok_of_budget h)
  cases h
  exact ⟨values, hvalues, rfl⟩

/-- An object stands for something only if its properties have values. -/
theorem meaning_object {properties : List (PropertyKey × Expr)}
    (h : (Expr.object span properties).meaning v budget = .ok meaning) :
    ∃ fields, fieldsOf v (budget - 1) properties = .ok fields ∧
      meaning = .value (.object (Fields.ofList fields)) := by
  rw [Expr.meaning] at h
  obtain ⟨fields, hfields, h⟩ := bind_eq_ok.mp (eq_ok_of_budget h)
  cases h
  exact ⟨fields, hfields, rfl⟩

/-- A member is a constructor of the root or a method of a schema. -/
theorem meaning_member {target : Expr} {name : Text}
    (h : (Expr.member span target name).meaning v budget = .ok meaning) :
    ∃ found, target.meaning v (budget - 1) = .ok found ∧
      ((found = .root ∧ ∃ c, v.constructor? name = some c ∧ meaning = .constructor c) ∨
        ∃ s m, found = .value (.schema s) ∧ s.method? v name = some m ∧
          meaning = .method name m) := by
  rw [Expr.meaning] at h
  obtain ⟨found, hfound, h⟩ := bind_eq_ok.mp (eq_ok_of_budget h)
  refine ⟨found, hfound, ?_⟩
  unfold memberMeaning at h
  split at h
  · split at h
    · rename_i c hc
      cases h
      exact .inl ⟨rfl, c, hc, rfl⟩
    · exact nomatch h
  · rename_i s
    split at h
    · rename_i m hm
      cases h
      exact .inr ⟨s, m, rfl, hm, rfl⟩
    · exact nomatch h
  all_goals exact nomatch h

theorem callResult_schema {node : Expr} {name : Text} {build : Build Schema}
    (h : callResult node name build = .ok meaning) : ∃ s, meaning = .value (.schema s) := by
  unfold callResult at h
  split at h
  · rename_i s
    cases h
    exact ⟨s, rfl⟩
  all_goals exact nomatch h

/-- A call is one of a constructor or of a method, its arguments have values, and it gives a
schema. -/
theorem meaning_call {callee : Expr} {arguments : List Expr}
    (h : (Expr.call span callee arguments).meaning v budget = .ok meaning) :
    (∃ found, callee.meaning v (budget - 1) = .ok found ∧ found.Callable) ∧
      (∃ values, valuesOf v (budget - 1) arguments = .ok values) ∧
      ∃ s, meaning = .value (.schema s) := by
  rw [Expr.meaning] at h
  obtain ⟨found, hfound, h⟩ := bind_eq_ok.mp (eq_ok_of_budget h)
  cases found with
  | constructor c =>
    obtain ⟨values, hvalues, h⟩ := bind_eq_ok.mp h
    exact ⟨⟨_, hfound, .inl ⟨c, rfl⟩⟩, ⟨values, hvalues⟩, callResult_schema h⟩
  | method name m =>
    obtain ⟨values, hvalues, h⟩ := bind_eq_ok.mp h
    exact ⟨⟨_, hfound, .inr ⟨name, m, rfl⟩⟩, ⟨values, hvalues⟩, callResult_schema h⟩
  | value _ | root => exact nomatch h

/-- What has a meaning within less room has it within more. -/
theorem meaning_of_le {e : Expr} {less more : Nat} (hbudget : less ≤ more)
    (h : e.meaning v less = .ok meaning) : e.meaning v more = .ok meaning :=
  meaning_mono (Nat.le_refl _) hbudget e meaning h

end Evaluation

namespace Expr

variable {v : Version} {tree e : Expr} {place : Place}

/-- Every node of an expression that has a value stands for something that its place allows. -/
theorem At.meaning {value : Value} (hvalue : tree.evaluate v = .ok value)
    (h : tree.At place e) :
    ∃ meaning, e.meaning v evaluationLimit = .ok meaning ∧ place.Allows meaning := by
  -- The parts of a node are evaluated with less room than the node, but what they stand for they
  -- stand for with all the room.
  have hroom {e : Expr} {meaning : Meaning}
      (he : e.meaning v (evaluationLimit - 1) = .ok meaning) :
      e.meaning v evaluationLimit = .ok meaning := meaning_of_le (Nat.sub_le _ _) he
  induction h with
  | whole =>
    obtain ⟨meaning, hmeaning, hsettled⟩ := bind_eq_ok.mp hvalue
    exact ⟨meaning, hmeaning, value, settled_eq_ok hsettled⟩
  | target node ih =>
    obtain ⟨meaning, hmeaning, -⟩ := ih
    obtain ⟨found, hfound, hgranted⟩ := meaning_member hmeaning
    refine ⟨found, hroom hfound, ?_⟩
    rcases hgranted with ⟨hroot, -⟩ | ⟨s, m, hschema, -⟩
    · exact .inl hroot
    · exact .inr ⟨s, hschema⟩
  | callee node ih =>
    obtain ⟨meaning, hmeaning, -⟩ := ih
    obtain ⟨⟨found, hfound, hallowed⟩, -⟩ := meaning_call hmeaning
    exact ⟨found, hroom hfound, hallowed⟩
  | argument node mem ih =>
    obtain ⟨meaning, hmeaning, -⟩ := ih
    obtain ⟨-, ⟨values, hvalues⟩, -⟩ := meaning_call hmeaning
    obtain ⟨found, hfound⟩ := valuesOf_mem hvalues mem
    exact ⟨_, hroom hfound, found, rfl⟩
  | element node mem ih =>
    obtain ⟨meaning, hmeaning, -⟩ := ih
    obtain ⟨values, hvalues, -⟩ := meaning_array hmeaning
    obtain ⟨found, hfound⟩ := valuesOf_mem hvalues mem
    exact ⟨_, hroom hfound, found, rfl⟩
  | property node mem ih =>
    obtain ⟨meaning, hmeaning, -⟩ := ih
    obtain ⟨fields, hfields, -⟩ := meaning_object hmeaning
    obtain ⟨found, hfound⟩ := fieldsOf_mem hfields mem
    exact ⟨_, hroom hfound, found, rfl⟩

/-- A version grants a member: of the root, if it lists a constructor with this name, and of a
schema, if it lists a method with this name for all schemas or for those of its kind. -/
def Grants (v : Version) (target : Expr) (name : Text) : Prop :=
  (target.meaning v evaluationLimit = .ok .root ∧ v.Lists "constructors" name) ∨
    ∃ s, target.evaluate v = .ok (.schema s) ∧ (v.Lists "common" name ∨ v.Lists s.kind.name name)

/-- What an expression may reach in a version. -/
structure Sandboxed (v : Version) (tree : Expr) : Prop where
  /-- There is no free name but the root, of which only members are taken. -/
  identifier : ∀ place span name, tree.At place (.identifier span name) →
    name = rootName ∧ place = .target
  /-- Members are granted by the version, and they are called: none of them is left as an argument,
  an element, the value of a property, the target of another member or the whole expression. -/
  member : ∀ place span target name, tree.At place (.member span target name) →
    Grants v target name ∧ place = .callee
  /-- Nothing but members is called. -/
  call : ∀ place span callee arguments, tree.At place (.call span callee arguments) →
    ∃ span' target name, callee = .member span' target name

/-- A name that has a meaning is the root's. -/
theorem meaning_identifier {budget : Nat} {span : Span} {name : Text} {meaning : Meaning}
    (h : (Expr.identifier span name).meaning v budget = .ok meaning) :
    name = rootName ∧ meaning = .root := by
  rw [Expr.meaning] at h
  split at h
  · rename_i hname
    cases h
    exact ⟨hname, rfl⟩
  · cases h

/-- The root may only stand where members are taken from it. -/
theorem Place.eq_target (h : place.Allows .root) : place = .target := by
  cases place with
  | target => rfl
  | callee => rcases h with ⟨c, hc⟩ | ⟨name, m, hm⟩ <;> contradiction
  | whole | argument | element | property =>
    obtain ⟨value, hvalue⟩ := h
    contradiction

/-- Constructors and methods may only stand where they are called. -/
theorem Place.eq_callee {meaning : Meaning} (h : place.Allows meaning)
    (hcalled : meaning.Callable) : place = .callee := by
  cases place with
  | callee => rfl
  | target => rcases hcalled with ⟨c, rfl⟩ | ⟨name, m, rfl⟩ <;> simp [Place.Allows] at h
  | whole | argument | element | property =>
    obtain ⟨value, rfl⟩ := h
    simp [Meaning.Callable] at hcalled

/-- What is called is a member. -/
theorem eq_member {budget : Nat} {meaning : Meaning} (h : e.meaning v budget = .ok meaning)
    (hcalled : meaning.Callable) : ∃ span target name, e = .member span target name := by
  cases e with
  | member span target name => exact ⟨span, target, name, rfl⟩
  | identifier span name =>
    obtain ⟨-, rfl⟩ := meaning_identifier h
    simp [Meaning.Callable] at hcalled
  | literal span value =>
    rw [Expr.meaning] at h
    cases h
    simp [Meaning.Callable] at hcalled
  | regex span source flags =>
    rw [Expr.meaning] at h
    obtain ⟨p, -, h⟩ := bind_eq_ok.mp h
    cases h
    simp [Meaning.Callable] at hcalled
  | array span elements =>
    obtain ⟨values, -, rfl⟩ := meaning_array h
    simp [Meaning.Callable] at hcalled
  | object span properties =>
    obtain ⟨fields, -, rfl⟩ := meaning_object h
    simp [Meaning.Callable] at hcalled
  | call span callee arguments =>
    obtain ⟨-, -, s, rfl⟩ := meaning_call h
    simp [Meaning.Callable] at hcalled

/-- An expression that has a value reaches nothing else. -/
theorem evaluate_sandboxed {value : Value} (hvalue : tree.evaluate v = .ok value) :
    tree.Sandboxed v where
  identifier place span name node := by
    obtain ⟨meaning, hmeaning, hallowed⟩ := node.meaning hvalue
    obtain ⟨hname, rfl⟩ := meaning_identifier hmeaning
    exact ⟨hname, Place.eq_target hallowed⟩
  member place span target name node := by
    obtain ⟨meaning, hmeaning, hallowed⟩ := node.meaning hvalue
    obtain ⟨found, hfound, hgranted⟩ := meaning_member hmeaning
    have hfound : target.meaning v evaluationLimit = .ok found :=
      meaning_of_le (Nat.sub_le _ _) hfound
    rcases hgranted with ⟨rfl, c, hc, rfl⟩ | ⟨s, m, rfl, hm, rfl⟩
    · exact ⟨.inl ⟨hfound, constructor?_lists hc⟩, Place.eq_callee hallowed (.inl ⟨c, rfl⟩)⟩
    · have hschema : target.evaluate v = .ok (.schema s) := bind_eq_ok.mpr ⟨_, hfound, rfl⟩
      exact ⟨.inr ⟨s, hschema, Schema.method?_lists hm⟩,
        Place.eq_callee hallowed (.inr ⟨name, m, rfl⟩)⟩
  call place span callee arguments node := by
    obtain ⟨meaning, hmeaning, -⟩ := node.meaning hvalue
    obtain ⟨⟨found, hfound, hcalled⟩, -⟩ := meaning_call hmeaning
    exact eq_member hfound hcalled

end Expr

/-- A source that compiles in a version has a tree that reaches nothing but what the version grants,
and the schema is the value of this tree. -/
theorem compile_sandboxed {v : Version} {source : Text} {s : Schema}
    (h : compile v source = .ok s) :
    ∃ tree, Expr.ofSource source = .ok tree ∧ tree.evaluate v = .ok (.schema s) ∧
      tree.Sandboxed v := by
  unfold compile at h
  split at h
  · exact nomatch h
  · rename_i tree htree
    split at h
    · exact nomatch h
    · rename_i found hvalue
      cases h
      exact ⟨tree, htree, hvalue, Expr.evaluate_sandboxed hvalue⟩
    · exact nomatch h

/-- A source with constructors, methods and a nested property in the oldest version. -/
theorem compile_sandboxed_property :
    let source : Text := "z.object(\x7b a: z.array(z.string().nonempty()) \x7d).strict()"
    ∃ s tree, compile .v3_18_0 source = .ok s ∧ Expr.ofSource source = .ok tree ∧
      tree.evaluate .v3_18_0 = .ok (.schema s) ∧ tree.Sandboxed .v3_18_0 := by
  intro source
  have hsource : ∃ s, compile .v3_18_0 source = .ok s :=
    ⟨.plain (.object [(Text.ofString "a", .plain (.array
      (.plain (.string [⟨.min 1, none⟩])) []))] (some .strict) none none),
      by with_unfolding_all rfl⟩
  obtain ⟨s, hs⟩ := hsource
  obtain ⟨tree, htree, hvalue, hsandboxed⟩ := compile_sandboxed hs
  exact ⟨s, tree, hs, htree, hvalue, hsandboxed⟩

end Conform
