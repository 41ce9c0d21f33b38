import Conform.Proofs.Checking.Conformance
import Conform.Proofs.Checking.Reach

/-!
# Where violations are

A check puts its violations where the path of its context leads and touches nothing else of the
context. The path of every violation leads to a part of the checked value, or to a key that an
object should have.

## Main definitions

- `Schema.check_run` — a check in any context notes what validation finds at the root
- `Value.at?` — following a path
- `Schema.Locates` — the keys at which a schema puts violations
- `Schema.validate_located` — every violation is at such a key
-/

namespace Conform

open Walk

theorem Schema.issues_eq {policy : Policy} {s : Schema} {value : Value}
    {outcome : Except Abort PUnit} {found : List Issue}
    (h : Yields policy (s.check value) outcome found) :
    s.issues policy value = outcome.map fun _ => found := by
  rw [issues, h [] [], Issue.under_nil, List.map_id, List.nil_append]
  cases outcome <;> rfl

/-- A check with known violations runs through and finds them. -/
theorem Schema.yields_of_issues {policy : Policy} {s : Schema} {value : Value}
    {found : List Issue} (h : s.issues policy value = .ok found) :
    Yields policy (s.check value) (.ok ()) found := by
  obtain ⟨outcome, issues, hyields, _⟩ := s.check_finds policy value
  rw [issues_eq hyields] at h
  cases outcome with
  | ok _ =>
    obtain rfl : issues = found := Except.ok.inj h
    exact hyields
  | error e => exact nomatch h

/-- What a walk finds is what validation reports. -/
theorem Schema.validate_of_ok {s : Schema} {value : Value} {found : List Issue}
    (policy : Option Policy) (h : s.issues (policy.getD .strip) value = .ok found) :
    s.validate (policy.map Policy.name) value = found := by
  unfold validate
  simp only [Policy.ofName?_name, h]

/-- A stop is all that validation reports. -/
theorem Schema.validate_of_error {s : Schema} {value : Value} {e : Abort}
    (policy : Option Policy) (h : s.issues (policy.getD .strip) value = .error e) :
    s.validate (policy.map Policy.name) value =
      rootIssue ("Schema evaluation error: " ++ e.message) := by
  unfold validate
  simp only [Policy.ofName?_name, h]

/-- A value is valid if its check runs through and finds nothing. -/
theorem Schema.validates_iff {policy : Policy} {s : Schema} {v : Value} :
    s.validate (some policy.name) v = [] ↔ Yields policy (s.check v) (.ok ()) [] := by
  obtain ⟨outcome, found, hyields, _⟩ := s.check_finds policy v
  constructor
  · intro hvalid
    cases outcome with
    | ok _ =>
      have hfound := validate_of_ok (some policy) (issues_eq hyields)
      obtain rfl : found = [] := hfound.symm.trans hvalid
      exact hyields
    | error e =>
      have hstopped := validate_of_error (some policy) (issues_eq hyields)
      exact absurd (hstopped.symm.trans hvalid) (List.cons_ne_nil _ _)
  · exact fun h => validate_of_ok (some policy) (issues_eq h)

/-- In any context a check adds to the violations noted before those that validation finds at the
root under the same policy, with the path of the context in front of theirs, and changes nothing
else. If it stops, so does validation, and the path is restored all the same. -/
theorem Schema.check_run (s : Schema) (value : Value) (c : Context) :
    match (s.check value).run.run c with
    | (.ok _, d) =>
      d = { c with
        issues := c.issues ++
          (s.validate (some c.policy.name) value).map (Issue.under c.path) }
    | (.error e, d) => s.issues c.policy value = .error e ∧ d.path = c.path := by
  obtain ⟨outcome, found, hyields, _⟩ := s.check_finds c.policy value
  have hissues := issues_eq hyields
  have hrun : (s.check value).run.run c =
      (outcome, { c with issues := c.issues ++ found.map (Issue.under c.path) }) :=
    hyields c.path c.issues
  rw [hrun]
  cases outcome with
  | ok _ =>
    have hvalidate : s.validate (some c.policy.name) value = found :=
      validate_of_ok (some c.policy) hissues
    exact congrArg (fun issues : List Issue =>
      { c with issues := c.issues ++ issues.map (Issue.under c.path) }) hvalidate.symm
  | error e => exact ⟨hissues, rfl⟩

/-- The part of a value under a key. -/
def Value.part? : Value → Key → Option Value
  | .array items, .index n => items[n]?
  | .object fields, .field name => Fields.get? fields name
  | _, _ => none

/-- What a path leads to, followed step by step. -/
def Value.at? (v : Value) (path : List Key) : Option Value := path.foldlM Value.part? v

/-- No object in a value, however deep, has a key twice. -/
inductive Value.Distinct : Value → Prop
  | scalar (s : Scalar) : Distinct (.scalar s)
  | date (d : Date) : Distinct (.date d)
  | pattern (p : Pattern) : Distinct (.pattern p)
  | schema (s : Schema) : Distinct (.schema s)
  | array {items : List Value} (each : ∀ v ∈ items, Distinct v) : Distinct (.array items)
  | object {fields : List (Text × Value)} (distinct : Fields.Distinct fields)
      (each : ∀ p ∈ fields, Distinct p.2) : Distinct (.object fields)

/-- Where in a value a schema puts violations of its own or of its parts: at the elements of an
array, at the entries of a record, at the declared fields of an object whether or not it has them,
at other fields of an object that has them, and at the discriminator. -/
def Schema.Locates (s : Schema) (v : Value) (key : Key) : Prop :=
  match s.form, v, key with
  | .array _ _, .array items, .index n => n < items.length
  | .tuple _ _, .array items, .index n => n < items.length
  | .record _ _, .object fields, .field name => Fields.has fields name = true
  | .object shape _ catchall _, .object fields, .field name =>
    Fields.has shape name = true ∨ (catchall.isSome = true ∧ Fields.has fields name = true)
  | .discriminatedUnion discriminator _, .object _, .field name => name = discriminator
  | _, _, _ => False

/-- Arrays and objects have parts. -/
def Value.HasParts : Value → Prop
  | .array _ => True
  | .object _ => True
  | _ => False

namespace Value

variable {v w x : Value} {p q : List Key}

theorem at?_singleton (v : Value) (key : Key) : v.at? [key] = v.part? key :=
  bind_pure (v.part? key)

theorem at?_append (v : Value) (p q : List Key) :
    v.at? (p ++ q) = (v.at? p).bind fun w => w.at? q :=
  List.foldlM_append

/-- No path leads on from a value without parts. -/
theorem eq_of_at?_of_not_hasParts (hv : ¬v.HasParts) (h : v.at? q = some w) : w = v := by
  cases q with
  | nil => exact (Option.some.inj h).symm
  | cons key q =>
    have hnone : v.part? key = none := by
      cases v <;> first | rfl | exact absurd trivial hv
    rw [at?, List.foldlM_cons, hnone] at h
    exact nomatch h

/-- Paths are followed one after another. -/
theorem at?_append_of_hasParts (hp : w.HasParts → v.at? p = some w) (hx : x.HasParts)
    (hq : w.at? q = some x) : v.at? (p ++ q) = some x := by
  by_cases hw : w.HasParts
  · rw [at?_append, hp hw, Option.bind_some, hq]
  · obtain rfl := eq_of_at?_of_not_hasParts hw hq
    exact absurd hx hw

end Value

namespace Schema

variable {s t : Schema} {v w : Value} {p path : List Key}

theorem Locates.hasParts {key : Key} (h : s.Locates v key) : v.HasParts := by
  unfold Locates at h
  split at h <;> trivial

/-- The second one of the schemas is a part of the first. -/
theorem Checks.mem_parts (h : s.Checks v p t w) : t ∈ s.form.parts := by
  cases h with
  | field declared => exact List.mem_append_left _ (List.mem_map_of_mem declared)
  | extra => exact List.mem_append_right _ (Option.mem_toList.mpr rfl)
  | item _ own _ => exact List.mem_append_left _ (List.mem_of_getElem? own)
  | rest => exact List.mem_append_right _ (Option.mem_toList.mpr rfl)
  | tagged first => exact List.mem_of_find?_eq_some first
  | entry => exact List.mem_cons_of_mem _ List.mem_cons_self
  | right => exact List.mem_cons_of_mem _ List.mem_cons_self
  | _ => exact List.mem_cons_self

/-- A check goes no further than one key at a time, and only to keys where it may put violations. -/
theorem Checks.locates (h : s.Checks v p t w) : p = [] ∨ ∃ key, p = [key] ∧ s.Locates v key := by
  cases h with
  | field declared => exact .inr ⟨_, rfl, .inl (Fields.has_iff.mpr ⟨_, declared, rfl⟩)⟩
  | extra undeclared =>
    have hmem := (List.mem_filter.mp undeclared).1
    exact .inr ⟨_, rfl, .inr ⟨rfl, Fields.has_iff.mpr ⟨_, hmem, rfl⟩⟩⟩
  | element item => exact .inr ⟨_, rfl, (List.getElem?_eq_some_iff.mp item).1⟩
  | item _ _ value => exact .inr ⟨_, rfl, (List.getElem?_eq_some_iff.mp value).1⟩
  | rest _ value => exact .inr ⟨_, rfl, (List.getElem?_eq_some_iff.mp value).1⟩
  | key entry => exact .inr ⟨_, rfl, Fields.has_iff.mpr ⟨_, entry, rfl⟩⟩
  | entry entry => exact .inr ⟨_, rfl, Fields.has_iff.mpr ⟨_, entry, rfl⟩⟩
  | _ => exact .inl rfl

/-- Without defaults a check comes to parts of the value, or to values without parts: the keys of
records, and absent fields. -/
theorem Checks.at? (h : s.Checks v p t w) (hs : s.kind ≠ .default) (hv : v.Distinct) :
    w.Distinct ∧ (w.HasParts → v.at? p = some w) := by
  cases h with
  | @field _ _ _ _ _ fields key _ declared =>
    rw [Value.at?_singleton, Value.part?, fieldValue]
    cases hv with
    | object distinct each =>
      rcases hget : Fields.get? fields key with _ | w
      · exact ⟨.scalar .undefined, fun hparts => hparts.elim⟩
      · exact ⟨each _ (Fields.mem_of_get? hget), fun _ => rfl⟩
  | extra undeclared =>
    rw [Value.at?_singleton, Value.part?]
    have hmem := (List.mem_filter.mp undeclared).1
    cases hv with
    | object distinct each => exact ⟨each _ hmem, fun _ => distinct.get?_eq_some hmem⟩
  | element value | item _ _ value | rest _ value =>
    rw [Value.at?_singleton, Value.part?]
    cases hv with
    | array each => exact ⟨each _ (List.mem_of_getElem? value), fun _ => value⟩
  | key => exact ⟨.scalar _, fun hparts => hparts.elim⟩
  | entry entry =>
    rw [Value.at?_singleton, Value.part?]
    cases hv with
    | object distinct each => exact ⟨each _ entry, fun _ => distinct.get?_eq_some entry⟩
  | default | fallback => exact absurd rfl hs
  | _ => exact ⟨hv, fun _ => rfl⟩

/-- Where a check may note violations: at the value itself, or at a key where a schema that it comes
to puts them. -/
theorem Notes.located (h : s.Notes v path) (hs : s.Everywhere fun form => form.kind ≠ .default)
    (hv : v.Distinct) :
    path = [] ∨ ∃ q key w t, path = q ++ [key] ∧ v.at? q = some w ∧ s.Reaches v q t w ∧
      t.Locates w key := by
  induction h with
  | here => exact .inl rfl
  | tag => exact .inr ⟨[], _, _, _, rfl, rfl, .here _ _, rfl⟩
  | @part s t v w p q first _ ih =>
    obtain ⟨hw, hat⟩ := first.at? (by cases s; exact hs.here) hv
    have ht : t.Everywhere fun form => form.kind ≠ .default := by
      cases s
      exact hs.part first.mem_parts
    rcases ih ht hw with rfl | ⟨q, key, x, u, rfl, hx, hreaches, hlocates⟩
    · rw [List.append_nil]
      rcases first.locates with rfl | ⟨key, rfl, hlocates⟩
      · exact .inl rfl
      · exact .inr ⟨[], key, v, s, rfl, rfl, .here s v, hlocates⟩
    · refine .inr ⟨p ++ q, key, x, u, (List.append_assoc p q [key]).symm, ?_,
        .part first hreaches, hlocates⟩
      exact Value.at?_append_of_hasParts hat hlocates.hasParts hx
  | option option _ ih =>
    rcases ih (hs.part option) hv with rfl | ⟨q, key, x, u, rfl, hx, hreaches, hlocates⟩
    · exact .inl rfl
    · exact .inr ⟨q, key, x, u, rfl, hx, .option option hreaches, hlocates⟩

/-- Whatever the policy, the path of a violation of a schema without defaults is empty, or it leads
to a part of the value and from there to a key where a schema that the check comes to at that part
puts violations. -/
theorem validate_located {s : Schema} (hs : s.Everywhere fun form => form.kind ≠ .default)
    {v : Value} (hv : v.Distinct) (policyName : Option Text) {issue : Issue}
    (h : issue ∈ s.validate policyName v) :
    issue.path = [] ∨ ∃ q key w t, issue.path = q ++ [key] ∧ v.at? q = some w ∧
      s.Reaches v q t w ∧ t.Locates w key := by
  unfold validate at h
  dsimp only at h
  split at h
  · rw [List.mem_singleton.mp h]
    exact .inl rfl
  · rename_i policy _
    obtain ⟨outcome, found, hyields, hnotes, _⟩ := s.check_finds policy v
    rw [issues_eq hyields] at h
    cases outcome with
    | ok _ => exact (hnotes issue h).located hs hv
    | error e =>
      rw [List.mem_singleton.mp h]
      exact .inl rfl

/-- The second of two rows lacks a declared field, and the violation is at its key. -/
theorem validate_located_missingField :
    let row : Schema := .plain (.object [(Text.ofString "id", .plain (.string []))] none none none)
    let rows : Schema := .plain (.array row [])
    let value : Value := .array [.object [(Text.ofString "id", .text "a")], .object []]
    let issue : Issue := ⟨[.index 1, .field "id"], "Required"⟩
    rows.Everywhere (fun form => form.kind ≠ .default) ∧ value.Distinct ∧
      issue ∈ rows.validate none value ∧
      (issue.path = [] ∨ ∃ q key w t, issue.path = q ++ [key] ∧ value.at? q = some w ∧
        rows.Reaches value q t w ∧ t.Locates w key) := by
  intro row rows value issue
  have htext : (Schema.plain (.string [])).Everywhere fun form => form.kind ≠ .default :=
    .mk (by decide) (List.forall_mem_nil _)
  have hrow : row.Everywhere fun form => form.kind ≠ .default :=
    .mk (by decide) (List.forall_mem_singleton.mpr htext)
  have hrows : rows.Everywhere fun form => form.kind ≠ .default :=
    .mk (by decide) (List.forall_mem_singleton.mpr hrow)
  have hvalue : value.Distinct := by
    refine .array (List.forall_mem_cons.mpr ⟨?_, List.forall_mem_singleton.mpr ?_⟩)
    · exact .object (List.nodup_singleton _) (List.forall_mem_singleton.mpr (.scalar _))
    · exact .object List.nodup_nil (List.forall_mem_nil _)
  have hissue : issue ∈ rows.validate none value := by decide +kernel
  exact ⟨hrows, hvalue, hissue, validate_located hrows hvalue none hissue⟩

end Schema

end Conform
