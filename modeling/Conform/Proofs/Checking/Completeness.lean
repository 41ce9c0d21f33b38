import Conform.Compile.Basic
import Conform.Json.Reading
import Conform.Proofs.Checking.Location

/-!
# Violations do not hide one another

A check that runs through notes all that the checks it is made of find: the violations of every
declared field, element, entry and side are noted in a row, whatever else is wrong. But a check can
stop, and then a single violation at the root stands for all of them. It stops only where a rule
asks for the nearest double of a number that has none.

## Main definitions

- `Walk.Contains` — a walk runs through another one, and notes what that one finds
- `Schema.Visits` — the checks that a check always comes to
- `Schema.Visits.contains` — what they find is noted in a row
- `Schema.validate_complete` — the whole of it is reported, or a number stops it
-/

namespace Conform

open Walk

namespace Walk

variable {policy : Policy} {w part inner : Walk PUnit} {f : PUnit → Walk PUnit} {p q : List Key}

/-- When the first walk runs through, so does the second one, and what the second one finds stands
in a row among what the first one finds, with a path in front. -/
def Contains (policy : Policy) (w : Walk PUnit) (p : List Key) (part : Walk PUnit) : Prop :=
  ∀ issues, Yields policy w (.ok ()) issues →
    ∃ found, Yields policy part (.ok ()) found ∧ found.map (Issue.under p) <:+: issues

theorem Contains.refl (w : Walk PUnit) : Contains policy w [] w := by
  intro issues h
  exact ⟨issues, h, by rw [Issue.under_nil, List.map_id]⟩

theorem Contains.trans (h : Contains policy w p part) (h' : Contains policy part q inner) :
    Contains policy w (p ++ q) inner := by
  intro issues hyields
  obtain ⟨found, hfound, hrow⟩ := h issues hyields
  obtain ⟨deeper, hdeeper, hdeeperRow⟩ := h' found hfound
  refine ⟨deeper, hdeeper, ?_⟩
  rw [← Issue.map_under_append]
  exact (hdeeperRow.map _).trans hrow

theorem contains_first (hw : Uniform policy w) (hf : ∀ a, Uniform policy (f a)) :
    Contains policy (w >>= f) [] w := by
  intro issues h
  obtain ⟨_, first, second, hfirst, _, rfl⟩ := h.of_bind hw hf
  refine ⟨first, hfirst, ?_⟩
  rw [Issue.under_nil, List.map_id]
  exact (List.prefix_append first second).isInfix

theorem contains_second (hw : Uniform policy w) (hf : ∀ a, Uniform policy (f a)) :
    Contains policy (w >>= f) [] (f ()) := by
  intro issues h
  obtain ⟨_, first, second, _, hsecond, rfl⟩ := h.of_bind hw hf
  refine ⟨second, hsecond, ?_⟩
  rw [Issue.under_nil, List.map_id]
  exact (List.suffix_append first second).isInfix

theorem contains_within (hw : Uniform policy w) (key : Key) :
    Contains policy (within key w) [key] w := by
  intro issues h
  obtain ⟨outcome, found, hyields⟩ := hw
  obtain ⟨rfl, rfl⟩ := h.unique (hyields.within key)
  exact ⟨found, hyields, List.infix_rfl⟩

section Each

variable {α : Type} {items : List α} {key : α → Key} {walk : α → Walk PUnit}

theorem inTurn_each_uniform (h : ∀ a, Uniform policy (walk a)) :
    Uniform policy (inTurn (items.map fun a => (key a, walk a))) := by
  refine inTurn_uniform fun p hp => ?_
  obtain ⟨a, _, rfl⟩ := List.mem_map.mp hp
  exact h a

/-- What is found in parts, each behind its key, one part after another. -/
theorem yields_inTurn {found : α → List Issue}
    (h : ∀ a ∈ items, Yields policy (walk a) (.ok ()) (found a)) :
    Yields policy (inTurn (items.map fun a => (key a, walk a))) (.ok ())
      (items.flatMap fun a => (found a).map (Issue.under [key a])) := by
  induction items with
  | nil => exact yields_pure ()
  | cons a items ih =>
    rw [List.forall_mem_cons] at h
    exact (h.1.within (key a)).bind (ih h.2)

theorem contains_inTurn_each (h : ∀ a, Uniform policy (walk a)) {a : α} (ha : a ∈ items) :
    Contains policy (inTurn (items.map fun a => (key a, walk a))) [key a] (walk a) := by
  induction items with
  | nil => exact absurd ha List.not_mem_nil
  | cons b items ih =>
    have hhead := (h b).within (key b)
    have hrest : Uniform policy (inTurn (items.map fun a => (key a, walk a))) :=
      inTurn_each_uniform h
    rcases List.mem_cons.mp ha with rfl | ha
    · exact (contains_first hhead fun _ => hrest).trans (contains_within (h a) (key a))
    · exact (contains_second hhead fun _ => hrest).trans (ih ha)

end Each

/-- A walk before which a violation may be noted. -/
theorem contains_noteWhen (hw : Uniform policy w) (wrong : Bool) (message : Text) :
    Contains policy (if wrong = true then (do note message; w) else w) [] w := by
  cases wrong with
  | true => exact contains_second ⟨_, _, yields_note message⟩ fun _ => hw
  | false => exact .refl w

end Walk

variable {policy : Policy}

theorem Schema.check_uniform (policy : Policy) (s : Schema) (v : Value) :
    Uniform policy (s.check v) :=
  (s.check_finds policy v).uniform

theorem checkExtra_uniform (unknownKeys : Option Policy) (catchall : Option Schema)
    (strictMessage : Option Text) (extra : List (Text × Value)) :
    Uniform policy (checkExtra unknownKeys catchall strictMessage extra) := by
  have hfinds : Finds policy (checkExtra unknownKeys catchall strictMessage extra)
      (fun _ => True) True :=
    checkExtra_finds trivial fun rest _ p _ => (rest.check_uniform policy p.2).finds
  exact hfinds.uniform

theorem checkRest_uniform (rest : Option Schema) (start : Nat) (values : List Value) :
    Uniform policy (checkRest rest start values) := by
  have hfinds : Finds policy (checkRest rest start values) (fun _ => True) True :=
    checkRest_finds fun more _ _ w _ _ => (more.check_uniform policy w).finds
  exact hfinds.uniform

section Forms

variable (shape : List (Text × Schema)) (unknownKeys : Option Policy) (catchall : Option Schema)
  (strictMessage : Option Text) (fields : List (Text × Value))

/-- An object is checked field by field. -/
theorem object_contains_shape :
    Contains policy (Form.check (.object shape unknownKeys catchall strictMessage) (.object fields))
      [] (inTurn (shape.map fun p => (.field p.1, p.2.check (fieldValue fields p.1)))) := by
  rw [Form.check_object]
  exact contains_first (inTurn_each_uniform fun p => p.2.check_uniform policy _)
    fun _ => checkExtra_uniform _ _ _ _

/-- Undeclared fields come last. -/
theorem object_contains_extra :
    Contains policy (Form.check (.object shape unknownKeys catchall strictMessage) (.object fields))
      [] (checkExtra unknownKeys catchall strictMessage (extraFields shape fields)) := by
  rw [Form.check_object]
  exact contains_second (inTurn_each_uniform fun p => p.2.check_uniform policy _)
    fun _ => checkExtra_uniform _ _ _ _

variable {items : List Schema} {values : List Value} (enough : items.length ≤ values.length)
  (rest : Option Schema)

theorem items_uniform :
    Uniform policy (inTurn ((items.zip values).zipIdx.map fun p =>
      (.index p.2, p.1.1.check p.1.2))) :=
  inTurn_each_uniform fun p => p.1.1.check_uniform policy p.1.2

include enough

/-- A tuple with enough elements is checked element by element, also if there are too many. -/
theorem tuple_contains_items :
    Contains policy (Form.check (.tuple items rest) (.array values)) []
      (inTurn ((items.zip values).zipIdx.map fun p => (.index p.2, p.1.1.check p.1.2))) := by
  rw [Form.check_tuple enough]
  exact (contains_noteWhen (items_uniform.bind fun _ => checkRest_uniform _ _ _) _ _).trans
    (contains_first items_uniform fun _ => checkRest_uniform _ _ _)

/-- The elements without a schema of their own come last. -/
theorem tuple_contains_rest :
    Contains policy (Form.check (.tuple items rest) (.array values)) []
      (checkRest rest items.length values) := by
  rw [Form.check_tuple enough]
  exact (contains_noteWhen (items_uniform.bind fun _ => checkRest_uniform _ _ _) _ _).trans
    (contains_second items_uniform fun _ => checkRest_uniform _ _ _)

end Forms

namespace Schema

variable {s t : Schema} {v w : Value} {p q : List Key}

/-- The violations of the checks that a check is made of are noted in a row. -/
theorem Checks.contains (h : s.Checks v p t w) : Contains policy (s.check v) p (t.check w) := by
  have huniform := check_uniform policy
  cases h with
  | @field _ _ shape unknownKeys catchall fields key t declared =>
    rw [Schema.check]
    exact (object_contains_shape shape unknownKeys catchall _ fields).trans
      (contains_inTurn_each (fun p => huniform p.2 (fieldValue fields p.1)) declared)
  | @extra _ _ shape unknownKeys fields key w t undeclared =>
    rw [Schema.check]
    refine (object_contains_extra shape unknownKeys (some t) _ fields).trans ?_
    have hextra : ¬(extraFields shape fields).isEmpty = true := by
      simpa using List.ne_nil_of_mem undeclared
    unfold checkExtra
    rw [if_neg hextra]
    exact contains_inTurn_each (fun p => huniform t p.2) undeclared
  | @element _ checks items n w t item =>
    rw [Schema.check, Form.check_array]
    have hparts (p : Value × Nat) := huniform t p.1
    have hmem : (w, n) ∈ items.zipIdx := List.mem_zipIdx_iff_getElem?.mpr item
    exact (contains_second (uniform_forM fun _ _ => uniform_noteAny _)
      fun _ => inTurn_each_uniform hparts).trans (contains_inTurn_each hparts hmem)
  | @item _ items rest values n w t enough own value =>
    rw [Schema.check]
    have hmem : ((t, w), n) ∈ (items.zip values).zipIdx :=
      List.mem_zipIdx_iff_getElem?.mpr (List.getElem?_zip_eq_some.mpr ⟨own, value⟩)
    exact (tuple_contains_items enough rest).trans
      (contains_inTurn_each (fun p => huniform p.1.1 p.1.2) hmem)
  | @rest _ items values n w t behind value =>
    have enough : items.length ≤ values.length :=
      behind.trans (List.getElem?_eq_some_iff.mp value).1.le
    have hmem : (w, n) ∈ (values.drop items.length).zipIdx items.length := by
      rw [List.mk_mem_zipIdx_iff_le_and_getElem?_sub, List.getElem?_drop,
        Nat.add_sub_cancel' behind]
      exact ⟨behind, value⟩
    rw [Schema.check]
    refine (tuple_contains_rest enough (some t)).trans ?_
    rw [checkRest]
    exact contains_inTurn_each (fun p => huniform t p.1) hmem
  | @key _ element fields name w t entry =>
    rw [Schema.check, Form.check_record]
    have hparts (p : Text × Value) : Uniform policy (do t.check (.text p.1); element.check p.2) :=
      (huniform t _).bind fun _ => huniform element _
    exact (contains_inTurn_each hparts entry).trans
      (contains_first (huniform t _) fun _ => huniform element _)
  | @entry _ key fields name w t entry =>
    rw [Schema.check, Form.check_record]
    have hparts (p : Text × Value) : Uniform policy (do key.check (.text p.1); t.check p.2) :=
      (huniform key _).bind fun _ => huniform t _
    exact (contains_inTurn_each hparts entry).trans
      (contains_second (huniform key _) fun _ => huniform t _)
  | tagged first =>
    rw [Schema.check, Form.check_discriminatedUnion, first]
    exact .refl _
  | @left _ t other v =>
    rw [Schema.check, Form.check]
    exact contains_first (huniform t v) fun _ => huniform other v
  | @right _ other t v =>
    rw [Schema.check, Form.check]
    exact contains_second (huniform other v) fun _ => huniform t v
  | @optional _ t v present =>
    rw [Schema.check, Form.check]
    · exact .refl _
    · exact present
  | @nullable _ t v notNull =>
    rw [Schema.check, Form.check]
    · exact .refl _
    · exact notNull
  | @default _ fallback t v present =>
    rw [Schema.check, Form.check]
    · exact .refl _
    · exact present
  | fallback =>
    rw [Schema.check, Form.check]
    exact .refl _

/-- A check of a value always comes to a check of the second value against the second schema at a
path, unless it is stopped. -/
inductive Visits : Schema → Value → List Key → Schema → Value → Prop
  | here (s : Schema) (v : Value) : Visits s v [] s v
  | part {s t u : Schema} {v w x : Value} {p q : List Key} (first : s.Checks v p t w)
      (next : Visits t w q u x) : Visits s v (p ++ q) u x

/-- Nothing that is visited hides what another visit finds. -/
theorem Visits.contains (h : s.Visits v q t w) : Contains policy (s.check v) q (t.check w) := by
  induction h with
  | here => exact .refl _
  | part first _ ih => exact first.contains.trans ih

end Schema

theorem checkNumber_uniform (n : Number) (checks : List (Check NumberRule)) :
    Uniform policy (checkNumber n checks) := by
  have hfinds : Finds policy (checkNumber n checks) (fun _ => True) _ := checkNumber_finds trivial
  exact hfinds.uniform

theorem checkNumber_not_overflows {n : Number} {checks : List (Check NumberRule)}
    {found : List Issue} (h : Yields policy (checkNumber n checks) (.ok ()) found)
    {check : Check NumberRule} (hcheck : check ∈ checks) : ¬check.rule.Overflows n := by
  induction checks generalizing found with
  | nil => exact absurd hcheck List.not_mem_nil
  | cons head checks ih =>
    have hrest : Uniform policy (checkNumber n checks) := checkNumber_uniform n checks
    rw [checkNumber] at h
    rcases hfault : head.rule.fault n with e | fault
    · rw [hfault] at h
      exact absurd (h.unique (yields_throw e).bind_error).1 (by simp)
    · rw [hfault] at h
      obtain ⟨_, _, second, _, hsecond, _⟩ := h.of_bind (uniform_noteAny _) fun _ => hrest
      rcases List.mem_cons.mp hcheck with rfl | hcheck
      · intro hoverflows
        rw [(check.rule.fault_eq_error_iff n).mpr hoverflows] at hfault
        cases hfault
      · exact ih hsecond hcheck

namespace Schema

variable {s t : Schema} {v w : Value} {p q : List Key}

/-- A check that runs through has not asked for a nearest double that there is not. -/
theorem not_overflows {found : List Issue} (h : Yields policy (s.check v) (.ok ()) found) :
    ¬s.Overflows v := by
  rintro ⟨checks, n, hform, rfl, hnan, check, hcheck, hoverflows⟩
  obtain ⟨description, form⟩ := s
  obtain rfl : form = .number checks := hform
  have hcheckNumber : (Schema.mk description (.number checks)).check (.number n) =
      checkNumber n checks := by
    rw [Schema.check, Form.check]
    simp [hnan]
  rw [hcheckNumber] at h
  exact checkNumber_not_overflows h hcheck hoverflows

/-- A check comes to a number without the nearest double that a rule asks for, and a single
violation at the root says so, or the violations of all that it visits are reported in rows, each
with its place in front, and no rule asks for such a double at any of these places. -/
theorem validate_complete (s : Schema) (policy : Option Policy) (v : Value) :
    (s.Stops v ∧ s.validate (policy.map Policy.name) v =
      rootIssue "Schema evaluation error: int too large to convert to float") ∨
    ∀ q t w, s.Visits v q t w → ¬t.Overflows w ∧
      (t.validate (policy.map Policy.name) w).map (Issue.under q) <:+:
        s.validate (policy.map Policy.name) v := by
  obtain ⟨outcome, found, hyields, _, hstops⟩ := s.check_finds (policy.getD .strip) v
  cases outcome with
  | error e =>
    refine .inl ⟨hstops e rfl, ?_⟩
    rw [validate_of_error policy (issues_eq hyields)]
    cases e
    rfl
  | ok _ =>
    refine .inr fun q t w hvisits => ?_
    obtain ⟨part, hpart, hrow⟩ := hvisits.contains found hyields
    rw [validate_of_ok policy (issues_eq hyields), validate_of_ok policy (issues_eq hpart)]
    exact ⟨not_overflows hpart, hrow⟩

/-- An integer in one field hides that another one is no string: no double is near it. -/
theorem validate_hiddenField :
    let text : Schema := .plain (.string [])
    let s : Schema := .plain (.object
      [(Text.ofString "a", .plain (.number [⟨.int, none⟩])), (Text.ofString "b", text)]
      none none none)
    let v : Value := .object
      [(Text.ofString "a", .number (.int (10 ^ 200 * 10 ^ 200))),
        (Text.ofString "b", .number (.int 1))]
    compile .v3_24_2 "z.object(\x7b a: z.number().int(), b: z.string() \x7d)" = .ok s ∧
      Value.ofJson (Text.ofString "\x7b\"a\": 1" ++ List.replicate 400 '0'.toNat ++
        Text.ofString ", \"b\": 1\x7d") = .ok v ∧
      s.Visits v [.field "b"] text (.number (.int 1)) ∧
      text.validate none (.number (.int 1)) = [⟨[], "Expected string, received number"⟩] ∧
      s.validate none v =
        rootIssue "Schema evaluation error: int too large to convert to float" := by
  intro text s v
  have hfield : s.Checks v [.field "b"] text (.number (.int 1)) :=
    .field (List.mem_cons_of_mem _ List.mem_cons_self)
  refine ⟨?compiles, ?reads, .part hfield (.here _ _), ?found, ?stops⟩
  case compiles => with_unfolding_all rfl
  case reads => set_option maxRecDepth 4000 in with_unfolding_all rfl
  case found => decide +kernel
  case stops => decide +kernel

end Schema

end Conform
