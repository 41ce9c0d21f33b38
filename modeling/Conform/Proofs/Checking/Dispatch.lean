import Conform.Proofs.Checking.Completeness

/-!
# Choosing by a tag

An option of a discriminated union is chosen by its tag alone. The options that are passed over
would have failed, because an object that an option accepts has one of its tags, and because tags
that clash are refused when the union is built. So the choice loses nothing against trying all the
options, and their order plays no part.

## Main definitions

- `Schema.isTagged_of_accepts` — what an option accepts has its tag
- `union_accepts_iff`, `discriminatedUnion_accepts_iff` — what an option accepts is accepted
- `unknownTag` — the violation of a value without any of the tags
- `discriminatedUnion_perm` — options in another order
- `Constructor.build_discriminatedUnion_iff` — the options that can be told apart
- `Constructor.discriminatedUnion_agrees` — both unions agree
-/

namespace Conform

open Walk

variable {policy : Policy} {value : Value} {discriminator : Text} {options : List Schema}

/-- A walk runs through and finds nothing. -/
def Walk.Accepts (policy : Policy) (w : Walk PUnit) : Prop := Yields policy w (.ok ()) []

namespace Walk

theorem not_accepts_note (message : Text) : ¬Accepts policy (note message) := fun h =>
  nomatch ((yields_note message).unique h).2

theorem not_accepts_noteType (expected : Text) (value : Value) :
    ¬Accepts policy (noteType expected value) := by
  unfold noteType
  split
  · exact not_accepts_note _
  · exact not_accepts_note _

/-- Nothing is found by a walk inside one that finds nothing. -/
theorem Contains.accepts {w part : Walk PUnit} {p : List Key} (h : Contains policy w p part)
    (hw : Accepts policy w) : Accepts policy part := by
  obtain ⟨found, hfound, hrow⟩ := h [] hw
  obtain rfl : found = [] := List.map_eq_nil_iff.mp (List.infix_nil.mp hrow)
  exact hfound

end Walk

/-- A literal accepts only the value that it compares equal to. -/
theorem literal_accepts {expected : Scalar}
    (h : Accepts policy (Form.check (.literal expected) value)) :
    expected.accepts value = true := by
  unfold Form.check at h
  split at h
  · split at h
    · rename_i hundefined
      rw [hundefined]
      rfl
    · exact absurd h (not_accepts_note _)
  · split at h
    · assumption
    · exact absurd h (not_accepts_note _)

/-- An enumeration accepts only its options. -/
theorem enum_accepts {texts : List Text} (h : Accepts policy (Form.check (.enum texts) value)) :
    ∃ t ∈ texts, value = .text t := by
  unfold Form.check at h
  split at h
  · split at h
    · exact ⟨_, by assumption, rfl⟩
    · exact absurd h (not_accepts_note _)
  · exact absurd h (not_accepts_noteType _ _)

/-- The values that a form accepts if it can be the one of a tag. -/
def Form.tags : Form → List Scalar
  | .literal value => [value]
  | .enum texts => texts.map .text
  | _ => []

namespace Schema

variable {s : Schema}

/-- What the declared field of a tag accepts is one of the tags. -/
theorem isTagged_of_tag_accepts {tag : Value} {shape : List (Text × Schema)} {field : Schema}
    {unknownKeys : Option Policy} {catchall : Option Schema} {strictMessage : Option Text}
    (hform : s.form = .object shape unknownKeys catchall strictMessage)
    (hfield : Fields.get? shape discriminator = some field)
    (htags : tagsOf discriminator s ≠ []) (h : Accepts policy (field.check tag)) :
    s.isTagged discriminator tag = true := by
  obtain ⟨description, form⟩ := field
  have htagsOf : tagsOf discriminator s = Form.tags form := by
    unfold tagsOf Form.tags
    rw [hform]
    dsimp only
    rw [hfield]
    cases form <;> rfl
  rw [isTagged, htagsOf]
  rw [htagsOf] at htags
  cases form with
  | literal expected =>
    exact List.any_eq_true.mpr ⟨expected, List.mem_singleton_self expected, literal_accepts h⟩
  | enum texts =>
    obtain ⟨t, ht, rfl⟩ := enum_accepts h
    refine List.any_eq_true.mpr ⟨.text t, List.mem_map_of_mem ht, ?_⟩
    exact beq_self_eq_true t
  | _ => exact absurd rfl htags

/-- What an option with tags accepts is an object that has one of them. -/
theorem isTagged_of_accepts (htags : tagsOf discriminator s ≠ [])
    (h : Accepts policy (s.check value)) :
    ∃ fields, value = .object fields ∧
      s.isTagged discriminator (fieldValue fields discriminator) = true := by
  obtain ⟨description, form⟩ := s
  cases form with
  | object shape unknownKeys catchall strictMessage =>
    cases value with
    | object fields =>
      rcases hfield : Fields.get? shape discriminator with _ | field
      · simp [tagsOf, Schema.form, hfield] at htags
      · have htag := (Checks.field (Fields.mem_of_get? hfield)).contains.accepts h
        exact ⟨fields, rfl, isTagged_of_tag_accepts rfl hfield htags htag⟩
    | _ =>
      unfold Schema.check Form.check at h
      exact absurd h (not_accepts_noteType _ _)
  | _ => exact absurd rfl htags

end Schema

/-- The violations that stand for a union vanish where those of an option do. -/
theorem Walk.Report.fewest_eq_nil_iff {best : Option (List Issue)} {reports : List Report}
    (hbest : best ≠ some []) (hne : best = none → reports ≠ [])
    (h : (fewest best reports).outcome = .ok ()) :
    (fewest best reports).found = [] ↔ ∃ r ∈ reports, r.outcome = .ok () ∧ r.found = [] := by
  induction reports generalizing best with
  | nil =>
    obtain ⟨old, rfl⟩ : ∃ old, best = some old :=
      Option.ne_none_iff_exists'.mp fun hnone => hne hnone rfl
    have hold : old ≠ [] := fun hnil => hbest (by rw [hnil])
    simp [fewest, hold]
  | cons r reports ih =>
    obtain ⟨outcome, found⟩ := r
    cases outcome with
    | error e => cases h
    | ok _ =>
      rw [fewest] at h ⊢
      dsimp only at h ⊢
      by_cases hnil : found = []
      · rw [if_pos ((fewestIssues_eq_nil_iff hbest found).mpr hnil)]
        exact iff_of_true rfl ⟨_, List.mem_cons_self, rfl, hnil⟩
      · have hmore := mt (fewestIssues_eq_nil_iff hbest found).mp hnil
        rw [if_neg hmore] at h ⊢
        rw [ih (by simpa using hmore) (by simp) h]
        simp [hnil]

/-- A union that is not stopped accepts what one of its options accepts. -/
theorem union_accepts_iff (hne : options ≠ []) {issues : List Issue}
    (hruns : Yields policy (Form.check (.union options) value) (.ok ()) issues) :
    Accepts policy (Form.check (.union options) value) ↔
      ∃ s ∈ options, Accepts policy (s.check value) := by
  choose outcome found hyields using fun s : Schema => s.check_uniform policy value
  let report (s : Schema) : Report := ⟨outcome s, found s⟩
  have hunion : Yields policy (Form.check (.union options) value)
      (Report.fewest none (options.map report)).outcome
      (Report.fewest none (options.map report)).found := union_yields fun s _ => hyields s
  have hok := (hruns.unique hunion).1.symm
  rw [hok] at hunion
  have hiff : Accepts policy (Form.check (.union options) value) ↔
      (Report.fewest none (options.map report)).found = [] :=
    ⟨fun h => (hunion.unique h).2, fun hnil => by rwa [hnil] at hunion⟩
  have hfirst : (none : Option (List Issue)) ≠ some [] := nofun
  rw [hiff, Report.fewest_eq_nil_iff hfirst (fun _ => by simpa using hne) hok]
  constructor
  · rintro ⟨_, hr, hok, hnil⟩
    obtain ⟨s, hs, rfl⟩ := List.mem_map.mp hr
    have haccepts : Yields policy (s.check value) (report s).outcome (report s).found := hyields s
    rw [hok, hnil] at haccepts
    exact ⟨s, hs, haccepts⟩
  · rintro ⟨s, hs, haccepts⟩
    obtain ⟨hok, hnil⟩ := (hyields s).unique haccepts
    exact ⟨_, List.mem_map_of_mem hs, hok, hnil⟩

/-- At most one option has a tag that a value has. -/
theorem length_filter_isTagged_le
    (hapart : (options.flatMap (tagsOf discriminator)).Pairwise fun a b => a.clashes b = false)
    (tag : Value) : (options.filter (Schema.isTagged discriminator tag)).length ≤ 1 := by
  have hfilter := (pairwise_isTagged hapart tag).filter (Schema.isTagged discriminator tag)
  rcases hchosen : options.filter (Schema.isTagged discriminator tag) with _ | ⟨s, _ | ⟨t, rest⟩⟩
  · exact Nat.zero_le 1
  · exact Nat.le_refl 1
  · -- The first two options have the tag, against what is known of them.
    have hmarked : ∀ u ∈ s :: t :: rest, u.isTagged discriminator tag = true := fun u hu =>
      (List.mem_filter.mp (hchosen ▸ hu)).2
    rw [hchosen, List.pairwise_cons] at hfilter
    have hfalse := hfilter.1 t List.mem_cons_self (hmarked s List.mem_cons_self)
    have htrue := hmarked t (List.mem_cons_of_mem s List.mem_cons_self)
    exact absurd (hfalse.symm.trans htrue) Bool.false_ne_true

/-- Both of two options with the tag of a value are the same one. -/
theorem eq_of_isTagged
    (hapart : (options.flatMap (tagsOf discriminator)).Pairwise fun a b => a.clashes b = false)
    {tag : Value} {s t : Schema} (hs : s ∈ options) (ht : t ∈ options)
    (hstag : s.isTagged discriminator tag = true) (httag : t.isTagged discriminator tag = true) :
    s = t := by
  obtain ⟨u, hu⟩ : ∃ u, options.filter (Schema.isTagged discriminator tag) = [u] :=
    List.length_eq_one_iff.mp (Nat.le_antisymm (length_filter_isTagged_le hapart tag)
      (List.length_pos_of_mem (List.mem_filter.mpr ⟨hs, hstag⟩)))
  have honly {v : Schema} (hv : v ∈ options) (hvtag : v.isTagged discriminator tag = true) :
      v = u := List.mem_singleton.mp (hu ▸ List.mem_filter.mpr ⟨hv, hvtag⟩)
  exact (honly hs hstag).trans (honly ht httag).symm

/-- A discriminated union accepts what one of its options accepts, also if that is not the one that
comes first. -/
theorem discriminatedUnion_accepts_iff
    (hbuilt : Form.WellBuilt (.discriminatedUnion discriminator options)) :
    Accepts policy (Form.check (.discriminatedUnion discriminator options) value) ↔
      ∃ s ∈ options, Accepts policy (s.check value) := by
  obtain ⟨-, htags, hapart⟩ := hbuilt
  constructor
  · intro h
    cases value with
    | object fields =>
      rw [Form.check_discriminatedUnion] at h
      rcases hfirst : options.find?
        (Schema.isTagged discriminator (fieldValue fields discriminator)) with _ | s
      · rw [hfirst] at h
        exact nomatch (((yields_note _).within _).unique h).2
      · rw [hfirst] at h
        exact ⟨s, List.mem_of_find?_eq_some hfirst, h⟩
    | _ =>
      unfold Form.check at h
      exact absurd h (not_accepts_noteType _ _)
  · rintro ⟨s, hs, haccepts⟩
    obtain ⟨fields, rfl, htagged⟩ := Schema.isTagged_of_accepts (htags s hs) haccepts
    obtain ⟨t, hfirst⟩ : ∃ t, options.find?
        (Schema.isTagged discriminator (fieldValue fields discriminator)) = some t :=
      Option.isSome_iff_exists.mp (List.find?_isSome.mpr ⟨s, hs, htagged⟩)
    -- Both options have the tag, so they are the same one.
    obtain rfl := eq_of_isTagged hapart hs (List.mem_of_find?_eq_some hfirst) htagged
      (List.find?_some hfirst)
    rw [Form.check_discriminatedUnion, hfirst]
    exact haccepts

/-- The violation of an object that has none of some tags. -/
def unknownTag (discriminator : Text) (tags : List Scalar) : Issue :=
  ⟨[.field discriminator], "Invalid discriminator value. Expected " ++
    Text.join " | " (tags.map fun tag => "'" ++ tag.bare ++ "'")⟩

/-- The order of a list does not matter to the search for a member that is the only one. -/
theorem find?_eq_of_perm {α : Type} {marked : α → Bool} {l l' : List α} (hperm : l'.Perm l)
    (honly : (l.filter marked).length ≤ 1) : l'.find? marked = l.find? marked := by
  have hfilter := hperm.filter marked
  rw [← List.head?_filter, ← List.head?_filter]
  rcases hl : l.filter marked with _ | ⟨a, _ | ⟨b, rest⟩⟩
  · rw [hl] at hfilter
    rw [hfilter.eq_nil]
  · rw [hl] at hfilter
    rw [List.perm_singleton.mp hfilter]
  · rw [hl] at honly
    simp at honly

/-- With the options in another order the same ones are chosen. Only the tags may be listed in
another order where there is nothing to choose. -/
theorem discriminatedUnion_perm {options' : List Schema} (hperm : options'.Perm options)
    (hapart : (options.flatMap (tagsOf discriminator)).Pairwise fun a b => a.clashes b = false)
    (value : Value) :
    Form.check (.discriminatedUnion discriminator options') value =
        Form.check (.discriminatedUnion discriminator options) value ∨
      (∀ list : List Schema, list.Perm options →
        Yields policy (Form.check (.discriminatedUnion discriminator list) value) (.ok ())
          [unknownTag discriminator (list.flatMap (tagsOf discriminator))]) := by
  cases value with
  | object fields =>
    let tag := fieldValue fields discriminator
    have hfirst (list : List Schema) (hlist : list.Perm options) :
        list.find? (Schema.isTagged discriminator tag) =
          options.find? (Schema.isTagged discriminator tag) :=
      find?_eq_of_perm hlist (length_filter_isTagged_le hapart tag)
    cases hchosen : options.find? (Schema.isTagged discriminator tag) with
    | some s =>
      left
      rw [Form.check_discriminatedUnion, Form.check_discriminatedUnion, hfirst options' hperm,
        hchosen]
    | none =>
      right
      intro list hlist
      rw [Form.check_discriminatedUnion, hfirst list hlist, hchosen]
      exact (yields_note _).within _
  | _ =>
    left
    unfold Form.check
    rfl

/-- Tags clash with one another. -/
theorem Scalar.clashes_comm (a b : Scalar) : a.clashes b = b.clashes a := by
  cases a <;> cases b <;> first | rfl | exact Number.same_comm _ _ | exact BEq.comm

/-- Options that can be told apart can be so in another order. -/
theorem Form.WellBuilt.perm {options' : List Schema}
    (h : Form.WellBuilt (.discriminatedUnion discriminator options))
    (hperm : options'.Perm options) :
    Form.WellBuilt (.discriminatedUnion discriminator options') := by
  obtain ⟨hne, htags, hapart⟩ := h
  refine ⟨fun hnil => hne (hnil ▸ hperm).nil_eq.symm, fun s hs => htags s (hperm.subset hs), ?_⟩
  exact hapart.perm (hperm.flatMap_right _).symm fun {a b} h => (Scalar.clashes_comm b a).trans h

namespace Constructor

/-- Tags that do not clash are added to those seen. -/
theorem addTags_of_apart {seen tags : List Scalar}
    (h : (seen ++ tags).Pairwise fun a b => a.clashes b = false) :
    checkTags.addTags seen tags = .ok (seen ++ tags) := by
  induction tags generalizing seen with
  | nil => rw [checkTags.addTags, List.append_nil]
  | cons tag tags ih =>
    have hfresh : ¬(seen.any fun old => old.clashes tag) = true := by
      rw [List.any_eq_true]
      rintro ⟨old, hold, hclash⟩
      have hfalse := (List.pairwise_append.mp h).2.2 old hold tag List.mem_cons_self
      exact Bool.false_ne_true (hfalse.symm.trans hclash)
    rw [checkTags.addTags, if_neg hfresh, ih (by simpa using h), List.append_assoc]
    rfl

/-- Options pass if each of them has tags and no two of all the tags clash. -/
theorem checkTags_of_apart {seen : List Scalar}
    (htags : ∀ s ∈ options, tagsOf discriminator s ≠ [])
    (h : (seen ++ options.flatMap (tagsOf discriminator)).Pairwise
      fun a b => a.clashes b = false) :
    checkTags discriminator seen options = .ok () := by
  induction options generalizing seen with
  | nil => rfl
  | cons option options ih =>
    rw [List.forall_mem_cons] at htags
    rw [List.flatMap_cons, ← List.append_assoc] at h
    rw [checkTags]
    split
    · split
      · exact absurd (by assumption) htags.1
      · rw [addTags_of_apart (List.pairwise_append.mp h).1]
        exact ih htags.2 h
    · rename_i hother
      -- Only an object has tags.
      refine absurd ?_ htags.1
      unfold tagsOf
      split
      · exact absurd (by assumption) (hother _ _ _ _)
      · rfl

theorem mapM_schemaArgument_schema (name : Text) (options : List Schema) :
    (options.map Value.schema).mapM (schemaArgument name) = .ok options := by
  induction options with
  | nil => rfl
  | cons s options ih =>
    rw [List.map_cons, List.mapM_cons, ih]
    rfl

/-- Schemas are taken as arguments if there is one at least. -/
theorem schemasArgument_schema (name : Text) (options : List Schema) :
    schemasArgument name 1 (.array (options.map .schema)) =
      if options = [] then refuse (.tooFewSchemas name 1) else .ok options := by
  unfold schemasArgument
  dsimp only
  rw [mapM_schemaArgument_schema]
  cases options <;> rfl

/-- A union can be built of any options. -/
theorem build_union_iff {s : Schema} :
    Constructor.union.build [.array (options.map .schema)] = .ok s ↔
      options ≠ [] ∧ s = .plain (.union options) := by
  change (schemasArgument "union" 1 (.array (options.map .schema)) >>= fun options =>
    Except.ok (Schema.plain (.union options))) = .ok s ↔ _
  rw [schemasArgument_schema]
  by_cases hne : options = []
  · simp [hne, refuse, bind, Except.bind]
  · simp [hne, bind, Except.bind, eq_comm]

/-- A discriminated union can be built of options that can be told apart. -/
theorem build_discriminatedUnion_iff {s : Schema} :
    Constructor.discriminatedUnion.build [.text discriminator, .array (options.map .schema)] =
        .ok s ↔
      Form.WellBuilt (.discriminatedUnion discriminator options) ∧
        s = .plain (.discriminatedUnion discriminator options) := by
  change (schemasArgument "discriminatedUnion" 1 (.array (options.map .schema)) >>= fun options =>
    checkTags discriminator [] options >>= fun _ =>
      Except.ok (Schema.plain (.discriminatedUnion discriminator options))) = .ok s ↔ _
  rw [schemasArgument_schema]
  constructor
  · intro h
    by_cases hne : options = []
    · rw [if_pos hne] at h
      exact nomatch h
    · rw [if_neg hne] at h
      change (checkTags discriminator [] options >>= fun _ => Except.ok _) = Except.ok s at h
      obtain ⟨_, htags, h⟩ := bind_eq_ok.mp h
      exact ⟨⟨hne, checkTags_eq_ok htags .nil⟩, (Except.ok.inj h).symm⟩
  · rintro ⟨⟨hne, htags, hapart⟩, rfl⟩
    rw [if_neg hne]
    change (checkTags discriminator [] options >>= fun _ => _) = _
    rw [checkTags_of_apart htags hapart]
    rfl

/-- Where a discriminated union can be built, so can the union of its options, and as long as none
of them stops, both accept the same values. A value has the tag of one option at most. The options
may come in any order; that shows in the list of tags alone. -/
theorem discriminatedUnion_agrees {discriminator : Text} {options : List Schema} {tagged : Schema}
    (built : Constructor.discriminatedUnion.build
      [.text discriminator, .array (options.map .schema)] = .ok tagged) :
    (∃ union, Constructor.union.build [.array (options.map .schema)] = .ok union ∧
      ∀ policy value, (∀ e, tagged.issues policy value ≠ .error e) →
        (∀ e, union.issues policy value ≠ .error e) →
        (tagged.validate (some policy.name) value = [] ↔
          union.validate (some policy.name) value = [])) ∧
    (∀ tag, (options.filter (Schema.isTagged discriminator tag)).length ≤ 1) ∧
    ∀ options' : List Schema, options'.Perm options → ∃ tagged',
      Constructor.discriminatedUnion.build
        [.text discriminator, .array (options'.map .schema)] = .ok tagged' ∧
      ∀ policy value, tagged'.issues policy value = tagged.issues policy value ∨
        (tagged'.issues policy value =
            .ok [unknownTag discriminator (options'.flatMap (tagsOf discriminator))] ∧
          tagged.issues policy value =
            .ok [unknownTag discriminator (options.flatMap (tagsOf discriminator))]) := by
  obtain ⟨hbuilt, rfl⟩ := build_discriminatedUnion_iff.mp built
  have hne := hbuilt.1
  refine ⟨⟨_, build_union_iff.mpr ⟨hne, rfl⟩, fun policy value _ hruns => ?_⟩,
    length_filter_isTagged_le hbuilt.2.2, fun options' hperm => ?_⟩
  · obtain ⟨outcome, found, hyields⟩ :=
      (Schema.plain (.union options)).check_uniform policy value
    cases outcome with
    | error e => exact absurd (Schema.issues_eq hyields) (hruns e)
    | ok _ =>
      rw [Schema.validates_iff, Schema.validates_iff]
      exact (discriminatedUnion_accepts_iff hbuilt).trans (union_accepts_iff hne hyields).symm
  · have hbuilt' := hbuilt.perm hperm
    refine ⟨_, build_discriminatedUnion_iff.mpr ⟨hbuilt', rfl⟩, fun policy value => ?_⟩
    rcases discriminatedUnion_perm hperm hbuilt.2.2 value with hsame | hnone
    · left
      unfold Schema.issues Schema.plain Schema.check
      rw [hsame]
    · right
      have htold (list : List Schema) (hlist : list.Perm options) :
          (Schema.plain (.discriminatedUnion discriminator list)).issues policy value =
            .ok [unknownTag discriminator (list.flatMap (tagsOf discriminator))] := by
        have hyields : Yields policy
            ((Schema.plain (.discriminatedUnion discriminator list)).check value) (.ok ()) _ :=
          hnone list hlist
        exact Schema.issues_eq hyields
      exact ⟨htold options' hperm, htold options (.refl options)⟩

/-- A text for one option and either of two texts for another one are tags that can be told
apart. -/
theorem discriminatedUnion_agrees_texts :
    let first : Schema :=
      .plain (.object [("kind", .plain (.literal (.text "circle")))] none none none)
    let second : Schema :=
      .plain (.object [("kind", .plain (.enum ["square", "cube"]))] (some .strict) none none)
    let value : Value := .object [("kind", .text "cube"), ("side", .int 1)]
    let tagged : Schema := .plain (.discriminatedUnion "kind" [first, second])
    let union : Schema := .plain (.union [first, second])
    Constructor.discriminatedUnion.build
        [.text "kind", .array ([first, second].map .schema)] = .ok tagged ∧
      (∀ e, tagged.issues .strip value ≠ .error e) ∧
      (∀ e, union.issues .strip value ≠ .error e) ∧
      (tagged.validate (some "strip") value = [] ↔ union.validate (some "strip") value = []) := by
  intro first second value tagged union
  have hbuilt : Constructor.discriminatedUnion.build
      [.text "kind", .array ([first, second].map .schema)] = .ok tagged := by
    with_unfolding_all rfl
  have htagged : tagged.issues .strip value =
      .ok [⟨[], "Unrecognized key(s) in object: 'side'"⟩] := by with_unfolding_all rfl
  -- Both options have one violation here, and the first one counts.
  have hunion : union.issues .strip value =
      .ok [⟨[.field "kind"], "Invalid literal value, expected \"circle\""⟩] := by
    with_unfolding_all rfl
  have hruns {s : Schema} {issues : List Issue} (h : s.issues .strip value = .ok issues) :
      ∀ e, s.issues .strip value ≠ .error e := fun e he => nomatch h.symm.trans he
  obtain ⟨⟨_, hother, hagrees⟩, -⟩ := discriminatedUnion_agrees hbuilt
  obtain ⟨-, rfl⟩ := build_union_iff.mp hother
  exact ⟨hbuilt, hruns htagged, hruns hunion, hagrees .strip value (hruns htagged) (hruns hunion)⟩

end Constructor

end Conform
