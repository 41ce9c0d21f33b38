import Conform.Proofs.Checking.Dispatch

/-!
# Tags that clash

The tags of a discriminated union are compared twice: with one another when the union is built, and
with a value when an option is chosen. Two tags that a value can have are refused by the first
comparison, and so is a truth value next to the number that it counts as, although no value has both
of these tags.

## Main definitions

- `Schema.HasTags` — an option that is an object with a literal or an enumeration as its tag
- `Scalar.clashes_iff` — what the two comparisons have to do with each other
- `Constructor.not_apart_iff` — tags that are not apart
- `Constructor.discriminatedUnion_duplicate_iff` — when a tag is refused as a duplicate
-/

namespace Conform

namespace Scalar

/-- Some value is both of two literals. -/
def Overlaps (a b : Scalar) : Prop := ∃ value, a.accepts value = true ∧ b.accepts value = true

/-- The first of two literals is a truth value and the second one a number that it counts as. -/
def CountsAs (a b : Scalar) : Prop :=
  ∃ flag n, a = .bool flag ∧ b = .number n ∧ (ofBool flag).same n = true

theorem accepts_bool (flag : Bool) : (Scalar.bool flag).accepts (.bool flag) = true :=
  beq_self_eq_true flag

theorem accepts_text (t : Text) : (Scalar.text t).accepts (.text t) = true := beq_self_eq_true t

/-- Literals clash if some value is both of them, or if one is a truth value that counts as the
other one. -/
theorem clashes_iff (a b : Scalar) :
    a.clashes b = true ↔ a.Overlaps b ∨ a.CountsAs b ∨ b.CountsAs a := by
  constructor
  · intro h
    unfold clashes at h
    split at h
    · exact .inl ⟨.null, rfl, rfl⟩
    · exact .inl ⟨.undefined, rfl, rfl⟩
    · rename_i s t
      obtain rfl : s = t := eq_of_beq h
      exact .inl ⟨.text s, accepts_text s, accepts_text s⟩
    · rename_i s t
      obtain rfl : s = t := eq_of_beq h
      exact .inl ⟨.bool s, accepts_bool s, accepts_bool s⟩
    · rename_i m n
      -- A number that is the same as another one is the same as itself.
      have hself : n.same n = true := by
        obtain ⟨value, -, hvalue⟩ := Number.same_iff.mp h
        exact Number.same_iff.mpr ⟨value, hvalue, hvalue⟩
      exact .inl ⟨.number n, h, hself⟩
    · rename_i flag n
      exact .inr (.inl ⟨flag, n, rfl, rfl, h⟩)
    · rename_i n flag
      rw [Number.same_comm] at h
      exact .inr (.inr ⟨flag, n, rfl, rfl, h⟩)
    · exact nomatch h
  · rintro (⟨value, ha, hb⟩ | ⟨flag, n, rfl, rfl, h⟩ | ⟨flag, n, rfl, rfl, h⟩)
    · exact clashes_of_accepts ha hb
    · exact h
    · exact (Number.same_comm n (ofBool flag)).trans h

end Scalar

/-- An object with a literal or an enumeration under the key of the tags. An enumeration has at
least one option. -/
def Schema.HasTags (discriminator : Text) (s : Schema) : Prop :=
  ∃ shape unknownKeys catchall strictMessage field,
    s.form = .object shape unknownKeys catchall strictMessage ∧
      Fields.get? shape discriminator = some field ∧
      ((∃ value, field.form = .literal value) ∨ ∃ texts, texts ≠ [] ∧ field.form = .enum texts)

/-- Such an object has tags. -/
theorem Schema.HasTags.tagsOf_ne_nil {discriminator : Text} {s : Schema}
    (h : s.HasTags discriminator) : tagsOf discriminator s ≠ [] := by
  obtain ⟨shape, unknownKeys, catchall, strictMessage, field, hform, hfield, htag⟩ := h
  unfold tagsOf
  rw [hform]
  simp only [hfield, Option.map_some]
  obtain ⟨value, hliteral⟩ | ⟨texts, hne, henum⟩ := htag
  · simp [hliteral]
  · simpa [henum] using hne

namespace Constructor

variable {discriminator : Text} {options : List Schema} {tags : List Scalar}

/-- A value has two of the tags in a list if two tags, one behind the other, accept it. -/
theorem two_le_countP_iff {value : Value} :
    2 ≤ tags.countP (fun tag => tag.accepts value) ↔
      ∃ a b, [a, b].Sublist tags ∧ a.accepts value = true ∧ b.accepts value = true := by
  constructor
  · intro h
    rw [List.countP_eq_length_filter] at h
    rcases hfound : tags.filter (fun tag => tag.accepts value) with _ | ⟨a, _ | ⟨b, rest⟩⟩
    · simp [hfound] at h
    · simp [hfound] at h
    · have hsub : (a :: b :: rest).Sublist tags := hfound ▸ List.filter_sublist
      have haccepts : ∀ tag ∈ a :: b :: rest, tag.accepts value = true := by
        intro tag htag
        rw [← hfound] at htag
        exact (List.mem_filter.mp htag).2
      have hpair : [a, b].Sublist (a :: b :: rest) := by simp
      exact ⟨a, b, hpair.trans hsub, haccepts a (by simp), haccepts b (by simp)⟩
  · rintro ⟨a, b, hsub, ha, hb⟩
    have hpair : [a, b].countP (fun tag => tag.accepts value) = 2 := by simp [ha, hb]
    exact hpair ▸ hsub.countP_le

/-- Tags are not apart if a value has two of them, or if there is a truth value among them and a
number that it counts as. -/
theorem not_apart_iff :
    (¬tags.Pairwise fun a b => a.clashes b = false) ↔
      (∃ value, 2 ≤ tags.countP fun tag => tag.accepts value) ∨
        ∃ flag n, .bool flag ∈ tags ∧ .number n ∈ tags ∧ (Scalar.ofBool flag).same n = true := by
  constructor
  · intro h
    rw [List.pairwise_iff_forall_sublist] at h
    push Not at h
    obtain ⟨a, b, hsub, hclash⟩ := h
    have ha : a ∈ tags := hsub.subset (by simp)
    have hb : b ∈ tags := hsub.subset (by simp)
    rw [ne_eq, Bool.not_eq_false, Scalar.clashes_iff] at hclash
    obtain ⟨value, hfirst, hsecond⟩ | ⟨flag, n, rfl, rfl, hsame⟩ | ⟨flag, n, rfl, rfl, hsame⟩ :=
      hclash
    · exact .inl ⟨value, two_le_countP_iff.mpr ⟨a, b, hsub, hfirst, hsecond⟩⟩
    · exact .inr ⟨flag, n, ha, hb, hsame⟩
    · exact .inr ⟨flag, n, hb, ha, hsame⟩
  · rintro (⟨value, htwo⟩ | ⟨flag, n, hflag, hn, hsame⟩) hapart
    · obtain ⟨a, b, hsub, ha, hb⟩ := two_le_countP_iff.mp htwo
      have hfalse := List.pairwise_iff_forall_sublist.mp hapart hsub
      exact Bool.false_ne_true (hfalse.symm.trans (Scalar.clashes_of_accepts ha hb))
    · have hsymm : Std.Symm fun a b : Scalar => a.clashes b = false := by
        constructor
        intro a b h
        exact (Scalar.clashes_comm b a).trans h
      have hne : Scalar.bool flag ≠ Scalar.number n := nofun
      have hfalse := hapart.forall hflag hn hne
      exact Bool.false_ne_true (hfalse.symm.trans hsame)

/-- Tags that are not apart are refused at the first one that clashes with a tag before it. -/
theorem addTags_of_not_apart {seen : List Scalar}
    (hseen : seen.Pairwise fun a b => a.clashes b = false)
    (h : ¬(seen ++ tags).Pairwise fun a b => a.clashes b = false) :
    ∃ tag ∈ tags, checkTags.addTags seen tags = refuse (.duplicateTag tag) := by
  induction tags generalizing seen with
  | nil => exact absurd (by rwa [List.append_nil]) h
  | cons tag tags ih =>
    rw [checkTags.addTags]
    by_cases hclash : (seen.any fun old => old.clashes tag) = true
    · exact ⟨tag, List.mem_cons_self, if_pos hclash⟩
    · obtain ⟨found, hfound, hrefused⟩ := ih (apart_concat hseen hclash) (by simpa using h)
      exact ⟨found, List.mem_cons_of_mem tag hfound, by rw [if_neg hclash, hrefused]⟩

/-- Adding tags is the same as adding the first ones of them and then the others. -/
theorem addTags_append (seen more : List Scalar) :
    checkTags.addTags seen (tags ++ more) =
      checkTags.addTags seen tags >>= fun all => checkTags.addTags all more := by
  induction tags generalizing seen with
  | nil => rfl
  | cons tag tags ih =>
    rw [List.cons_append, checkTags.addTags, checkTags.addTags]
    by_cases hclash : (seen.any fun old => old.clashes tag) = true
    · rw [if_pos hclash, if_pos hclash]
      rfl
    · rw [if_neg hclash, if_neg hclash, ih]

/-- The tags of options are added one after another if each option has some. -/
theorem checkTags_eq {seen : List Scalar} (htags : ∀ s ∈ options, s.HasTags discriminator) :
    checkTags discriminator seen options =
      (checkTags.addTags seen (options.flatMap (tagsOf discriminator))).map fun _ => () := by
  induction options generalizing seen with
  | nil => rfl
  | cons s options ih =>
    rw [List.forall_mem_cons] at htags
    obtain ⟨htagged, hothers⟩ := htags
    have hne := htagged.tagsOf_ne_nil
    obtain ⟨shape, unknownKeys, catchall, strictMessage, -, hform, -⟩ := htagged
    rw [checkTags, List.flatMap_cons, addTags_append]
    simp only [hform]
    cases checkTags.addTags seen (tagsOf discriminator s) with
    | error e => rfl
    | ok all => exact ih hothers

/-- A list of objects whose field under a key is a literal or an enumeration makes a discriminated
union, unless a tag is refused as a duplicate. That happens if a value has two of the tags, and also
if there is a truth value among them next to a number that it counts as. -/
theorem discriminatedUnion_duplicate_iff (hne : options ≠ [])
    (htags : ∀ s ∈ options, s.HasTags discriminator) :
    let tags := options.flatMap (tagsOf discriminator)
    let built := Constructor.discriminatedUnion.build
      [.text discriminator, .array (options.map .schema)]
    ((∃ tag ∈ tags, built = refuse (.duplicateTag tag)) ↔
      (∃ value, 2 ≤ tags.countP fun tag => tag.accepts value) ∨
        ∃ flag n, .bool flag ∈ tags ∧ .number n ∈ tags ∧
          (Scalar.ofBool flag).same n = true) ∧
      ((∀ tag ∈ tags, built ≠ refuse (.duplicateTag tag)) →
        built = .ok (.plain (.discriminatedUnion discriminator options))) := by
  intro tags built
  have happly : built = checkTags discriminator [] options >>= fun _ =>
      .ok (.plain (.discriminatedUnion discriminator options)) := by
    change (schemasArgument "discriminatedUnion" 1 (.array (options.map .schema)) >>= _) = _
    rw [schemasArgument_schema, if_neg hne]
    rfl
  rw [checkTags_eq htags] at happly
  rw [← not_apart_iff]
  by_cases hapart : tags.Pairwise fun a b => a.clashes b = false
  · have hadded : checkTags.addTags [] tags = .ok tags :=
      addTags_of_apart (by rwa [List.nil_append])
    have hbuilt : built = .ok (.plain (.discriminatedUnion discriminator options)) := by
      rw [happly, hadded]
      rfl
    refine ⟨iff_of_false ?_ (not_not_intro hapart), fun _ => hbuilt⟩
    rintro ⟨tag, -, hrefused⟩
    exact nomatch hbuilt.symm.trans hrefused
  · obtain ⟨tag, htag, hadded⟩ :
        ∃ tag ∈ tags, checkTags.addTags [] tags = refuse (.duplicateTag tag) :=
      addTags_of_not_apart .nil (by rwa [List.nil_append])
    have hrefused : built = refuse (.duplicateTag tag) := by
      rw [happly, hadded]
      rfl
    refine ⟨iff_of_true ⟨tag, htag, hrefused⟩ hapart, fun hnever => ?_⟩
    exact absurd hrefused (hnever tag htag)

/-- An enumeration can be told apart from a number and null, but a number cannot be told apart from
the double of its value. -/
theorem discriminatedUnion_duplicate_iff_double :
    let option (form : Form) : Schema := .plain (.object [("k", .plain form)] none none none)
    let one := option (.literal (.number (.int 1)))
    let double := option (.literal (.number (.float (.nearestInt 1))))
    let others := [option (.enum ["1", "null"]), option (.literal .null)]
    let built (options : List Schema) :=
      Constructor.discriminatedUnion.build [.text "k", .array (options.map .schema)]
    (∀ s ∈ others ++ [one], s.HasTags "k") ∧ (∀ s ∈ others ++ [one, double], s.HasTags "k") ∧
      built (others ++ [one]) = .ok (.plain (.discriminatedUnion "k" (others ++ [one]))) ∧
      ∃ tag, built (others ++ [one, double]) = refuse (.duplicateTag tag) := by
  intro option one double others built
  have hliteral (value : Scalar) : (option (.literal value)).HasTags "k" :=
    ⟨_, _, _, _, _, rfl, rfl, .inl ⟨value, rfl⟩⟩
  have henum : (option (.enum ["1", "null"])).HasTags "k" :=
    ⟨_, _, _, _, _, rfl, rfl, .inr ⟨_, List.cons_ne_nil _ _, rfl⟩⟩
  have hothers : ∀ s ∈ others, s.HasTags "k" := by
    intro s hs
    simp only [others, List.mem_cons, List.not_mem_nil, or_false] at hs
    obtain rfl | rfl := hs
    · exact henum
    · exact hliteral .null
  have hone : ∀ s ∈ others ++ [one], s.HasTags "k" := by
    simpa [or_imp, forall_and] using ⟨hothers, hliteral (.number (.int 1))⟩
  have hboth : ∀ s ∈ others ++ [one, double], s.HasTags "k" := by
    simpa [or_imp, forall_and] using
      ⟨hothers, hliteral (.number (.int 1)), hliteral (.number (.float (.nearestInt 1)))⟩
  refine ⟨hone, hboth, ?_, ?_⟩
  · obtain ⟨hiff, hbuilt⟩ := discriminatedUnion_duplicate_iff (by simp) hone
    refine hbuilt fun tag htag hrefused => ?_
    have hclash := hiff.mp ⟨tag, htag, hrefused⟩
    rw [← not_apart_iff] at hclash
    exact hclash (by decide +kernel)
  · obtain ⟨tag, -, hrefused⟩ := (discriminatedUnion_duplicate_iff (by simp) hboth).1.mpr
      (.inl ⟨.int 1, by decide +kernel⟩)
    exact ⟨tag, hrefused⟩

/-- No value is both the number one and the truth value that counts as it, and still the second of
them is refused. -/
theorem discriminatedUnion_duplicate_flag :
    let option (value : Scalar) : Schema :=
      .plain (.object [("k", .plain (.literal value))] none none none)
    let options := [option (.number (.int 1)), option (.bool true)]
    (∀ s ∈ options, s.HasTags "k") ∧
      (¬∃ value, 2 ≤ (options.flatMap (tagsOf "k")).countP fun tag => tag.accepts value) ∧
      Constructor.discriminatedUnion.build [.text "k", .array (options.map .schema)] =
        refuse (.duplicateTag (.bool true)) := by
  intro option options
  refine ⟨?_, ?_, by with_unfolding_all rfl⟩
  · intro s hs
    simp only [options, List.mem_cons, List.not_mem_nil, or_false] at hs
    obtain rfl | rfl := hs <;> exact ⟨_, _, _, _, _, rfl, rfl, .inl ⟨_, rfl⟩⟩
  · rintro ⟨value, h⟩
    have htags : options.flatMap (tagsOf "k") = [.number (.int 1), .bool true] := rfl
    rw [htags] at h
    obtain ⟨a, b, hsub, ha, hb⟩ := two_le_countP_iff.mp h
    cases hsub.eq_of_length rfl
    cases value with
    | scalar s =>
      cases s with
      | bool flag => exact nomatch ha
      | _ => exact nomatch hb
    | _ => exact nomatch hb

end Constructor

end Conform
