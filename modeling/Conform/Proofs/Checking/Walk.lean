import Conform.Schema.Checking

/-!
# Walks that decide conditions

A walk decides a condition if it runs through from every context with a given policy, leaves the
path as it was, and notes a violation exactly when the condition fails. Walks that decide conditions
are composed in the same way as the conditions.

## Main definitions

- `Walk.Decides` — a walk decides a condition
- `Walk.Decides.seq`, `Walk.Decides.within` — composition
- `checkOptions_decides`, `checkTagged_run` — the choices of unions
-/

namespace Conform

namespace Walk

variable {α β : Type} {policy : Policy} {w : Walk PUnit} {P Q : Prop}

theorem run_bind (w : Walk α) (f : α → Walk β) (c : Context) :
    (w >>= f).run.run c =
      match w.run.run c with
      | (.ok a, d) => (f a).run.run d
      | (.error e, d) => (.error e, d) := by
  change (w >>= f) c = _
  change ExceptT.bind w f c = _
  simp only [ExceptT.bind, ExceptT.mk, bind, StateT.bind]
  rcases h : w.run.run c with ⟨r, d⟩
  change w c = (r, d) at h
  rw [h]
  cases r <;> rfl

/-- A walk goes on from where its first part has come. -/
theorem run_bind_of_ok {w : Walk α} {c d : Context} {a : α} (h : w.run.run c = (.ok a, d))
    (f : α → Walk β) : (w >>= f).run.run c = (f a).run.run d := by
  rw [run_bind, h]

theorem run_pure (a : α) (c : Context) : (pure a : Walk α).run.run c = (.ok a, c) := rfl

theorem run_note (message : Text) (c : Context) :
    (note message).run.run c = (.ok (), { c with issues := c.issues ++ [⟨c.path, message⟩] }) := rfl

theorem run_attempt (w : Walk PUnit) (c : Context) :
    (attempt w).run.run c =
      match w.run.run { c with issues := [] } with
      | (.ok _, d) => (.ok d.issues, c)
      | (.error e, _) => (.error e, c) := rfl

theorem run_within (key : Key) (w : Walk PUnit) (c : Context) :
    (within key w).run.run c =
      match w.run.run { c with path := c.path ++ [key] } with
      | (result, d) => (result, { d with path := d.path.dropLast }) := rfl

theorem run_absorb (issues : List Issue) (c : Context) :
    (absorb issues).run.run c = (.ok (), { c with issues := c.issues ++ issues }) := rfl

/-- A walk runs through under a policy and notes a violation exactly when a condition fails. -/
def Decides (policy : Policy) (w : Walk PUnit) (P : Prop) : Prop :=
  ∀ c : Context, c.policy = policy → ∃ found : List Issue,
    w.run.run c = (.ok (), { c with issues := c.issues ++ found }) ∧ (found = [] ↔ P)

theorem Decides.congr (h : Decides policy w P) (hPQ : P ↔ Q) : Decides policy w Q := by
  intro c hc
  obtain ⟨found, hrun, hfound⟩ := h c hc
  exact ⟨found, hrun, hfound.trans hPQ⟩

theorem decides_pure (hP : P) : Decides policy (pure ()) P := by
  intro c _
  exact ⟨[], by rw [run_pure, List.append_nil], by simp [hP]⟩

theorem decides_note (message : Text) (hP : ¬P) : Decides policy (note message) P := by
  intro c _
  exact ⟨_, run_note message c, by simp [hP]⟩

/-- A missing condition is noted, and so is nothing else. -/
theorem decides_noteAny {fault : Option Text} (h : fault = none ↔ P) :
    Decides policy (noteAny fault) P := by
  cases fault with
  | none => exact decides_pure (h.mp rfl)
  | some message => exact decides_note message fun hP => by simpa using h.mpr hP

theorem decides_noteType (expected : Text) (value : Value) (hP : ¬P) :
    Decides policy (noteType expected value) P := by
  unfold noteType
  split
  · exact decides_note _ hP
  · exact decides_note _ hP

/-- One walk after another decides both conditions. -/
theorem Decides.seq {v : Walk PUnit} (hw : Decides policy w P) (hv : Decides policy v Q) :
    Decides policy (do w; v) (P ∧ Q) := by
  intro c hc
  obtain ⟨found, hrun, hfound⟩ := hw c hc
  obtain ⟨more, hrun', hmore⟩ := hv { c with issues := c.issues ++ found } hc
  refine ⟨found ++ more, ?_, by rw [List.append_eq_nil_iff, hfound, hmore]⟩
  rw [run_bind_of_ok hrun, hrun', List.append_assoc]

/-- A violation may be noted before a walk. -/
theorem Decides.noteWhen (hw : Decides policy w P) (wrong : Bool) (message : Text) :
    Decides policy (if wrong = true then (do note message; w) else w) (wrong = false ∧ P) := by
  cases wrong with
  | true => exact ((decides_note message id).seq hw).congr (by simp)
  | false => exact hw.congr (by simp)

/-- A walk through a part decides the same condition. -/
theorem Decides.within (key : Key) (hw : Decides policy w P) :
    Decides policy (within key w) P := by
  intro c hc
  obtain ⟨found, hrun, hfound⟩ := hw { c with path := c.path ++ [key] } hc
  refine ⟨found, ?_, hfound⟩
  rw [run_within, hrun]
  simp only [List.dropLast_concat]

/-- A walk over a list decides what its steps decide of every item. -/
theorem decides_forM {items : List α} {step : α → Walk PUnit} {holds : α → Prop}
    (h : ∀ a ∈ items, Decides policy (step a) (holds a)) :
    Decides policy (items.forM step) (∀ a ∈ items, holds a) := by
  induction items with
  | nil => exact decides_pure (by simp)
  | cons a items ih =>
    have hhead := h a List.mem_cons_self
    have htail := ih fun b hb => h b (List.mem_cons_of_mem a hb)
    exact (hhead.seq htail).congr (by simp)

/-- What a walk would note at the current context, and that nothing is noted. -/
theorem Decides.attempt (hw : Decides policy w P) {c : Context} (hc : c.policy = policy) :
    ∃ issues : List Issue, (Walk.attempt w).run.run c = (.ok issues, c) ∧ (issues = [] ↔ P) := by
  obtain ⟨found, hrun, hfound⟩ := hw { c with issues := [] } hc
  refine ⟨found, ?_, hfound⟩
  rw [run_attempt, hrun]
  simp only [List.nil_append]

end Walk

open Walk

variable {policy : Policy}

theorem eachFrom_decides {check : Value → Walk PUnit} {holds : Value → Prop} {items : List Value}
    (h : ∀ v ∈ items, Decides policy (check v) (holds v)) (index : Nat) :
    Decides policy (eachFrom check index items) (∀ v ∈ items, holds v) := by
  induction items generalizing index with
  | nil => exact decides_pure (by simp)
  | cons v items ih =>
    have hhead := (h v List.mem_cons_self).within (.index index)
    have htail := ih (fun u hu => h u (List.mem_cons_of_mem v hu)) (index + 1)
    exact (hhead.seq htail).congr (by simp)

theorem eachField_decides {check : Text → Value → Walk PUnit} (holds : Text → Value → Prop)
    {fields : List (Text × Value)}
    (h : ∀ p ∈ fields, Decides policy (check p.1 p.2) (holds p.1 p.2)) :
    Decides policy (eachField check fields) (∀ p ∈ fields, holds p.1 p.2) := by
  induction fields with
  | nil => exact decides_pure (by simp)
  | cons p fields ih =>
    have hhead := (h p List.mem_cons_self).within (.field p.1)
    have htail := ih fun q hq => h q (List.mem_cons_of_mem p hq)
    exact (hhead.seq htail).congr (by simp)

theorem checkShape_decides {shape : List (Text × Schema)} {fields : List (Text × Value)}
    {holds : Text × Schema → Prop}
    (h : ∀ p ∈ shape, Decides policy (p.2.check (fieldValue fields p.1)) (holds p)) :
    Decides policy (checkShape shape fields) (∀ p ∈ shape, holds p) := by
  induction shape with
  | nil => exact decides_pure (by simp)
  | cons p shape ih =>
    have hhead := (h p List.mem_cons_self).within (.field p.1)
    have htail := ih fun q hq => h q (List.mem_cons_of_mem p hq)
    exact (hhead.seq htail).congr (by simp)

theorem checkItems_decides {items : List Schema} {values : List Value}
    {holds : Schema → Value → Prop}
    (h : ∀ s ∈ items, ∀ v ∈ values, Decides policy (s.check v) (holds s v)) (index : Nat) :
    Decides policy (checkItems items values index)
      (∀ p ∈ items.zip values, holds p.1 p.2) := by
  induction items generalizing values index with
  | nil => exact decides_pure (by simp)
  | cons s items ih =>
    cases values with
    | nil => exact decides_pure (by simp)
    | cons v values =>
      have hhead := (h s List.mem_cons_self v List.mem_cons_self).within (.index index)
      have htail := ih (fun t ht u hu => h t (List.mem_cons_of_mem s ht) u
        (List.mem_cons_of_mem v hu)) (index + 1)
      exact (hhead.seq htail).congr (by simp)

/-- The violations that are kept when those of one more option are known. -/
def fewestIssues (best : Option (List Issue)) (issues : List Issue) : List Issue :=
  match best with
  | some old => if issues.length < old.length then issues else old
  | none => issues

/-- Nothing is kept exactly when the last option has no violations, as long as those before had
some. -/
theorem fewestIssues_eq_nil_iff {best : Option (List Issue)} (hbest : best ≠ some [])
    (issues : List Issue) : fewestIssues best issues = [] ↔ issues = [] := by
  cases best with
  | none => exact Iff.rfl
  | some old =>
    have hold : old ≠ [] := fun hnil => hbest (by rw [hnil])
    by_cases hshort : issues.length < old.length
    · rw [fewestIssues, if_pos hshort]
    · -- No list is shorter than an empty one, so the last option had violations, too.
      rw [fewestIssues, if_neg hshort]
      have hissues : issues ≠ [] := by
        rintro rfl
        exact hshort (List.length_pos_iff.mpr hold)
      simp [hold, hissues]

theorem checkOptions_cons_run {s : Schema} {options : List Schema} {value : Value}
    {best : Option (List Issue)} {issues : List Issue} {c : Context}
    (hrun : (attempt (s.check value)).run.run c = (.ok issues, c)) :
    (checkOptions (s :: options) value best).run.run c =
      if fewestIssues best issues = [] then (.ok (), c)
      else (checkOptions options value (some (fewestIssues best issues))).run.run c := by
  rw [checkOptions, run_bind_of_ok hrun]
  change (if (fewestIssues best issues).isEmpty = true then pure ()
    else checkOptions options value (some (fewestIssues best issues))).run.run c = _
  by_cases hnil : fewestIssues best issues = []
  · rw [if_pos (List.isEmpty_iff.mpr hnil), if_pos hnil, run_pure]
  · rw [if_neg (mt List.isEmpty_iff.mp hnil), if_neg hnil]

/-- A union finds nothing exactly when one of its options does, provided that there is an option or
that an attempt before them found something. -/
theorem checkOptions_decides {options : List Schema} {value : Value} {holds : Schema → Prop}
    (h : ∀ s ∈ options, Decides policy (s.check value) (holds s))
    {best : Option (List Issue)} (hbest : best ≠ some []) (hne : best = none → options ≠ []) :
    Decides policy (checkOptions options value best) (∃ s ∈ options, holds s) := by
  induction options generalizing best with
  | nil =>
    obtain ⟨old, rfl⟩ : ∃ old, best = some old :=
      Option.ne_none_iff_exists'.mp fun hnone => hne hnone rfl
    intro c _
    refine ⟨old, run_absorb old c, ?_⟩
    have hold : old ≠ [] := fun hnil => hbest (by rw [hnil])
    simp [hold]
  | cons s options ih =>
    intro c hc
    obtain ⟨issues, hrun, hissues⟩ := (h s List.mem_cons_self).attempt hc
    rw [checkOptions_cons_run hrun]
    by_cases hholds : holds s
    · -- Nothing was noted, so the search ends here and nothing is absorbed.
      rw [if_pos ((fewestIssues_eq_nil_iff hbest issues).mpr (hissues.mpr hholds))]
      exact ⟨[], by rw [List.append_nil], by simp [hholds]⟩
    · have hmore : fewestIssues best issues ≠ [] := fun hnil =>
        hholds (hissues.mp ((fewestIssues_eq_nil_iff hbest issues).mp hnil))
      rw [if_neg hmore]
      have hkept : some (fewestIssues best issues) ≠ some [] := by simpa using hmore
      obtain ⟨found, hfrun, hfound⟩ :=
        ih (fun t ht => h t (List.mem_cons_of_mem s ht)) hkept (by simp) c hc
      exact ⟨found, hfrun, by simpa [hholds] using hfound⟩

/-- Whether one of the tags of an option is the given value. -/
def Schema.isTagged (discriminator : Text) (tag : Value) (s : Schema) : Bool :=
  (tagsOf discriminator s).any fun candidate => candidate.accepts tag

/-- The first option with a tag that the value has is the only one that counts, if no two options
share a tag. -/
theorem checkTagged_run {discriminator : Text} {tag value : Value} {options : List Schema}
    {holds : Schema → Prop} (h : ∀ s ∈ options, Decides policy (s.check value) (holds s))
    (htags : options.Pairwise fun s t =>
      s.isTagged discriminator tag = true → t.isTagged discriminator tag = false)
    {c : Context} (hc : c.policy = policy) :
    (∃ found : List Issue,
      (checkTagged discriminator tag options value).run.run c =
        (.ok true, { c with issues := c.issues ++ found }) ∧
      (found = [] ↔ ∃ s ∈ options, s.isTagged discriminator tag = true ∧ holds s)) ∨
    ((checkTagged discriminator tag options value).run.run c = (.ok false, c) ∧
      ∀ s ∈ options, s.isTagged discriminator tag = false) := by
  induction options with
  | nil => exact .inr ⟨rfl, by simp⟩
  | cons s options ih =>
    rw [List.pairwise_cons] at htags
    have hstep : checkTagged discriminator tag (s :: options) value =
        if s.isTagged discriminator tag = true then (do s.check value; return true)
        else checkTagged discriminator tag options value := by rw [checkTagged]; rfl
    rw [hstep]
    by_cases hmatch : s.isTagged discriminator tag = true
    · left
      obtain ⟨found, hrun, hfound⟩ := h s List.mem_cons_self c hc
      refine ⟨found, by rw [if_pos hmatch, run_bind_of_ok hrun, run_pure], hfound.trans ?_⟩
      constructor
      · intro hholds
        exact ⟨s, List.mem_cons_self, hmatch, hholds⟩
      · rintro ⟨t, ht, htmatch, hholds⟩
        rcases List.mem_cons.mp ht with rfl | ht
        · exact hholds
        · -- An option behind this one has another tag.
          rw [htags.1 t ht hmatch] at htmatch
          exact absurd htmatch Bool.false_ne_true
    · rw [if_neg hmatch]
      rcases ih (fun t ht => h t (List.mem_cons_of_mem s ht)) htags.2 with
        ⟨found, hrun, hfound⟩ | ⟨hrun, hnone⟩
      · exact .inl ⟨found, hrun, hfound.trans (by simp [hmatch])⟩
      · exact .inr ⟨hrun, List.forall_mem_cons.mpr ⟨by simpa using hmatch, hnone⟩⟩

end Conform
