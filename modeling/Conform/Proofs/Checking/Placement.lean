import Conform.Proofs.Checking.Walk
import Mathlib.Tactic.Choose

/-!
# Walks at any place

What a walk finds depends neither on the path at which it starts nor on the violations found before.
It is told relative to that path: elsewhere the same violations are noted with the other path in
front of theirs, and the path is restored even when the walk stops.

## Main definitions

- `Issue.under` — a violation with a path put in front of its own
- `Walk.Yields` — the outcome of a walk and what it finds, wherever it starts
- `Walk.Uniform` — there is an outcome that does not depend on the place
- `Walk.Finds` — where a walk finds violations, and what it takes to stop it
- `Walk.inTurn` — parts that are walked one after another
- `Walk.Report`, `Walk.Report.fewest` — what walks come to, and what a union makes of that
- `union_yields`, `options_finds` — the attempts of a union
-/

namespace Conform

/-- A violation with a path put in front of its own. -/
def Issue.under (path : List Key) (i : Issue) : Issue := { i with path := path ++ i.path }

theorem Issue.under_nil : Issue.under [] = id := rfl

/-- Paths are put in front one after another. -/
theorem Issue.map_under_append (p q : List Key) (issues : List Issue) :
    (issues.map (Issue.under q)).map (Issue.under p) = issues.map (Issue.under (p ++ q)) := by
  rw [List.map_map]
  refine List.map_congr_left fun i _ => ?_
  simp only [Function.comp, Issue.under, List.append_assoc]

namespace Walk

variable {α β : Type} {policy : Policy} {w : Walk α} {f : α → Walk β} {a : α} {e : Abort}
  {outcome outcome' : Except Abort α} {found found' : List Issue}

/-- Under a policy a walk comes to an outcome and finds violations, whatever the path at which it
starts and whatever was found before. -/
def Yields (policy : Policy) (w : Walk α) (outcome : Except Abort α) (found : List Issue) : Prop :=
  ∀ path issues, w.run.run ⟨path, issues, policy⟩ =
    (outcome, ⟨path, issues ++ found.map (Issue.under path), policy⟩)

/-- The outcome and the violations found are determined. -/
theorem Yields.unique (h : Yields policy w outcome found) (h' : Yields policy w outcome' found') :
    outcome = outcome' ∧ found = found' := by
  obtain ⟨houtcome, hcontext⟩ := Prod.mk.inj ((h [] []).symm.trans (h' [] []))
  refine ⟨houtcome, ?_⟩
  have hissues := congrArg Context.issues hcontext
  simpa only [Issue.under_nil, List.map_id_fun, id_eq, List.nil_append] using hissues

theorem yields_pure (a : α) : Yields policy (pure a) (.ok a) [] := by
  intro path issues
  rw [run_pure, List.map_nil, List.append_nil]

theorem yields_throw (e : Abort) : Yields policy (throw e : Walk α) (.error e) [] := by
  intro path issues
  rw [List.map_nil, List.append_nil]
  rfl

theorem yields_note (message : Text) : Yields policy (note message) (.ok ()) [⟨[], message⟩] := by
  intro path issues
  rw [run_note, List.map_singleton, Issue.under, List.append_nil]

/-- What is found by two walks, one after the other. -/
theorem Yields.bind {outcome : Except Abort β} (hw : Yields policy w (.ok a) found)
    (hf : Yields policy (f a) outcome found') :
    Yields policy (w >>= f) outcome (found ++ found') := by
  intro path issues
  rw [run_bind_of_ok (hw path issues), hf path, List.map_append, List.append_assoc]

/-- Nothing is walked behind a stop. -/
theorem Yields.bind_error (hw : Yields policy w (.error e) found) :
    Yields policy (w >>= f) (.error e) found := by
  intro path issues
  rw [run_bind, hw path issues]

/-- The violations of a part are found at paths through its key. -/
theorem Yields.within {w : Walk PUnit} {outcome : Except Abort PUnit}
    (h : Yields policy w outcome found) (key : Key) :
    Yields policy (within key w) outcome (found.map (Issue.under [key])) := by
  intro path issues
  rw [run_within, h (path ++ [key]) issues, Issue.map_under_append]
  simp only [List.dropLast_concat]

/-- A walk comes to the same outcome and finds the same violations at every place. -/
def Uniform (policy : Policy) (w : Walk α) : Prop :=
  ∃ outcome found, Yields policy w outcome found

/-- A run through two uniform walks is a run through the first and a run through the second. -/
theorem Yields.of_bind {b : β} (hw : Uniform policy w) (hf : ∀ a, Uniform policy (f a))
    (h : Yields policy (w >>= f) (.ok b) found) :
    ∃ a first second, Yields policy w (.ok a) first ∧ Yields policy (f a) (.ok b) second ∧
      found = first ++ second := by
  obtain ⟨outcome, first, hfirst⟩ := hw
  cases outcome with
  | error e => exact absurd (h.unique hfirst.bind_error).1 (by simp)
  | ok a =>
    obtain ⟨outcome, second, hsecond⟩ := hf a
    obtain ⟨rfl, rfl⟩ := h.unique (hfirst.bind hsecond)
    exact ⟨a, first, second, hfirst, hsecond, rfl⟩

/-- A walk has an outcome at every place, finds violations only at paths of some kind, and stops
only under a condition. -/
def Finds (policy : Policy) (w : Walk α) (At : List Key → Prop) (Stops : Prop) : Prop :=
  ∃ outcome found, Yields policy w outcome found ∧ (∀ i ∈ found, At i.path) ∧
    ∀ e, outcome = .error e → Stops

variable {At At' : List Key → Prop} {Stops Stops' : Prop}

theorem Finds.uniform (h : Finds policy w At Stops) : Uniform policy w := by
  obtain ⟨outcome, found, hyields, _⟩ := h
  exact ⟨outcome, found, hyields⟩

/-- A uniform walk finds violations at some paths. -/
theorem Uniform.finds (h : Uniform policy w) : Finds policy w (fun _ => True) True := by
  obtain ⟨outcome, found, hyields⟩ := h
  exact ⟨outcome, found, hyields, fun _ _ => trivial, fun _ _ => trivial⟩

/-- **Consequence.** -/
theorem Finds.mono (h : Finds policy w At Stops) (hat : ∀ path, At path → At' path)
    (hstops : Stops → Stops') : Finds policy w At' Stops' := by
  obtain ⟨outcome, found, hyields, hfound, hstop⟩ := h
  exact ⟨outcome, found, hyields, fun i hi => hat _ (hfound i hi), fun e he => hstops (hstop e he)⟩

theorem finds_pure (a : α) : Finds policy (pure a) At Stops :=
  ⟨.ok a, [], yields_pure a, fun _ hi => absurd hi List.not_mem_nil, fun _ he => nomatch he⟩

theorem finds_throw (e : Abort) (h : Stops) : Finds policy (throw e : Walk α) At Stops :=
  ⟨.error e, [], yields_throw e, fun _ hi => absurd hi List.not_mem_nil, fun _ _ => h⟩

theorem finds_note (message : Text) (h : At []) : Finds policy (note message) At Stops :=
  ⟨.ok (), _, yields_note message, List.forall_mem_singleton.mpr h, fun _ he => nomatch he⟩

theorem finds_noteAny (fault : Option Text) (h : At []) :
    Finds policy (noteAny fault) At Stops := by
  cases fault with
  | none => exact finds_pure ()
  | some message => exact finds_note message h

theorem finds_noteType (expected : Text) (value : Value) (h : At []) :
    Finds policy (noteType expected value) At Stops := by
  unfold noteType
  split
  · exact finds_note _ h
  · exact finds_note _ h

/-- **Composition.** -/
theorem Finds.bind (hw : Finds policy w At Stops) (hf : ∀ a, Finds policy (f a) At Stops) :
    Finds policy (w >>= f) At Stops := by
  obtain ⟨outcome, found, hyields, hfound, hstop⟩ := hw
  cases outcome with
  | error e => exact ⟨.error e, found, hyields.bind_error, hfound, fun _ _ => hstop e rfl⟩
  | ok a =>
    obtain ⟨outcome, more, hmore, hmorefound, hmorestop⟩ := hf a
    refine ⟨outcome, found ++ more, hyields.bind hmore, fun i hi => ?_, hmorestop⟩
    exact (List.mem_append.mp hi).elim (hfound i) (hmorefound i)

/-- **Parts.** -/
theorem Finds.within {w : Walk PUnit} {key : Key}
    (h : Finds policy w (fun path => At (key :: path)) Stops) :
    Finds policy (within key w) At Stops := by
  obtain ⟨outcome, found, hyields, hfound, hstop⟩ := h
  refine ⟨outcome, _, hyields.within key, fun i hi => ?_, hstop⟩
  obtain ⟨j, hj, rfl⟩ := List.mem_map.mp hi
  exact hfound j hj

/-- A violation may be noted before a walk. -/
theorem Finds.noteWhen {w : Walk PUnit} (h : Finds policy w At Stops) (wrong : Bool)
    (message : Text) (hat : At []) :
    Finds policy (if wrong = true then (do note message; w) else w) At Stops := by
  cases wrong with
  | true => exact (finds_note message hat).bind fun _ => h
  | false => exact h

theorem finds_forM {items : List β} {step : β → Walk PUnit}
    (h : ∀ b ∈ items, Finds policy (step b) At Stops) :
    Finds policy (items.forM step) At Stops := by
  induction items with
  | nil => exact finds_pure ()
  | cons b items ih =>
    exact (h b List.mem_cons_self).bind fun _ => ih fun c hc => h c (List.mem_cons_of_mem b hc)

theorem Uniform.bind (hw : Uniform policy w) (hf : ∀ a, Uniform policy (f a)) :
    Uniform policy (w >>= f) :=
  (hw.finds.bind fun a => (hf a).finds).uniform

theorem Uniform.within {w : Walk PUnit} (h : Uniform policy w) (key : Key) :
    Uniform policy (within key w) := by
  have hfinds : Finds policy (Walk.within key w) (fun _ => True) True := Finds.within h.finds
  exact hfinds.uniform

theorem uniform_noteAny (fault : Option Text) : Uniform policy (noteAny fault) := by
  have hfinds : Finds policy (noteAny fault) (fun _ => True) True := finds_noteAny fault trivial
  exact hfinds.uniform

theorem uniform_forM {items : List β} {step : β → Walk PUnit}
    (h : ∀ b ∈ items, Uniform policy (step b)) : Uniform policy (items.forM step) :=
  (finds_forM fun b hb => (h b hb).finds).uniform

/-- The policy that a walk reads is the one it was started with. -/
theorem yields_policy {walk : Policy → Walk PUnit} {outcome : Except Abort PUnit}
    (h : Yields policy (walk policy) outcome found) :
    Yields policy (do walk (← get).policy) outcome found := by
  intro path issues
  have hget : (get : Walk Context).run.run ⟨path, issues, policy⟩ =
      (.ok ⟨path, issues, policy⟩, ⟨path, issues, policy⟩) := rfl
  rw [run_bind_of_ok hget]
  exact h path issues

theorem finds_policy (walk : Policy → Walk PUnit) (h : Finds policy (walk policy) At Stops) :
    Finds policy (do walk (← get).policy) At Stops := by
  obtain ⟨outcome, found, hyields, hfound⟩ := h
  exact ⟨outcome, found, yields_policy hyields, hfound⟩

/-- Parts with their keys, walked one after another. -/
def inTurn (parts : List (Key × Walk PUnit)) : Walk PUnit :=
  parts.forM fun (key, w) => Walk.within key w

/-- What is found in parts is found at paths through their keys. -/
theorem inTurn_finds {parts : List (Key × Walk PUnit)}
    (h : ∀ p ∈ parts, Finds policy p.2 (fun path => At (p.1 :: path)) Stops) :
    Finds policy (inTurn parts) At Stops :=
  finds_forM fun p hp => (h p hp).within

theorem inTurn_uniform {parts : List (Key × Walk PUnit)} (h : ∀ p ∈ parts, Uniform policy p.2) :
    Uniform policy (inTurn parts) :=
  uniform_forM fun p hp => (h p hp).within p.1

end Walk

open Walk

theorem eachFrom_eq (check : Value → Walk PUnit) (index : Nat) (items : List Value) :
    eachFrom check index items =
      inTurn ((items.zipIdx index).map fun p => (.index p.2, check p.1)) := by
  induction items generalizing index with
  | nil => rfl
  | cons v items ih =>
    rw [eachFrom, ih]
    rfl

theorem eachField_eq (check : Text → Value → Walk PUnit) (fields : List (Text × Value)) :
    eachField check fields = inTurn (fields.map fun p => (.field p.1, check p.1 p.2)) := by
  induction fields with
  | nil => rfl
  | cons p fields ih =>
    rw [eachField, ih]
    rfl

theorem checkShape_eq (shape : List (Text × Schema)) (fields : List (Text × Value)) :
    checkShape shape fields =
      inTurn (shape.map fun p => (.field p.1, p.2.check (fieldValue fields p.1))) := by
  induction shape with
  | nil => rfl
  | cons p shape ih =>
    rw [checkShape, ih]
    rfl

theorem checkItems_eq (items : List Schema) (values : List Value) (index : Nat) :
    checkItems items values index =
      inTurn (((items.zip values).zipIdx index).map fun p => (.index p.2, p.1.1.check p.1.2)) := by
  induction items generalizing values index with
  | nil => rfl
  | cons s items ih =>
    cases values with
    | nil => rfl
    | cons v values =>
      rw [checkItems, ih]
      rfl

/-- Of the options of a discriminated union the first one with the tag is walked, if there is
one. -/
theorem checkTagged_eq (discriminator : Text) (tag : Value) (options : List Schema)
    (value : Value) :
    checkTagged discriminator tag options value =
      match options.find? (Schema.isTagged discriminator tag) with
      | some s => do s.check value; return true
      | none => pure false := by
  induction options with
  | nil => rfl
  | cons s options ih =>
    have hstep : checkTagged discriminator tag (s :: options) value =
        if s.isTagged discriminator tag = true then (do s.check value; return true)
        else checkTagged discriminator tag options value := by rw [checkTagged]; rfl
    rw [hstep, List.find?_cons]
    by_cases htagged : s.isTagged discriminator tag = true
    · rw [if_pos htagged, htagged]
    · rw [if_neg htagged, Bool.eq_false_iff.mpr htagged]
      exact ih

/-- The choice of the fewest violations does not depend on their paths. -/
theorem fewestIssues_map (f : Issue → Issue) (best : Option (List Issue)) (issues : List Issue) :
    fewestIssues (best.map (List.map f)) (issues.map f) = (fewestIssues best issues).map f := by
  cases best with
  | none => rfl
  | some old =>
    rw [Option.map_some, fewestIssues, fewestIssues, List.length_map, List.length_map]
    by_cases hfewer : issues.length < old.length
    · rw [if_pos hfewer, if_pos hfewer]
    · rw [if_neg hfewer, if_neg hfewer]

/-- The outcome of a walk and what it finds. -/
structure Walk.Report where
  outcome : Except Abort PUnit
  found : List Issue

/-- What a union comes to, given what its options come to: the first option with the fewest
violations stands for it, and none behind one without violations is tried. -/
def Walk.Report.fewest : (best : Option (List Issue)) → List Report → Report
  | best, [] => ⟨.ok (), best.getD []⟩
  | best, r :: reports =>
    match r.outcome with
    | .error e => ⟨.error e, []⟩
    | .ok _ =>
      if fewestIssues best r.found = [] then ⟨.ok (), []⟩
      else fewest (some (fewestIssues best r.found)) reports

/-- The attempts of a union. The best one so far is told with full paths, so that the place where
the union is walked shows in it. -/
theorem checkOptions_run {policy : Policy} {options : List Schema} {value : Value}
    {report : Schema → Report}
    (h : ∀ s ∈ options, Yields policy (s.check value) (report s).outcome (report s).found)
    (best : Option (List Issue)) (path : List Key) (issues : List Issue) :
    (checkOptions options value (best.map (List.map (Issue.under path)))).run.run
        ⟨path, issues, policy⟩ =
      ((Report.fewest best (options.map report)).outcome,
        ⟨path, issues ++ (Report.fewest best (options.map report)).found.map (Issue.under path),
          policy⟩) := by
  induction options generalizing best with
  | nil =>
    rw [checkOptions, run_absorb]
    cases best <;> rfl
  | cons s options ih =>
    rw [List.forall_mem_cons] at h
    rw [List.map_cons, Report.fewest]
    have hyields := h.1
    cases houtcome : (report s).outcome with
    | error e =>
      have hattempt : (attempt (s.check value)).run.run ⟨path, issues, policy⟩ =
          (.error e, ⟨path, issues, policy⟩) := by rw [run_attempt, hyields path [], houtcome]
      rw [checkOptions, run_bind, hattempt]
      dsimp only
      rw [List.map_nil, List.append_nil]
    | ok _ =>
      have hattempt : (attempt (s.check value)).run.run ⟨path, issues, policy⟩ =
          (.ok ((report s).found.map (Issue.under path)), ⟨path, issues, policy⟩) := by
        rw [run_attempt, hyields path [], houtcome, List.nil_append]
      rw [checkOptions_cons_run hattempt, fewestIssues_map]
      dsimp only
      by_cases hnil : fewestIssues best (report s).found = []
      · -- The option finds nothing, and so does the union.
        rw [if_pos (List.map_eq_nil_iff.mpr hnil), if_pos hnil, List.map_nil, List.append_nil]
      · rw [if_neg (mt List.map_eq_nil_iff.mp hnil), if_neg hnil]
        exact ih h.2 (some (fewestIssues best (report s).found))

/-- What a union comes to. -/
theorem union_yields {policy : Policy} {options : List Schema} {value : Value}
    {report : Schema → Report}
    (h : ∀ s ∈ options, Yields policy (s.check value) (report s).outcome (report s).found) :
    Yields policy (Form.check (.union options) value)
      (Report.fewest none (options.map report)).outcome
      (Report.fewest none (options.map report)).found :=
  checkOptions_run h none

/-- The violations that stand for a union are those of an option, or those kept before. -/
theorem Walk.Report.mem_fewest {best : Option (List Issue)} {reports : List Report} {i : Issue}
    (h : i ∈ (fewest best reports).found) :
    (∃ old ∈ best, i ∈ old) ∨ ∃ r ∈ reports, i ∈ r.found := by
  induction reports generalizing best with
  | nil =>
    cases best with
    | none => exact absurd h List.not_mem_nil
    | some old => exact .inl ⟨old, rfl, h⟩
  | cons r reports ih =>
    obtain ⟨outcome, found⟩ := r
    have hkept (hi : i ∈ fewestIssues best found) :
        (∃ old ∈ best, i ∈ old) ∨ ∃ r ∈ ⟨outcome, found⟩ :: reports, i ∈ r.found := by
      cases best with
      | none => exact .inr ⟨_, List.mem_cons_self, hi⟩
      | some old =>
        rw [fewestIssues] at hi
        split at hi
        · exact .inr ⟨_, List.mem_cons_self, hi⟩
        · exact .inl ⟨old, rfl, hi⟩
    cases outcome with
    | error e => exact absurd h List.not_mem_nil
    | ok _ =>
      rw [fewest] at h
      dsimp only at h
      split at h
      · exact absurd h List.not_mem_nil
      · rcases ih h with ⟨old, hold, hi⟩ | ⟨r, hr, hi⟩
        · obtain rfl := Option.some.inj hold
          exact hkept hi
        · exact .inr ⟨r, List.mem_cons_of_mem _ hr, hi⟩

/-- A union is stopped by one of its options. -/
theorem Walk.Report.stop_of_fewest {best : Option (List Issue)} {reports : List Report} {e : Abort}
    (h : (fewest best reports).outcome = .error e) : ∃ r ∈ reports, r.outcome = .error e := by
  induction reports generalizing best with
  | nil => exact nomatch h
  | cons r reports ih =>
    obtain ⟨outcome, found⟩ := r
    cases outcome with
    | error e' => exact ⟨_, List.mem_cons_self, h⟩
    | ok _ =>
      rw [fewest] at h
      dsimp only at h
      split at h
      · exact nomatch h
      · obtain ⟨r, hr, hstop⟩ := ih h
        exact ⟨r, List.mem_cons_of_mem _ hr, hstop⟩

/-- A union finds what its options find, and is stopped by what stops them. -/
theorem options_finds {policy : Policy} {At : List Key → Prop} {Stops : Prop}
    {options : List Schema} {value : Value}
    (h : ∀ s ∈ options, Finds policy (s.check value) At Stops) :
    Finds policy (Form.check (.union options) value) At Stops := by
  have heach : ∀ s, ∃ r : Report, s ∈ options →
      Yields policy (s.check value) r.outcome r.found ∧ (∀ i ∈ r.found, At i.path) ∧
        ∀ e, r.outcome = .error e → Stops := by
    intro s
    by_cases hs : s ∈ options
    · obtain ⟨outcome, found, hyields⟩ := h s hs
      exact ⟨⟨outcome, found⟩, fun _ => hyields⟩
    · exact ⟨⟨.ok (), []⟩, fun hmem => absurd hmem hs⟩
  choose report hreport using heach
  refine ⟨_, _, union_yields fun s hs => (hreport s hs).1, fun i hi => ?_, fun e he => ?_⟩
  · rcases Report.mem_fewest hi with ⟨_, hold, _⟩ | ⟨r, hr, hir⟩
    · exact nomatch hold
    · obtain ⟨s, hs, rfl⟩ := List.mem_map.mp hr
      exact (hreport s hs).2.1 i hir
  · obtain ⟨r, hr, hstop⟩ := Report.stop_of_fewest he
    obtain ⟨s, hs, rfl⟩ := List.mem_map.mp hr
    exact (hreport s hs).2.2 e hstop

end Conform
