import Conform.Proofs.Checking.Dispatch

/-!
# What a union reports

A union reports the violations of one of its options: the first one of those with the fewest. The
choice keeps the best attempt so far and prefers an earlier one among equals, so it does not matter
how the options are grouped. Unions of unions report what one union of all the options reports, and
they stop where it stops.

## Main definitions

- `FirstFewest` — the first item with the least count
- `Walk.Report.fewest_firstFewest` — the choice of a union whose options run through
- `Walk.Report.fewest_flatten` — a union among the options of another one
- `Schema.issues_flatten` — a union within a union is as good as its options in its place
- `Schema.validate_union` — what unions report, however they are grouped
-/

namespace Conform

open Walk

section FirstFewest

variable {α : Type} {count : α → Nat} {items : List α} {a b w : α}

/-- The first item with the least count: the items before it have greater counts, and those behind
it have none that is less. -/
def FirstFewest (count : α → Nat) (items : List α) (winner : α) : Prop :=
  ∃ before behind, items = before ++ winner :: behind ∧
    (∀ a ∈ before, count winner < count a) ∧ ∀ a ∈ behind, count winner ≤ count a

namespace FirstFewest

theorem mem (h : FirstFewest count items w) : w ∈ items := by
  obtain ⟨before, behind, rfl, -, -⟩ := h
  simp

theorem le (h : FirstFewest count items w) (ha : a ∈ items) : count w ≤ count a := by
  obtain ⟨before, behind, rfl, hbefore, hbehind⟩ := h
  rcases List.mem_append.mp ha with ha | ha
  · exact (hbefore a ha).le
  · rcases List.mem_cons.mp ha with rfl | ha
    · exact le_rfl
    · exact hbehind a ha

/-- An item with a greater count may stand in front. -/
theorem cons (h : FirstFewest count items w) (hlt : count w < count a) :
    FirstFewest count (a :: items) w := by
  obtain ⟨before, behind, rfl, hbefore, hbehind⟩ := h
  exact ⟨a :: before, behind, rfl, List.forall_mem_cons.mpr ⟨hlt, hbefore⟩, hbehind⟩

/-- An item may stand behind the first one if its count is not less. -/
theorem insert (h : FirstFewest count (b :: items) w) (hle : count b ≤ count a) :
    FirstFewest count (b :: a :: items) w := by
  have hw := h.le List.mem_cons_self
  obtain ⟨before, behind, hitems, hbefore, hbehind⟩ := h
  cases before with
  | nil =>
    obtain ⟨rfl, rfl⟩ := List.cons.inj hitems
    exact ⟨[], a :: items, rfl, nofun, List.forall_mem_cons.mpr ⟨hle, hbehind⟩⟩
  | cons c before =>
    obtain ⟨rfl, rfl⟩ := List.cons.inj hitems
    rw [List.forall_mem_cons] at hbefore
    refine ⟨b :: a :: before, behind, rfl, ?_, hbehind⟩
    simp only [List.forall_mem_cons]
    exact ⟨hbefore.1, by omega, hbefore.2⟩

theorem congr {count' : α → Nat} (h : FirstFewest count items w)
    (hcount : ∀ a ∈ items, count a = count' a) : FirstFewest count' items w := by
  have hw := hcount w h.mem
  obtain ⟨before, behind, rfl, hbefore, hbehind⟩ := h
  refine ⟨before, behind, rfl, fun a ha => ?_, fun a ha => ?_⟩
  · have hlt := hbefore a ha
    rwa [hw, hcount a (by simp [ha])] at hlt
  · have hle := hbehind a ha
    rwa [hw, hcount a (by simp [ha])] at hle

/-- The first one among the values of some items comes from the first one among the items. -/
theorem of_map {β : Type} {f : β → α} {items : List β} (h : FirstFewest count (items.map f) w) :
    ∃ a, w = f a ∧ FirstFewest (fun a => count (f a)) items a := by
  obtain ⟨before, behind, hitems, hbefore, hbehind⟩ := h
  obtain ⟨first, rest, rfl, rfl, hrest⟩ := List.map_eq_append_iff.mp hitems
  obtain ⟨a, last, rfl, rfl, rfl⟩ := List.map_eq_cons_iff.mp hrest
  exact ⟨a, rfl, first, last, rfl, fun b hb => hbefore _ (List.mem_map_of_mem hb),
    fun b hb => hbehind _ (List.mem_map_of_mem hb)⟩

/-- Without a count nothing is less. -/
theorem of_zero (items : List α) (h : count w = 0) : FirstFewest count (w :: items) w :=
  ⟨[], items, rfl, nofun, fun a _ => by omega⟩

end FirstFewest

end FirstFewest

/-- Choosing the fewest violations one after another does not depend on the grouping. -/
theorem fewestIssues_assoc (best : Option (List Issue)) (old issues : List Issue) :
    fewestIssues (some (fewestIssues best old)) issues =
      fewestIssues best (fewestIssues (some old) issues) := by
  cases best with
  | none => rfl
  | some first =>
    simp only [fewestIssues]
    by_cases hold : old.length < first.length
    · by_cases hissues : issues.length < old.length
      · have hfirst : issues.length < first.length := by omega
        simp only [hold, hissues, hfirst, if_true]
      · simp only [hold, hissues, if_true, if_false]
    · by_cases hissues : issues.length < old.length
      · simp only [hold, hissues, if_true, if_false]
      · have hfirst : ¬issues.length < first.length := by omega
        simp only [hold, hissues, hfirst, if_false]

namespace Walk.Report

variable {reports more : List Report} {best : Option (List Issue)}

/-- Among options that run through, the best one so far counted as the first of them, it is the
first with the fewest violations that stands for the union. -/
theorem fewest_some_firstFewest (b : Report) (hb : b.found ≠ [])
    (h : ∀ r ∈ reports, r.outcome = .ok ()) :
    ∃ w, FirstFewest (fun r => r.found.length) (b :: reports) w ∧
      fewest (some b.found) reports = ⟨.ok (), w.found⟩ := by
  induction reports generalizing b with
  | nil => exact ⟨b, ⟨[], [], rfl, nofun, nofun⟩, rfl⟩
  | cons r reports ih =>
    rw [List.forall_mem_cons] at h
    rw [fewest, h.1]
    by_cases hfewer : r.found.length < b.found.length
    · have hkept : fewestIssues (some b.found) r.found = r.found := if_pos hfewer
      rw [hkept]
      by_cases hnil : r.found = []
      · -- Nothing is better than no violation, so the options behind are not tried.
        refine ⟨r, (FirstFewest.of_zero reports (by simp [hnil])).cons hfewer, ?_⟩
        simp [hnil]
      · obtain ⟨w, hw, hrun⟩ := ih r hnil h.2
        refine ⟨w, hw.cons (lt_of_le_of_lt (hw.le List.mem_cons_self) hfewer), ?_⟩
        simpa [hnil] using hrun
    · have hkept : fewestIssues (some b.found) r.found = b.found := if_neg hfewer
      rw [hkept]
      obtain ⟨w, hw, hrun⟩ := ih b hb h.2
      refine ⟨w, hw.insert (not_lt.mp hfewer), ?_⟩
      simpa [hb] using hrun

/-- What stands for a union whose options run through. -/
theorem fewest_firstFewest (hne : reports ≠ []) (h : ∀ r ∈ reports, r.outcome = .ok ()) :
    ∃ w, FirstFewest (fun r => r.found.length) reports w ∧
      fewest none reports = ⟨.ok (), w.found⟩ := by
  cases reports with
  | nil => exact absurd rfl hne
  | cons r reports =>
    rw [List.forall_mem_cons] at h
    rw [fewest, h.1]
    by_cases hnil : r.found = []
    · refine ⟨r, FirstFewest.of_zero reports (by simp [hnil]), ?_⟩
      simp [fewestIssues, hnil]
    · obtain ⟨w, hw, hrun⟩ := fewest_some_firstFewest r hnil h.2
      refine ⟨w, hw, ?_⟩
      simpa [fewestIssues, hnil] using hrun

theorem fewest_cons_error {r : Report} {e : Abort} (h : r.outcome = .error e)
    (best : Option (List Issue)) (reports : List Report) :
    fewest best (r :: reports) = ⟨.error e, []⟩ := by
  rw [fewest, h]

theorem fewest_cons_ok {r : Report} (h : r.outcome = .ok ()) (best : Option (List Issue))
    (reports : List Report) :
    fewest best (r :: reports) =
      if fewestIssues best r.found = [] then ⟨.ok (), []⟩
      else fewest (some (fewestIssues best r.found)) reports := by
  rw [fewest, h]

/-- The attempts of some options may be gathered before they are compared with those before
them. The induction goes along with the best of the gathered ones. -/
theorem fewest_gather (hbest : best ≠ some []) {old : List Issue} (hold : old ≠ []) :
    fewest (some (fewestIssues best old)) (reports ++ more) =
      fewest best (fewest (some old) reports :: more) := by
  induction reports generalizing old with
  | nil =>
    have hkept : fewestIssues best old ≠ [] := mt (fewestIssues_eq_nil_iff hbest old).mp hold
    rw [List.nil_append, fewest_cons_ok (r := fewest (some old) []) rfl]
    exact (if_neg hkept).symm
  | cons r reports ih =>
    rw [List.cons_append]
    cases hrun : r.outcome with
    | error e =>
      rw [fewest_cons_error hrun, fewest_cons_error hrun, fewest_cons_error rfl]
    | ok _ =>
      rw [fewest_cons_ok hrun, fewest_cons_ok hrun, fewestIssues_assoc]
      by_cases hnil : fewestIssues (some old) r.found = []
      · rw [if_pos hnil, hnil, if_pos ((fewestIssues_eq_nil_iff hbest []).mpr rfl),
          fewest_cons_ok rfl, if_pos ((fewestIssues_eq_nil_iff hbest []).mpr rfl)]
      · rw [if_neg (mt (fewestIssues_eq_nil_iff hbest _).mp hnil), if_neg hnil]
        exact ih hnil

/-- Some options may be tried on their own first, as long as there are any. -/
theorem fewest_append (hbest : best ≠ some []) (hne : reports ≠ []) :
    fewest best (reports ++ more) = fewest best (fewest none reports :: more) := by
  cases reports with
  | nil => exact absurd rfl hne
  | cons r reports =>
    rw [List.cons_append]
    cases hrun : r.outcome with
    | error e => rw [fewest_cons_error hrun, fewest_cons_error hrun, fewest_cons_error rfl]
    | ok _ =>
      have halone : fewestIssues none r.found = r.found := rfl
      rw [fewest_cons_ok hrun, fewest_cons_ok hrun, halone]
      by_cases hnil : r.found = []
      · rw [if_pos hnil, hnil, if_pos ((fewestIssues_eq_nil_iff hbest []).mpr rfl),
          fewest_cons_ok rfl, if_pos ((fewestIssues_eq_nil_iff hbest []).mpr rfl)]
      · rw [if_neg (mt (fewestIssues_eq_nil_iff hbest _).mp hnil), if_neg hnil]
        exact fewest_gather hbest hnil

/-- A union among the options of another one comes to what its options come to in its place. -/
theorem fewest_flatten (first : List Report) (hbest : best ≠ some []) (hne : reports ≠ []) :
    fewest best (first ++ (reports ++ more)) =
      fewest best (first ++ fewest none reports :: more) := by
  -- The options in front leave a best attempt behind, so the gathering is stated for any of them.
  induction first generalizing best with
  | nil => exact fewest_append hbest hne
  | cons r first ih =>
    rw [List.cons_append, List.cons_append]
    cases hrun : r.outcome with
    | error e => rw [fewest_cons_error hrun, fewest_cons_error hrun]
    | ok _ =>
      rw [fewest_cons_ok hrun, fewest_cons_ok hrun]
      by_cases hnil : fewestIssues best r.found = []
      · rw [if_pos hnil, if_pos hnil]
      · rw [if_neg hnil, if_neg hnil]
        exact ih (by simpa using hnil)

end Walk.Report

namespace Schema

variable {options : List Schema}

/-- What the check of each schema comes to. -/
theorem exists_report (policy : Policy) (v : Value) :
    ∃ report : Schema → Report,
      ∀ s, Yields policy (s.check v) (report s).outcome (report s).found := by
  have heach (s : Schema) : ∃ r : Report, Yields policy (s.check v) r.outcome r.found := by
    obtain ⟨outcome, found, hyields⟩ := s.check_uniform policy v
    exact ⟨⟨outcome, found⟩, hyields⟩
  choose report hreport using heach
  exact ⟨report, hreport⟩

theorem union_check_yields {policy : Policy} {v : Value} {report : Schema → Report}
    (h : ∀ s, Yields policy (s.check v) (report s).outcome (report s).found)
    (description : Option Text) (options : List Schema) :
    Yields policy ((Schema.mk description (.union options)).check v)
      (Report.fewest none (options.map report)).outcome
      (Report.fewest none (options.map report)).found :=
  union_yields fun s _ => h s

/-- A union whose options all run through reports what the first of them with the fewest violations
reports. -/
theorem validate_firstFewest {policy : Option Policy} {v : Value} (description : Option Text)
    (hne : options ≠ [])
    (hruns : ∀ s ∈ options, ∃ found, s.issues (policy.getD .strip) v = .ok found) :
    ∃ s, FirstFewest (fun s => (s.validate (policy.map Policy.name) v).length) options s ∧
      (Schema.mk description (.union options)).validate (policy.map Policy.name) v =
        s.validate (policy.map Policy.name) v := by
  obtain ⟨report, hreport⟩ := exists_report (policy.getD .strip) v
  have hoption : ∀ s ∈ options, (report s).outcome = .ok () ∧
      s.validate (policy.map Policy.name) v = (report s).found := by
    intro s hs
    obtain ⟨found, hfound⟩ := hruns s hs
    obtain ⟨houtcome, hreported⟩ := (hreport s).unique (yields_of_issues hfound)
    exact ⟨houtcome, (validate_of_ok policy hfound).trans hreported.symm⟩
  obtain ⟨w, hw, hrun⟩ := Report.fewest_firstFewest (by simpa using hne)
    (List.forall_mem_map.mpr fun s hs => (hoption s hs).1)
  obtain ⟨s, rfl, hs⟩ := hw.of_map
  have hunion := issues_eq (union_check_yields hreport description options)
  rw [hrun] at hunion
  refine ⟨s, hs.congr fun t ht => ?_, ?_⟩
  · exact congrArg List.length (hoption t ht).2.symm
  · rw [validate_of_ok policy hunion, (hoption s hs.mem).2]

/-- A union among the options of another one may be replaced by its options, provided that it has
any. This holds of stops, too. -/
theorem issues_flatten (policy : Policy) (v : Value) (outer inner flat : Option Text)
    (first last : List Schema) (hne : options ≠ []) :
    (Schema.mk outer (.union (first ++ .mk inner (.union options) :: last))).issues policy v =
      (Schema.mk flat (.union (first ++ (options ++ last)))).issues policy v := by
  obtain ⟨report, hreport⟩ := exists_report policy v
  have hinner : report (.mk inner (.union options)) = Report.fewest none (options.map report) := by
    obtain ⟨houtcome, hfound⟩ := (hreport _).unique (union_check_yields hreport inner options)
    cases hr : report (.mk inner (.union options))
    cases hf : Report.fewest none (options.map report)
    rw [hr, hf] at houtcome hfound
    exact congrArg₂ Report.mk houtcome hfound
  have hflat : Report.fewest none ((first ++ (options ++ last)).map report) =
      Report.fewest none ((first ++ .mk inner (.union options) :: last).map report) := by
    rw [List.map_append, List.map_append, List.map_append, List.map_cons, hinner]
    exact Report.fewest_flatten (first.map report) (by simp) (by simpa using hne)
  rw [issues_eq (union_check_yields hreport outer _), issues_eq (union_check_yields hreport flat _),
    hflat]

/-- Schemas that come to the same under a policy report the same. -/
theorem validate_congr {s t : Schema} {policy : Option Policy} {v : Value}
    (h : s.issues (policy.getD .strip) v = t.issues (policy.getD .strip) v) :
    s.validate (policy.map Policy.name) v = t.validate (policy.map Policy.name) v := by
  cases hissues : t.issues (policy.getD .strip) v with
  | ok found => rw [validate_of_ok policy (h.trans hissues), validate_of_ok policy hissues]
  | error e => rw [validate_of_error policy (h.trans hissues), validate_of_error policy hissues]

/-- **Unions**: a union whose options run through reports what the first of those with the fewest
violations reports. A union among the options of another one reports what its own options report in
its place, on every value, so that alternatives may be grouped at will. -/
theorem validate_union (policy : Option Policy) (v : Value) :
    (∀ (description : Option Text) (options : List Schema), options ≠ [] →
      (∀ s ∈ options, ∃ found, s.issues (policy.getD .strip) v = .ok found) →
      ∃ s, FirstFewest (fun s => (s.validate (policy.map Policy.name) v).length) options s ∧
        (Schema.mk description (.union options)).validate (policy.map Policy.name) v =
          s.validate (policy.map Policy.name) v) ∧
    (∀ (outer inner flat : Option Text) (first options last : List Schema), options ≠ [] →
      (Schema.mk outer (.union (first ++ .mk inner (.union options) :: last))).validate
          (policy.map Policy.name) v =
        (Schema.mk flat (.union (first ++ (options ++ last)))).validate
          (policy.map Policy.name) v) ∧
    ∀ a b c : Schema, ∃ ab bc left right all : Schema,
      (Method.common a .or).call [.schema b] = .ok ab ∧
      (Method.common b .or).call [.schema c] = .ok bc ∧
      (Method.common ab .or).call [.schema c] = .ok left ∧
      (Method.common a .or).call [.schema bc] = .ok right ∧
      Constructor.union.build [.array [.schema a, .schema b, .schema c]] = .ok all ∧
      left.validate (policy.map Policy.name) v = all.validate (policy.map Policy.name) v ∧
      right.validate (policy.map Policy.name) v = all.validate (policy.map Policy.name) v := by
  have hflat (outer inner flat : Option Text) (first options last : List Schema)
      (hne : options ≠ []) :
      (Schema.mk outer (.union (first ++ .mk inner (.union options) :: last))).validate
          (policy.map Policy.name) v =
        (Schema.mk flat (.union (first ++ (options ++ last)))).validate
          (policy.map Policy.name) v :=
    validate_congr (issues_flatten _ v outer inner flat first last hne)
  refine ⟨fun description options hne hruns => validate_firstFewest description hne hruns, hflat,
    fun a b c => ⟨_, _, _, _, _, rfl, rfl, rfl, rfl, rfl, ?_, ?_⟩⟩
  · exact hflat none none none [] [a, b] [c] (List.cons_ne_nil _ _)
  · exact hflat none none none [a] [b, c] [] (List.cons_ne_nil _ _)

/-- Two nulls in an array violate an array of texts twice, and a text and a number once each. The
text stands first, and so it does if the last two are grouped. -/
theorem validate_union_tie :
    let texts : Schema := .plain (.array (.plain (.string [])) [])
    let text : Schema := .plain (.string [])
    let number : Schema := .plain (.number [])
    let value : Value := .array [.null, .null]
    let strict := (some Policy.strict).map Policy.name
    [texts, text, number] ≠ [] ∧ [text, number] ≠ [] ∧
      (∀ s ∈ [texts, text, number], ∃ found, s.issues .strict value = .ok found) ∧
      (∃ s, FirstFewest (fun s => (s.validate strict value).length) [texts, text, number] s ∧
        (mk none (.union [texts, text, number])).validate strict value =
          s.validate strict value) ∧
      (mk none (.union [texts, .mk none (.union [text, number])])).validate strict value =
        (mk none (.union [texts, text, number])).validate strict value ∧
      (mk none (.union [texts, text, number])).validate strict value =
        [⟨[], Text.ofString "Expected string, received array"⟩] := by
  intro texts text number value strict
  have hruns : ∀ s ∈ [texts, text, number], ∃ found, s.issues .strict value = .ok found := by
    simp only [List.forall_mem_cons, List.not_mem_nil, false_imp_iff, implies_true, and_true]
    exact ⟨⟨_, rfl⟩, ⟨_, rfl⟩, ⟨_, rfl⟩⟩
  obtain ⟨hfirst, hflat, -⟩ := validate_union (some .strict) value
  exact ⟨List.cons_ne_nil _ _, List.cons_ne_nil _ _, hruns,
    hfirst none _ (List.cons_ne_nil _ _) hruns,
    hflat none none none [texts] [text, number] [] (List.cons_ne_nil _ _), rfl⟩

end Schema

end Conform
