import Conform.Proofs.Checking.Location

/-!
# Policies for undeclared keys

A check reads its policy only where an object has undeclared keys and neither a policy nor a
catch-all of its own. What it comes to under two policies is therefore related throughout by any
relation that is kept when reports are put together, and that relates a note to no note in the way
the two policies do.

## Main definitions

- `Walk.Report.next`, `Walk.Report.within` — how reports are put together
- `Walk.Congruence` — a relation that is kept
- `Schema.check_related` — what a check comes to under two policies is related
- `Walk.Report.Allows` — where the first report is free of violations, so is the second one
- `Schema.validate_policy` — two policies agree, and what the third one admits they admit
-/

namespace Conform

open Walk

namespace Walk

namespace Report

/-- What is found by a second walk behind the first, unless that is stopped. -/
def next (x y : Report) : Report :=
  match x.outcome with
  | .ok _ => ⟨y.outcome, x.found ++ y.found⟩
  | .error _ => x

/-- What is found in a part. -/
def within (key : Key) (x : Report) : Report := ⟨x.outcome, x.found.map (Issue.under [key])⟩

/-- A violation, or nothing. -/
def noteIf (wrong : Bool) (message : Text) : Report :=
  ⟨.ok (), if wrong then [⟨[], message⟩] else []⟩

/-- A walk that is free of violations under the first report is so under the second one, and one
that runs through runs through again. -/
def Allows (x y : Report) : Prop :=
  x.outcome = .ok () → y.outcome = .ok () ∧ (x.found = [] → y.found = [])

end Report

/-- A relation between reports under two policies that is kept when they are put together. -/
structure Congruence (p q : Policy) (R : Report → Report → Prop) : Prop where
  refl : ∀ x, R x x
  next : ∀ {x x' y y'}, R x x' → R y y' → R (x.next y) (x'.next y')
  within : ∀ key {x x'}, R x x' → R (x.within key) (x'.within key)
  /-- The attempts of a union. -/
  fewest : ∀ {α : Type} (items : List α) (f g : α → Report), (∀ a ∈ items, R (f a) (g a)) →
    R (Report.fewest none (items.map f)) (Report.fewest none (items.map g))
  /-- Undeclared keys that are left to the policy. -/
  undeclared : ∀ message, R (.noteIf (p = .strict) message) (.noteIf (q = .strict) message)

/-- What a walk comes to under two policies is related. -/
def Related (p q : Policy) (R : Report → Report → Prop) (w : Walk PUnit) : Prop :=
  ∃ x y : Report, Yields p w x.outcome x.found ∧ Yields q w y.outcome y.found ∧ R x y

variable {p q : Policy} {R : Report → Report → Prop} {w v : Walk PUnit}

theorem Yields.next {policy : Policy} {x y : Report} (hw : Yields policy w x.outcome x.found)
    (hv : Yields policy v y.outcome y.found) :
    Yields policy (do w; v) (x.next y).outcome (x.next y).found := by
  obtain ⟨outcome, found⟩ := x
  cases outcome with
  | ok a => exact hw.bind hv
  | error e => exact hw.bind_error

namespace Congruence

variable (hR : Congruence p q R)
include hR

/-- **No difference.** -/
theorem same {x : Report} (h : ∀ policy, Yields policy w x.outcome x.found) : Related p q R w :=
  ⟨x, x, h p, h q, hR.refl x⟩

theorem pure : Related p q R (Pure.pure ()) :=
  hR.same (x := ⟨.ok (), []⟩) fun _ => yields_pure ()

theorem throw (e : Abort) : Related p q R (MonadExcept.throw e) :=
  hR.same (x := ⟨.error e, []⟩) fun _ => yields_throw e

theorem note (message : Text) : Related p q R (Walk.note message) :=
  hR.same (x := ⟨.ok (), [⟨[], message⟩]⟩) fun _ => yields_note message

theorem noteAny (fault : Option Text) : Related p q R (Walk.noteAny fault) := by
  cases fault with
  | none => exact hR.pure
  | some message => exact hR.note message

theorem noteType (expected : Text) (value : Value) :
    Related p q R (Walk.noteType expected value) := by
  unfold Walk.noteType
  split
  · exact hR.note _
  · exact hR.note _

/-- **Composition.** -/
theorem seq (hw : Related p q R w) (hv : Related p q R v) : Related p q R (do w; v) := by
  obtain ⟨x, x', hx, hx', hxR⟩ := hw
  obtain ⟨y, y', hy, hy', hyR⟩ := hv
  exact ⟨_, _, hx.next hy, hx'.next hy', hR.next hxR hyR⟩

/-- **Parts.** -/
theorem part (key : Key) (hw : Related p q R w) : Related p q R (Walk.within key w) := by
  obtain ⟨x, x', hx, hx', hxR⟩ := hw
  exact ⟨_, _, hx.within key, hx'.within key, hR.within key hxR⟩

theorem noteWhen (hw : Related p q R w) (wrong : Bool) (message : Text) :
    Related p q R (if wrong = true then (do Walk.note message; w) else w) := by
  cases wrong with
  | true => exact hR.seq (hR.note message) hw
  | false => exact hw

theorem forM {α : Type} {items : List α} {step : α → Walk PUnit}
    (h : ∀ a ∈ items, Related p q R (step a)) : Related p q R (items.forM step) := by
  induction items with
  | nil => exact hR.pure
  | cons a items ih =>
    exact hR.seq (h a List.mem_cons_self) (ih fun b hb => h b (List.mem_cons_of_mem a hb))

theorem inTurn {parts : List (Key × Walk PUnit)} (h : ∀ part ∈ parts, Related p q R part.2) :
    Related p q R (Walk.inTurn parts) :=
  hR.forM fun part hpart => hR.part part.1 (h part hpart)

end Congruence

end Walk

section Forms

variable {p q : Policy} {R : Report → Report → Prop} {value : Value}

theorem checkNumber_related (hR : Congruence p q R) (n : Number)
    (checks : List (Check NumberRule)) : Related p q R (checkNumber n checks) := by
  induction checks with
  | nil => exact hR.pure
  | cons check checks ih =>
    rw [checkNumber]
    cases check.rule.fault n with
    | error e => exact hR.seq (hR.throw e) ih
    | ok fault => exact hR.seq (hR.noteAny _) ih

/-- What comes of undeclared keys that no catch-all takes. -/
theorem undeclared_yields (policy : Policy) (own : Option Policy) (message : Text) :
    Yields policy (do if own.getD (← get).policy = .strict then note message)
      (Report.noteIf (own.getD policy = .strict) message).outcome
      (Report.noteIf (own.getD policy = .strict) message).found := by
  let walk (policy : Policy) : Walk PUnit :=
    if own.getD policy = .strict then note message else pure ()
  change Yields policy (do walk (← get).policy) _ _
  refine yields_policy ?_
  change Yields policy (if own.getD policy = .strict then note message else pure ()) _ _
  by_cases hstrict : own.getD policy = .strict
  · rw [if_pos hstrict, decide_eq_true hstrict]
    exact yields_note _
  · rw [if_neg hstrict, decide_eq_false hstrict]
    exact yields_pure ()

/-- The policy matters only to an object without one. -/
theorem checkExtra_related (hR : Congruence p q R) (unknownKeys : Option Policy)
    {catchall : Option Schema} (strictMessage : Option Text) {extra : List (Text × Value)}
    (hcatchall : ∀ rest ∈ catchall, ∀ v, Related p q R (rest.check v)) :
    Related p q R (checkExtra unknownKeys catchall strictMessage extra) := by
  unfold checkExtra
  split
  · exact hR.pure
  · cases catchall with
    | some rest =>
      refine hR.inTurn fun part hpart => ?_
      obtain ⟨field, -, rfl⟩ := List.mem_map.mp hpart
      exact hcatchall rest rfl field.2
    | none =>
      refine ⟨_, _, undeclared_yields p unknownKeys _, undeclared_yields q unknownKeys _, ?_⟩
      cases unknownKeys with
      | none => exact hR.undeclared _
      | some own => exact hR.refl _

theorem object_related (hR : Congruence p q R) {shape : List (Text × Schema)}
    {unknownKeys : Option Policy} {catchall : Option Schema} {strictMessage : Option Text}
    (hparts : ∀ s ∈ (Form.object shape unknownKeys catchall strictMessage).parts,
      ∀ v, Related p q R (s.check v)) :
    Related p q R (Form.check (.object shape unknownKeys catchall strictMessage) value) := by
  cases value with
  | object fields =>
    rw [Form.check_object]
    refine hR.seq (hR.inTurn fun part hpart => ?_) (checkExtra_related hR _ _ fun rest hrest => ?_)
    · obtain ⟨field, hfield, rfl⟩ := List.mem_map.mp hpart
      exact hparts _ (List.mem_append_left _ (List.mem_map_of_mem hfield)) _
    · exact hparts rest (List.mem_append_right _ (Option.mem_toList.mpr hrest))
  | _ =>
    unfold Form.check
    exact hR.noteType _ _

theorem array_related (hR : Congruence p q R) {element : Schema} {checks : List (Check LengthRule)}
    (helement : ∀ v, Related p q R (element.check v)) :
    Related p q R (Form.check (.array element checks) value) := by
  cases value with
  | array items =>
    rw [Form.check_array]
    refine hR.seq (hR.forM fun _ _ => hR.noteAny _) (hR.inTurn fun part hpart => ?_)
    obtain ⟨item, -, rfl⟩ := List.mem_map.mp hpart
    exact helement item.1
  | _ =>
    unfold Form.check
    exact hR.noteType _ _

theorem tuple_related (hR : Congruence p q R) {items : List Schema} {rest : Option Schema}
    (hparts : ∀ s ∈ (Form.tuple items rest).parts, ∀ v, Related p q R (s.check v)) :
    Related p q R (Form.check (.tuple items rest) value) := by
  cases value with
  | array values =>
    by_cases hshort : values.length < items.length
    · rw [Form.check_tuple_of_lt hshort]
      exact hR.note _
    · rw [Form.check_tuple (Nat.le_of_not_lt hshort)]
      refine hR.noteWhen (hR.seq (hR.inTurn fun part hpart => ?_) ?_) _ _
      · obtain ⟨⟨⟨s, v⟩, n⟩, hmem, rfl⟩ := List.mem_map.mp hpart
        have hs : s ∈ items :=
          (List.of_mem_zip (List.mem_of_getElem? (List.mem_zipIdx_iff_getElem?.mp hmem))).1
        exact hparts s (List.mem_append_left _ hs) v
      · cases rest with
        | none => exact hR.pure
        | some more =>
          refine hR.inTurn fun part hpart => ?_
          obtain ⟨item, -, rfl⟩ := List.mem_map.mp hpart
          exact hparts more (List.mem_append_right _ (Option.mem_toList.mpr rfl)) item.1
  | _ =>
    unfold Form.check
    exact hR.noteType _ _

theorem record_related (hR : Congruence p q R) {key element : Schema}
    (hkey : ∀ v, Related p q R (key.check v)) (helement : ∀ v, Related p q R (element.check v)) :
    Related p q R (Form.check (.record key element) value) := by
  cases value with
  | object fields =>
    rw [Form.check_record]
    refine hR.inTurn fun part hpart => ?_
    obtain ⟨field, -, rfl⟩ := List.mem_map.mp hpart
    exact hR.seq (hkey _) (helement _)
  | _ =>
    unfold Form.check
    exact hR.noteType _ _

theorem union_related (hR : Congruence p q R) {options : List Schema}
    (hoptions : ∀ s ∈ options, Related p q R (s.check value)) :
    Related p q R (Form.check (.union options) value) := by
  have heach : ∀ s, ∃ x y : Report, s ∈ options →
      Yields p (s.check value) x.outcome x.found ∧ Yields q (s.check value) y.outcome y.found ∧
        R x y := by
    intro s
    by_cases hs : s ∈ options
    · obtain ⟨x, y, hrelated⟩ := hoptions s hs
      exact ⟨x, y, fun _ => hrelated⟩
    · exact ⟨⟨.ok (), []⟩, ⟨.ok (), []⟩, fun hmem => absurd hmem hs⟩
  choose f g hfg using heach
  exact ⟨_, _, union_yields fun s hs => (hfg s hs).1, union_yields fun s hs => (hfg s hs).2.1,
    hR.fewest options f g fun s hs => (hfg s hs).2.2⟩

theorem discriminatedUnion_related (hR : Congruence p q R) {discriminator : Text}
    {options : List Schema} (hoptions : ∀ s ∈ options, Related p q R (s.check value)) :
    Related p q R (Form.check (.discriminatedUnion discriminator options) value) := by
  cases value with
  | object fields =>
    rw [Form.check_discriminatedUnion]
    rcases hfirst : options.find?
      (Schema.isTagged discriminator (fieldValue fields discriminator)) with _ | t
    · exact hR.part _ (hR.note _)
    · exact hoptions t (List.mem_of_find?_eq_some hfirst)
  | _ =>
    unfold Form.check
    exact hR.noteType _ _

/-- What a check of a form comes to is related if what the checks of its parts come to is. -/
theorem Form.check_related (hR : Congruence p q R) {form : Form}
    (hparts : ∀ s ∈ form.parts, ∀ v, Related p q R (s.check v)) :
    Related p q R (form.check value) := by
  cases form with
  | object shape unknownKeys catchall strictMessage => exact object_related hR hparts
  | array element checks => exact array_related hR (hparts element List.mem_cons_self)
  | tuple items rest => exact tuple_related hR hparts
  | record key element =>
    exact record_related hR (hparts key List.mem_cons_self)
      (hparts element (List.mem_cons_of_mem key List.mem_cons_self))
  | union options => exact union_related hR fun s hs => hparts s hs value
  | discriminatedUnion discriminator options =>
    exact discriminatedUnion_related hR fun s hs => hparts s hs value
  | intersection left right =>
    exact hR.seq (hparts left List.mem_cons_self value)
      (hparts right (List.mem_cons_of_mem left List.mem_cons_self) value)
  | optional inner | nullable inner =>
    unfold Form.check
    split
    · exact hR.pure
    · exact hparts inner List.mem_cons_self value
  | default inner fallback =>
    unfold Form.check
    split
    · exact hparts inner List.mem_cons_self fallback
    · exact hparts inner List.mem_cons_self value
  | string checks =>
    unfold Form.check
    split
    · exact hR.forM fun message _ => hR.note message
    · exact hR.noteType _ _
  | number checks =>
    unfold Form.check
    split
    · split
      · exact hR.noteType _ _
      · exact checkNumber_related hR _ checks
    · exact hR.noteType _ _
  | any | unknown => exact hR.pure
  | never => exact hR.noteType _ _
  | nan =>
    unfold Form.check
    split
    · split
      · exact hR.pure
      · exact hR.noteType _ _
    · exact hR.noteType _ _
  | literal expected =>
    unfold Form.check
    split
    · split
      · exact hR.pure
      · exact hR.note _
    · split
      · exact hR.pure
      · exact hR.note _
  | enum options =>
    unfold Form.check
    split
    · split
      · exact hR.pure
      · exact hR.note _
    · exact hR.noteType _ _
  | boolean | null | date =>
    unfold Form.check
    split
    · exact hR.pure
    · exact hR.noteType _ _
  | undefined | void =>
    unfold Form.check
    split
    · exact hR.pure
    · exact hR.note _

end Forms

/-- What a check comes to under two policies is related. -/
theorem Schema.check_related {p q : Policy} {R : Report → Report → Prop} (hR : Congruence p q R)
    (s : Schema) (v : Value) : Related p q R (s.check v) := by
  induction s using Schema.induct generalizing v with
  | mk description form ih =>
    unfold Schema.check
    exact Form.check_related hR ih

/-- Neither of two policies reports undeclared keys, so nothing differs. -/
theorem Walk.congruence_eq {p q : Policy} (hp : p ≠ .strict) (hq : q ≠ .strict) :
    Congruence p q Eq where
  refl _ := rfl
  next := by
    rintro x _ y _ rfl rfl
    rfl
  within := by
    rintro key x _ rfl
    rfl
  fewest := by
    intro α items f g h
    rw [List.map_congr_left h]
  undeclared _ := by rw [decide_eq_false hp, decide_eq_false hq]

namespace Walk.Report

/-- A union without violations is one where an option has none, and the options before it run
through. -/
theorem Allows.fewest {α : Type} {items : List α} {f g : α → Report}
    (h : ∀ a ∈ items, (f a).Allows (g a)) {best best' : Option (List Issue)}
    (hbest : best ≠ some []) (hbest' : best' ≠ some []) (hsame : best = none → best' = none) :
    (Report.fewest best (items.map f)).Allows (Report.fewest best' (items.map g)) := by
  induction items generalizing best best' with
  | nil =>
    refine fun _ => ⟨rfl, fun hnil => ?_⟩
    cases best with
    | none => rw [hsame rfl]; rfl
    | some old => exact absurd (congrArg some hnil) hbest
  | cons a items ih =>
    rw [List.forall_mem_cons] at h
    rw [List.map_cons, List.map_cons, Report.fewest, Report.fewest]
    intro hok
    cases hf : (f a).outcome with
    | error e =>
      rw [hf] at hok
      cases hok
    | ok _ =>
      obtain ⟨hg, hfound⟩ := h.1 hf
      rw [hf] at hok
      rw [hg]
      dsimp only at hok ⊢
      by_cases hnil' : fewestIssues best' (g a).found = []
      · rw [if_pos hnil']
        exact ⟨rfl, fun _ => rfl⟩
      · -- The option has violations under the second policy, so it has some under the first one.
        have hnil : fewestIssues best (f a).found ≠ [] := fun hnil =>
          hnil' ((fewestIssues_eq_nil_iff hbest' _).mpr
            (hfound ((fewestIssues_eq_nil_iff hbest _).mp hnil)))
        rw [if_neg hnil] at hok ⊢
        rw [if_neg hnil']
        exact ih h.2 (by simpa using hnil) (by simpa using hnil') (by simp) hok

end Walk.Report

/-- What is reported under a policy may be missing where undeclared keys are not reported. -/
theorem Walk.congruence_allows (p : Policy) {q : Policy} (hq : q ≠ .strict) :
    Congruence p q Report.Allows where
  refl _ := fun hok => ⟨hok, id⟩
  next := by
    rintro ⟨outcome, found⟩ ⟨outcome', found'⟩ y y' hx hy hok
    cases outcome with
    | error e => exact nomatch hok
    | ok _ =>
      obtain ⟨rfl, hfound⟩ := hx rfl
      obtain ⟨hok', hmore⟩ := hy hok
      refine ⟨hok', fun hnil => ?_⟩
      obtain ⟨hfirst, hsecond⟩ := List.append_eq_nil_iff.mp hnil
      exact List.append_eq_nil_iff.mpr ⟨hfound hfirst, hmore hsecond⟩
  within := by
    intro key x x' hx hok
    obtain ⟨hok', hfound⟩ := hx hok
    refine ⟨hok', fun hnil => ?_⟩
    exact List.map_eq_nil_iff.mpr (hfound (List.map_eq_nil_iff.mp hnil))
  fewest items f g h := Report.Allows.fewest h nofun nofun fun _ => rfl
  undeclared _ := fun _ => ⟨rfl, fun _ => by rw [decide_eq_false hq]; rfl⟩

namespace Schema

/-- No policy is the same as `strip`. -/
theorem validate_getD (s : Schema) (policy : Option Policy) (v : Value) :
    s.validate (policy.map Policy.name) v = s.validate (some (policy.getD .strip).name) v := by
  cases policy <;> rfl

/-- Stripping undeclared keys and passing them through comes to the same check, which finds the same
violations or stops alike, and what is valid when they are reported is valid when they are not. -/
theorem validate_policy (s : Schema) (v : Value) :
    s.issues .strip v = s.issues .passthrough v ∧
      s.validate (some Policy.strip.name) v = s.validate (some Policy.passthrough.name) v ∧
      (s.validate (some Policy.strict.name) v = [] →
        s.validate (some Policy.strip.name) v = []) := by
  have hissues : s.issues .strip v = s.issues .passthrough v := by
    obtain ⟨x, _, hx, hy, rfl⟩ := s.check_related
      (congruence_eq (p := .strip) (q := .passthrough) nofun nofun) v
    rw [issues_eq hx, issues_eq hy]
  refine ⟨hissues, ?_, fun hvalid => ?_⟩
  · cases hfound : s.issues .passthrough v with
    | ok found =>
      exact (validate_of_ok (some .strip) (hissues.trans hfound)).trans
        (validate_of_ok (some .passthrough) hfound).symm
    | error e =>
      exact (validate_of_error (some .strip) (hissues.trans hfound)).trans
        (validate_of_error (some .passthrough) hfound).symm
  · obtain ⟨x, y, hx, hy, hallows⟩ :=
      s.check_related (congruence_allows .strict (q := .strip) nofun) v
    obtain ⟨hok, hnil⟩ := hx.unique (validates_iff.mp hvalid)
    obtain ⟨hok', hfound⟩ := hallows hok
    rw [hok', hfound hnil] at hy
    exact validates_iff.mpr hy

end Schema

end Conform
