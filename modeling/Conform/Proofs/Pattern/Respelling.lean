import Conform.Pattern.Basic
import Conform.Proofs.Source.Spelling

/-!
# The respelling of patterns

A literal names a group `(?<name>…)` and refers to it by `\k<name>`. Only what is free, so neither
behind a backslash nor in a set, has this meaning. A literal is respelled by replacement in its
text, wherever the replaced pieces stand, so it is respelled as it is meant exactly if these are the
marks of its groups.

## Main definitions

- `Pattern.Standing` — where a code point of a pattern stands
- `Pattern.Marking` — which pieces of a text are to be replaced
- `Pattern.Rewritten` — the marked pieces are replaced, and nothing else
- `Pattern.GroupMark`, `Pattern.TextMark` — the marks of groups, and the pieces that are replaced
- `Pattern.respell_rewritten` — respelling replaces the latter
- `Pattern.respell_faithful_iff` — it is faithful exactly if both are the same
-/

namespace Conform

section Replacing

variable {old new w : Text} {a c : CodePoint}

theorem Text.after?_eq_some_iff {start t rest : Text} :
    Text.after? start t = some rest ↔ t = start ++ rest := by
  induction start generalizing t with
  | nil => exact Option.some_inj
  | cons c start ih =>
    cases t with
    | nil => simp [after?]
    | cons d t =>
      rw [after?, List.cons_append, List.cons.injEq, ← ih, eq_comm (a := d)]
      split
      · rename_i hc
        exact (and_iff_right hc).symm
      · rename_i hc
        exact iff_of_false (by simp) fun h => hc h.1

theorem Text.replaceFrom_skip (w rest : Text) :
    Text.replaceFrom old new w.length (w ++ rest) = Text.replaceFrom old new 0 rest := by
  induction w with
  | nil => rfl
  | cons c w ih =>
    rw [List.length_cons, List.cons_append, Text.replaceFrom]
    exact ih

theorem Text.replace_append (hold : old ≠ []) (rest : Text) :
    Text.replace old new (old ++ rest) = new ++ Text.replace old new rest := by
  obtain ⟨c, cs, rfl⟩ := List.exists_cons_of_ne_nil hold
  have hstart : Text.startsWith (c :: (cs ++ rest)) (c :: cs) = true :=
    (Text.startsWith_iff _ _).mpr (List.prefix_append (c :: cs) rest)
  rw [List.cons_append, replace, replaceFrom, if_pos hstart, List.length_cons, Nat.add_sub_cancel,
    replaceFrom_skip]
  rfl

theorem Text.replace_cons {cs : Text} (h : ¬old <+: c :: cs) :
    Text.replace old new (c :: cs) = c :: Text.replace old new cs := by
  rw [replace, replaceFrom, if_neg (mt (Text.startsWith_iff _ _).mp h)]
  rfl

/-- Nothing is replaced before the first code point that a replaced text begins with. -/
theorem Text.replace_append_of_not_mem (hw : a ∉ w) (rest : Text) :
    Text.replace (a :: old) new (w ++ rest) = w ++ Text.replace (a :: old) new rest := by
  induction w with
  | nil => rfl
  | cons c w ih =>
    obtain ⟨hc, hw⟩ := not_or.mp (mt List.mem_cons.mpr hw)
    rw [List.cons_append, replace_cons fun h => hc (List.cons_prefix_cons.mp h).1, ih hw]
    rfl

/-- Texts without the code point that replaced and replacing texts begin with stay where they
are. -/
theorem Text.prefix_replace_iff (hw : a ∉ w) (t : Text) :
    w <+: Text.replace (a :: old) (a :: new) t ↔ w <+: t := by
  induction w generalizing t with
  | nil => exact iff_of_true List.nil_prefix List.nil_prefix
  | cons c w ih =>
    obtain ⟨hc, hw⟩ := not_or.mp (mt List.mem_cons.mpr hw)
    have hhead {x y : Text} (hx : ∀ d ∈ x.head?, d = a) (hy : ∀ d ∈ y.head?, d = a) :
        c :: w <+: x ↔ c :: w <+: y := by
      refine iff_of_false (fun h => ?_) fun h => ?_
      · obtain ⟨rest, rfl⟩ := h
        exact hc (hx c rfl).symm
      · obtain ⟨rest, rfl⟩ := h
        exact hc (hy c rfl).symm
    by_cases hstart : a :: old <+: t
    · obtain ⟨rest, rfl⟩ := hstart
      rw [replace_append (List.cons_ne_nil a old)]
      exact hhead (by simp) (by simp)
    · cases t with
      | nil => exact Iff.rfl
      | cons d t => rw [replace_cons hstart, List.cons_prefix_cons, List.cons_prefix_cons, ih hw]

end Replacing

namespace Pattern

/-- Where a code point of a pattern stands. -/
structure Standing where
  /-- Whether a set has begun and not ended before it. -/
  inSet : Bool
  /-- Whether a backslash is before it that has none before itself. -/
  escaped : Bool
  deriving DecidableEq

namespace Standing

/-- Outside of sets, and without a backslash in front. -/
def free : Standing := ⟨false, false⟩

/-- The standing behind a code point. -/
def next (s : Standing) (c : CodePoint) : Standing :=
  if s.escaped then { s with escaped := false }
  else if c = '\\'.toNat then { s with escaped := true }
  else if c = '['.toNat then ⟨true, false⟩
  else if c = ']'.toNat then free
  else s

/-- The standing behind a text. -/
def after (s : Standing) (w : Text) : Standing := w.foldl next s

theorem after_append (s : Standing) (w v : Text) : s.after (w ++ v) = (s.after w).after v :=
  List.foldl_append

end Standing

/-- Which pieces of a text are to be replaced: where it stands, `old` in front of `rest` is to be
replaced by `new`. -/
abbrev Marking := Standing → (old new rest : Text) → Prop

/-- The marked pieces of a text are replaced from left to right, and all other code points stay. -/
inductive Rewritten (m : Marking) : Standing → (source target : Text) → Prop
  | nil {s : Standing} : Rewritten m s [] []
  | mark {s : Standing} {old new rest target : Text} (marked : m s old new rest)
      (more : Rewritten m (s.after old) rest target) : Rewritten m s (old ++ rest) (new ++ target)
  | keep {s : Standing} {c : CodePoint} {rest target : Text}
      (unmarked : ∀ old new behind, c :: rest = old ++ behind → ¬m s old new behind)
      (more : Rewritten m (s.next c) rest target) : Rewritten m s (c :: rest) (c :: target)

/-- Two markings have the same marks in a text. -/
def SameMarks (m m' : Marking) (s : Standing) (source : Text) : Prop :=
  ∀ before old new rest, source = before ++ (old ++ rest) →
    (m (s.after before) old new rest ↔ m' (s.after before) old new rest)

/-- A code point of names that can be referred to. -/
def isNamePart (c : CodePoint) : Bool := isReferenceStart c || Text.isDigit c

/-- The names that the expressions read from patterns can be asked for in a back-reference. -/
structure IsReferenceName (name : Text) : Prop where
  start : ∀ c ∈ name.head?, isReferenceStart c = true
  ne_nil : name ≠ []
  each : ∀ c ∈ name, isNamePart c = true

/-- The marks of groups in a literal: the beginning of each group with a name, and each reference
back to one. -/
inductive GroupMark : Marking
  | opener {name behind : Text} (isName : name.IsIdentifier) :
      GroupMark .free "(?<" "(?P<" (name ++ '>'.toNat :: behind)
  | reference {name rest : Text} (isName : name.IsIdentifier) :
      GroupMark .free ("\\k<" ++ name ++ ">") ("(?P=" ++ name ++ ")") rest

/-- The pieces that are replaced, wherever they stand. -/
inductive TextMark : Marking
  | opener {s : Standing} {rest : Text} (group : ∀ c ∈ rest.head?, c ≠ '='.toNat ∧ c ≠ '!'.toNat) :
      TextMark s "(?<" "(?P<" rest
  | look {s : Standing} {c : CodePoint} {rest : Text} (look : c = '='.toNat ∨ c = '!'.toNat) :
      TextMark s ("(?P<" ++ [c]) ("(?<" ++ [c]) rest
  | reference {s : Standing} {name rest : Text} (isName : IsReferenceName name) :
      TextMark s ("\\k<" ++ name ++ ">") ("(?P=" ++ name ++ ")") rest

section Replacement

variable {s : Standing} {name old new rest w : Text} {c m : CodePoint}

theorem IsReferenceName.not_mem (h : IsReferenceName name) (hc : isNamePart c = false) :
    c ∉ name := fun hmem => Bool.false_ne_true (hc.symm.trans (h.each c hmem))

theorem referenceName?_cons (cs : Text) :
    referenceName? (c :: cs) =
      if isReferenceStart c = true then
        if ((c :: cs).dropWhile isNamePart).head? = some '>'.toNat then
          some ((c :: cs).takeWhile isNamePart)
        else none
      else none := by
  have hpart : (fun d => isReferenceStart d || Text.isDigit d) = isNamePart := rfl
  unfold referenceName?
  dsimp only
  rw [hpart]
  refine if_congr Iff.rfl ?_ rfl
  cases (c :: cs).dropWhile isNamePart with
  | nil => rfl
  | cons d ds => exact if_congr Option.some_inj.symm rfl rfl

theorem referenceName?_append (h : IsReferenceName name) (rest : Text) :
    referenceName? (name ++ '>'.toNat :: rest) = some name := by
  have htake : (name ++ '>'.toNat :: rest).takeWhile isNamePart = name :=
    takeWhile_append_stop h.each fun c hc => by
      obtain rfl := Option.some.inj hc
      rfl
  have hdrop : (name ++ '>'.toNat :: rest).dropWhile isNamePart = '>'.toNat :: rest :=
    (List.dropWhile_append_of_pos h.each).trans rfl
  obtain ⟨c, cs, rfl⟩ := List.exists_cons_of_ne_nil h.ne_nil
  have hstart : isReferenceStart c = true := h.start c rfl
  rw [List.cons_append] at htake hdrop
  rw [List.cons_append, referenceName?_cons, if_pos hstart, hdrop, htake]
  rfl

theorem referenceName?_eq_some {t : Text} (h : referenceName? t = some name) :
    IsReferenceName name ∧ ∃ rest, t = name ++ '>'.toNat :: rest := by
  cases t with
  | nil => cases h
  | cons c cs =>
    rw [referenceName?_cons] at h
    split_ifs at h with hstart hclose
    obtain rfl := Option.some.inj h
    have htake : (c :: cs).takeWhile isNamePart = c :: cs.takeWhile isNamePart :=
      List.takeWhile_cons_of_pos (by rw [isNamePart, hstart]; rfl)
    obtain ⟨rest, hrest⟩ := List.head?_eq_some_iff.mp hclose
    refine ⟨⟨?_, ?_, fun d hd => List.mem_takeWhile_imp hd⟩, rest, ?_⟩
    · rw [htake]
      rintro d hd
      obtain rfl := Option.some.inj hd
      exact hstart
    · rw [htake]
      exact List.cons_ne_nil _ _
    · rw [← hrest, List.takeWhile_append_dropWhile]

/-- A text begins with a reference to a name. -/
def RefersTo (name t : Text) : Prop := IsReferenceName name ∧ ("\\k<" ++ name ++ ">" : Text) <+: t

theorem reference_append (name rest : Text) :
    ("\\k<" ++ name ++ ">" ++ rest : Text) = "\\k<" ++ (name ++ '>'.toNat :: rest) := by
  rw [List.append_assoc, List.append_assoc]
  rfl

theorem reference?_eq_some_iff {t : Text} :
    (Text.after? "\\k<" t).bind referenceName? = some name ↔ RefersTo name t := by
  constructor
  · intro h
    obtain ⟨u, hafter, hname⟩ := Option.bind_eq_some_iff.mp h
    obtain ⟨hreference, rest, rfl⟩ := referenceName?_eq_some hname
    obtain rfl := Text.after?_eq_some_iff.mp hafter
    exact ⟨hreference, rest, reference_append name rest⟩
  · rintro ⟨hname, rest, rfl⟩
    have hafter : Text.after? "\\k<" ("\\k<" ++ name ++ ">" ++ rest) =
        some (name ++ '>'.toNat :: rest) :=
      Text.after?_eq_some_iff.mpr (reference_append name rest)
    rw [hafter, Option.bind_some, referenceName?_append hname]

theorem respellReferences_skip (w rest : Text) :
    respellReferences w.length (w ++ rest) = respellReferences 0 rest := by
  induction w with
  | nil => rfl
  | cons c w ih =>
    rw [List.length_cons, List.cons_append, respellReferences]
    exact ih

theorem respellReferences_refersTo {cs : Text} (h : RefersTo name (c :: cs)) :
    respellReferences 0 (c :: cs) =
      "(?P=" ++ name ++ ")" ++ respellReferences (name.length + 3) cs := by
  rw [respellReferences, reference?_eq_some_iff.mpr h]

theorem respellReferences_reference (h : IsReferenceName name) (rest : Text) :
    respellReferences 0 ("\\k<" ++ name ++ ">" ++ rest) =
      "(?P=" ++ name ++ ")" ++ respellReferences 0 rest := by
  let behind : Text := 'k'.toNat :: '<'.toNat :: (name ++ ['>'.toNat])
  have hlength : behind.length = name.length + 3 := by simp [behind]
  have hrefers : RefersTo name ('\\'.toNat :: (behind ++ rest)) := ⟨h, rest, rfl⟩
  rw [← respellReferences_skip behind rest, hlength]
  exact respellReferences_refersTo hrefers

theorem respellReferences_cons {cs : Text} (h : ∀ name, ¬RefersTo name (c :: cs)) :
    respellReferences 0 (c :: cs) = c :: respellReferences 0 cs := by
  have hnone : (Text.after? "\\k<" (c :: cs)).bind referenceName? = none :=
    Option.eq_none_iff_forall_ne_some.mpr fun name hname => h name (reference?_eq_some_iff.mp hname)
  rw [respellReferences, hnone]

/-- Nothing is replaced before the first backslash. -/
theorem respellReferences_append (hw : '\\'.toNat ∉ w) (rest : Text) :
    respellReferences 0 (w ++ rest) = w ++ respellReferences 0 rest := by
  induction w with
  | nil => rfl
  | cons c w ih =>
    obtain ⟨hc, hw⟩ := not_or.mp (mt List.mem_cons.mpr hw)
    rw [List.cons_append, respellReferences_cons, ih hw]
    · rfl
    · rintro name ⟨-, hprefix⟩
      exact hc (List.cons_prefix_cons.mp hprefix).1

/-- Takes the mark back from look-around that begins with a code point. -/
def unmark (m : CodePoint) (t : Text) : Text := Text.replace ("(?P<" ++ [m]) ("(?<" ++ [m]) t

/-- Nothing is taken back where something else follows. -/
theorem unmark_opener (h : ¬[m] <+: rest) :
    unmark m ("(?P<" ++ rest) = "(?P<" ++ unmark m rest := by
  have hkept : unmark m ("(?P<" ++ rest) = '('.toNat :: unmark m ("?P<" ++ rest) :=
    Text.replace_cons fun hprefix => h ((List.prefix_append_right_inj "(?P<").mp hprefix)
  rw [hkept]
  exact congrArg _ (Text.replace_append_of_not_mem (by decide) rest)

theorem unmark_look (m : CodePoint) (rest : Text) :
    unmark m ("(?P<" ++ m :: rest) = "(?<" ++ m :: unmark m rest := by
  have hne : ("(?P<" ++ [m] : Text) ≠ [] := List.cons_ne_nil _ _
  exact Text.replace_append hne rest

theorem unmark_append (hw : '('.toNat ∉ w) (rest : Text) :
    unmark m (w ++ rest) = w ++ unmark m rest :=
  Text.replace_append_of_not_mem hw rest

theorem unmark_cons {cs : Text} (h : ¬("(?P<" ++ [m] : Text) <+: c :: cs) :
    unmark m (c :: cs) = c :: unmark m cs := Text.replace_cons h

theorem prefix_unmark_iff (hw : '('.toNat ∉ w) (t : Text) : w <+: unmark m t ↔ w <+: t :=
  Text.prefix_replace_iff hw t

/-- Marks the openers of groups and of look-around, and takes the marks back from the latter. -/
def respellOpeners (t : Text) : Text :=
  unmark '!'.toNat (unmark '='.toNat (Text.replace "(?<" "(?P<" t))

theorem respell_eq (source : Text) : respell source = respellReferences 0 (respellOpeners source) :=
  rfl

theorem respellOpeners_append (hw : '('.toNat ∉ w) (rest : Text) :
    respellOpeners (w ++ rest) = w ++ respellOpeners rest := by
  have hmarked : Text.replace "(?<" "(?P<" (w ++ rest) = w ++ Text.replace "(?<" "(?P<" rest :=
    Text.replace_append_of_not_mem hw rest
  rw [respellOpeners, hmarked, unmark_append hw, unmark_append hw]
  rfl

theorem prefix_respellOpeners_iff (hw : '('.toNat ∉ w) (t : Text) :
    w <+: respellOpeners t ↔ w <+: t :=
  (prefix_unmark_iff hw _).trans ((prefix_unmark_iff hw _).trans (Text.prefix_replace_iff hw t))

theorem respellOpeners_opener (h : ∀ c ∈ rest.head?, c ≠ '='.toNat ∧ c ≠ '!'.toNat) :
    respellOpeners ("(?<" ++ rest) = "(?P<" ++ respellOpeners rest := by
  have hlook {m : CodePoint} (hm : m = '='.toNat ∨ m = '!'.toNat) : ¬[m] <+: rest := by
    rintro ⟨behind, rfl⟩
    exact hm.elim (h m rfl).1 (h m rfl).2
  have hmarked : Text.replace "(?<" "(?P<" ("(?<" ++ rest) =
      "(?P<" ++ Text.replace "(?<" "(?P<" rest :=
    Text.replace_append (List.cons_ne_nil _ _) rest
  rw [respellOpeners, hmarked, unmark_opener, unmark_opener]
  · rfl
  · rw [prefix_unmark_iff (by decide)]
    exact mt (Text.prefix_replace_iff (by decide) rest).mp (hlook (.inr rfl))
  · exact mt (Text.prefix_replace_iff (by decide) rest).mp (hlook (.inl rfl))

theorem unmark_marked (t : Text) :
    unmark '!'.toNat ("(?<" ++ '='.toNat :: t) = "(?<" ++ '='.toNat :: unmark '!'.toNat t := by
  have hother : ¬("(?P<" ++ ['!'.toNat] : Text) <+: "(?<" ++ '='.toNat :: t := by
    rintro ⟨behind, h⟩
    exact absurd (List.cons.inj (List.cons.inj (List.cons.inj h).2).2).1 (by decide)
  refine (unmark_cons hother).trans ?_
  exact congrArg _ (unmark_append (w := "?<=") (by decide) t)

/-- The mark is taken back from look-around, whoever has put it there. -/
theorem unmark_unmark_look (h : m = '='.toNat ∨ m = '!'.toNat) (t : Text) :
    unmark '!'.toNat (unmark '='.toNat ("(?P<" ++ m :: t)) =
      "(?<" ++ m :: unmark '!'.toNat (unmark '='.toNat t) := by
  rcases h with rfl | rfl
  · rw [unmark_look, unmark_marked]
  · have hkept : unmark '='.toNat ("(?P<" ++ '!'.toNat :: t) =
        "(?P<" ++ '!'.toNat :: unmark '='.toNat t := by
      rw [unmark_opener fun h => absurd (List.cons_prefix_cons.mp h).1 (by decide)]
      exact congrArg _ (unmark_append (w := ['!'.toNat]) (by decide) t)
    rw [hkept, unmark_look]

theorem respellOpeners_look (h : m = '='.toNat ∨ m = '!'.toNat) (rest : Text) :
    respellOpeners ("(?P<" ++ m :: rest) = "(?<" ++ m :: respellOpeners rest := by
  have hm : '('.toNat ∉ (['?'.toNat, 'P'.toNat, '<'.toNat, m] : Text) := by
    rcases h with rfl | rfl <;> decide
  have hother : ¬("(?<" : Text) <+: "(?P<" ++ m :: rest := by
    rintro ⟨behind, h⟩
    exact absurd (List.cons.inj (List.cons.inj (List.cons.inj h).2).2).1 (by decide)
  have hmarked : Text.replace "(?<" "(?P<" ("(?P<" ++ m :: rest) =
      "(?P<" ++ m :: Text.replace "(?<" "(?P<" rest :=
    (Text.replace_cons hother).trans (congrArg _ (Text.replace_append_of_not_mem hm rest))
  rw [respellOpeners, hmarked, unmark_unmark_look h]
  rfl

theorem respellOpeners_behind (h : m = '='.toNat ∨ m = '!'.toNat) (rest : Text) :
    respellOpeners ("(?<" ++ m :: rest) = "(?<" ++ m :: respellOpeners rest := by
  have hm : '('.toNat ∉ ([m] : Text) := by rcases h with rfl | rfl <;> decide
  have hmarked : Text.replace "(?<" "(?P<" ("(?<" ++ m :: rest) =
      "(?P<" ++ m :: Text.replace "(?<" "(?P<" rest :=
    (Text.replace_append (List.cons_ne_nil _ _) (m :: rest)).trans
      (congrArg _ (Text.replace_append_of_not_mem hm rest))
  rw [respellOpeners, hmarked, unmark_unmark_look h]
  rfl

theorem not_mem_reference (h : IsReferenceName name) :
    '('.toNat ∉ ('k'.toNat :: '<'.toNat :: (name ++ ['>'.toNat]) : Text) := by
  simp only [List.mem_cons, List.mem_append, not_or]
  exact ⟨by decide, by decide, h.not_mem (by decide), by decide⟩

/-- A piece that is replaced. -/
theorem respell_mark (h : TextMark s old new rest) :
    respell (old ++ rest) = new ++ respell rest := by
  cases h with
  | opener group =>
    rw [respell_eq, respellOpeners_opener group, respellReferences_append (by decide)]
    rfl
  | @look _ c _ look =>
    have hc : '\\'.toNat ∉ ("(?<" ++ [c] : Text) := by rcases look with rfl | rfl <;> decide
    rw [respell_eq, List.append_assoc, List.singleton_append, respellOpeners_look look,
      List.append_cons, respellReferences_append hc]
    rfl
  | @reference _ name _ isName =>
    have hname : '('.toNat ∉ ("\\k<" ++ name ++ ">" : Text) := by
      exact List.not_mem_cons_of_ne_of_not_mem (by decide) (not_mem_reference isName)
    rw [respell_eq, respellOpeners_append hname, respellReferences_reference isName]
    rfl

theorem respellOpeners_cons {cs : Text}
    (h : ∀ old new behind, c :: cs = old ++ behind → ¬TextMark s old new behind) :
    respellOpeners (c :: cs) = c :: respellOpeners cs := by
  by_cases hopener : ("(?<" : Text) <+: c :: cs
  · obtain ⟨rest, hrest⟩ := hopener
    -- What is not marked is a look-behind.
    obtain ⟨m, hm, hlook⟩ : ∃ m ∈ rest.head?, m = '='.toNat ∨ m = '!'.toNat := by
      by_contra hnot
      refine h "(?<" "(?P<" rest hrest.symm (.opener fun m hm => ?_)
      exact not_or.mp fun hlook => hnot ⟨m, hm, hlook⟩
    obtain ⟨behind, rfl⟩ := List.head?_eq_some_iff.mp hm
    obtain ⟨rfl, rfl⟩ := List.cons.inj hrest
    have hmem : '('.toNat ∉ (['?'.toNat, '<'.toNat, m] : Text) := by
      rcases hlook with rfl | rfl <;> decide
    have htail : respellOpeners (['?'.toNat, '<'.toNat, m] ++ behind) =
        ['?'.toNat, '<'.toNat, m] ++ respellOpeners behind := respellOpeners_append hmem behind
    exact (respellOpeners_behind hlook behind).trans (congrArg ('('.toNat :: ·) htail.symm)
  · have hmarked : Text.replace "(?<" "(?P<" (c :: cs) = c :: Text.replace "(?<" "(?P<" cs :=
      Text.replace_cons hopener
    have hlook {m : CodePoint} {t : Text} (hm : m = '='.toNat ∨ m = '!'.toNat)
        (ht : ∀ w : Text, '('.toNat ∉ w → w <+: t → w <+: cs) :
        ¬("(?P<" ++ [m] : Text) <+: c :: t := by
      intro hprefix
      obtain ⟨rfl, htail⟩ := List.cons_prefix_cons.mp hprefix
      have hmem : '('.toNat ∉ (['?'.toNat, 'P'.toNat, '<'.toNat, m] : Text) := by
        rcases hm with rfl | rfl <;> decide
      obtain ⟨behind, hbehind⟩ := ht _ hmem htail
      exact h _ _ behind (congrArg _ hbehind.symm) (.look hm)
    rw [respellOpeners, hmarked, unmark_cons, unmark_cons]
    · rfl
    · exact hlook (.inr rfl) fun w hw hprefix =>
        (Text.prefix_replace_iff hw cs).mp ((prefix_unmark_iff hw _).mp hprefix)
    · exact hlook (.inl rfl) fun w hw hprefix => (Text.prefix_replace_iff hw cs).mp hprefix

/-- A code point at which no piece begins that is replaced. -/
theorem respell_cons {cs : Text}
    (h : ∀ old new behind, c :: cs = old ++ behind → ¬TextMark s old new behind) :
    respell (c :: cs) = c :: respell cs := by
  rw [respell_eq, respellOpeners_cons h, respellReferences_cons]
  · rfl
  · rintro name ⟨hname, hprefix⟩
    obtain ⟨rfl, htail⟩ := List.cons_prefix_cons.mp hprefix
    obtain ⟨behind, rfl⟩ := (prefix_respellOpeners_iff (not_mem_reference hname) cs).mp htail
    exact h _ _ behind rfl (.reference hname)

theorem TextMark.ne_nil (h : TextMark s old new rest) : old ≠ [] := by
  cases h <;> exact List.cons_ne_nil _ _

/-- Respelling replaces marked pieces of the text, and nothing else. -/
theorem respell_rewritten (s : Standing) (source : Text) :
    Rewritten TextMark s source (respell source) := by
  induction hlength : source.length using Nat.strong_induction_on generalizing s source with
  | _ size ih =>
    cases source with
    | nil => exact .nil
    | cons c cs =>
      by_cases hmark : ∃ old new behind, c :: cs = old ++ behind ∧ TextMark s old new behind
      · obtain ⟨old, new, behind, hsplit, hmark⟩ := hmark
        rw [hsplit, respell_mark hmark]
        refine .mark hmark (ih behind.length ?_ _ _ rfl)
        have hpositive := List.length_pos_iff.mpr hmark.ne_nil
        rw [← hlength, hsplit, List.length_append]
        omega
      · have hunmarked (old new behind : Text) (hsplit : c :: cs = old ++ behind) :
            ¬TextMark s old new behind := fun h => hmark ⟨old, new, behind, hsplit, h⟩
        rw [respell_cons hunmarked]
        exact .keep hunmarked (ih cs.length (by simp at hlength; omega) _ _ rfl)

end Replacement

section Marks

variable {m m' : Marking} {s : Standing} {old new rest old' new' rest' source target w : Text}
  {c : CodePoint}

/-- A code point at which no mark begins. -/
def IsPlain (c : CodePoint) : Prop := c ≠ '('.toNat ∧ c ≠ '\\'.toNat

instance : DecidablePred IsPlain := fun _ => inferInstanceAs (Decidable (_ ∧ _))

/-- The form of marks. -/
inductive Mark : (old new rest : Text) → Prop
  | opener {rest : Text} (group : ∀ c ∈ rest.head?, c ≠ '='.toNat ∧ c ≠ '!'.toNat) :
      Mark "(?<" "(?P<" rest
  | look {c : CodePoint} {rest : Text} (plain : IsPlain c) :
      Mark ("(?P<" ++ [c]) ("(?<" ++ [c]) rest
  | reference {name rest : Text} (plain : ∀ c ∈ name, IsPlain c) (closed : '>'.toNat ∉ name) :
      Mark ("\\k<" ++ name ++ ">") ("(?P=" ++ name ++ ")") rest

/-- All marks have the form of marks. -/
def Marking.Formed (m : Marking) : Prop := ∀ s old new rest, m s old new rest → Mark old new rest

theorem TextMark.formed : Marking.Formed TextMark := by
  rintro s old new rest (group | look | isName)
  · exact .opener group
  · exact .look (by rcases look with rfl | rfl <;> decide)
  · refine .reference (fun c hc => ⟨?_, ?_⟩) (isName.not_mem (by decide))
    · exact ne_of_mem_of_not_mem hc (isName.not_mem (by decide))
    · exact ne_of_mem_of_not_mem hc (isName.not_mem (by decide))

theorem not_mem_of_isIdentifier {name : Text} (h : name.IsIdentifier)
    (hstart : Piece.isIdentifierStart c = false) (hpart : Piece.isIdentifierPart c = false) :
    c ∉ name := by
  cases name with
  | nil => exact List.not_mem_nil
  | cons d name =>
    refine List.not_mem_cons_of_ne_of_not_mem ?_ fun hmem => ?_
    · rintro rfl
      exact Bool.false_ne_true (hstart.symm.trans h.1)
    · exact Bool.false_ne_true (hpart.symm.trans (h.2 c hmem))

theorem GroupMark.formed : Marking.Formed GroupMark := by
  rintro s old new rest (isName | isName)
  · rename_i name behind
    cases name with
    | nil => exact isName.elim
    | cons d name =>
      refine .opener fun c hc => ?_
      obtain rfl := Option.some.inj hc
      constructor
      · rintro rfl
        exact absurd isName.1 (by decide)
      · rintro rfl
        exact absurd isName.1 (by decide)
  · refine .reference (fun c hc => ⟨?_, ?_⟩)
      (not_mem_of_isIdentifier isName (by decide) (by decide))
    · exact ne_of_mem_of_not_mem hc (not_mem_of_isIdentifier isName (by decide) (by decide))
    · exact ne_of_mem_of_not_mem hc (not_mem_of_isIdentifier isName (by decide) (by decide))

/-- A text has one mark in front at most. -/
theorem Mark.unique (h : Mark old new rest) (h' : Mark old' new' rest')
    (hsame : old ++ rest = old' ++ rest') : old = old' ∧ new = new' ∧ rest = rest' := by
  -- Marks of different forms differ within their first three code points.
  have hthird {a b : CodePoint} {u v : Text} (hne : a ≠ b)
      (h : '('.toNat :: '?'.toNat :: a :: u = '('.toNat :: '?'.toNat :: b :: v) : False :=
    hne (List.cons.inj (List.cons.inj (List.cons.inj h).2).2).1
  have hfirst {a b : CodePoint} {u v : Text} (hne : a ≠ b) (h : a :: u = b :: v) : False :=
    hne (List.cons.inj h).1
  cases h with
  | opener group =>
    cases h' with
    | opener group' => exact ⟨rfl, rfl, List.append_cancel_left hsame⟩
    | look => exact (hthird (by decide) hsame).elim
    | reference => exact (hfirst (by decide) hsame).elim
  | look =>
    cases h' with
    | opener => exact (hthird (by decide) hsame).elim
    | look =>
      rw [List.append_assoc, List.append_assoc] at hsame
      obtain ⟨rfl, rfl⟩ := List.cons.inj (List.append_cancel_left hsame)
      exact ⟨rfl, rfl, rfl⟩
    | reference => exact (hfirst (by decide) hsame).elim
  | @reference name _ _ closed =>
    cases h' with
    | opener | look => exact (hfirst (by decide) hsame).elim
    | @reference name' _ _ closed' =>
      rw [reference_append, reference_append] at hsame
      have hsplit := congrArg (Text.splitFirst? '>'.toNat) (List.append_cancel_left hsame)
      rw [Text.splitFirst?_append closed, Text.splitFirst?_append closed'] at hsplit
      obtain ⟨rfl, rfl⟩ := Prod.mk.inj (Option.some.inj hsplit)
      exact ⟨rfl, rfl, rfl⟩

/-- A mark begins with its only code point that is not plain. -/
theorem Mark.exists_cons (h : Mark old new rest) :
    ∃ c w, old = c :: w ∧ ¬IsPlain c ∧ ∀ d ∈ w, IsPlain d := by
  cases h with
  | opener => exact ⟨_, _, rfl, by decide, by decide⟩
  | @look c _ plain =>
    refine ⟨'('.toNat, ['?'.toNat, 'P'.toNat, '<'.toNat, c], rfl, by decide, ?_⟩
    simp only [List.forall_mem_cons]
    exact ⟨by decide, by decide, by decide, plain, List.forall_mem_nil _⟩
  | @reference name _ plain =>
    refine ⟨'\\'.toNat, 'k'.toNat :: '<'.toNat :: (name ++ ['>'.toNat]), rfl, by decide, ?_⟩
    simp only [List.forall_mem_cons, List.forall_mem_append]
    exact ⟨by decide, by decide, plain, by decide, List.forall_mem_nil _⟩

theorem Mark.ne_nil (h : Mark old new rest) : old ≠ [] := by
  obtain ⟨c, w, rfl, -, -⟩ := h.exists_cons
  exact List.cons_ne_nil c w

theorem Mark.not_of_isPlain (hc : IsPlain c) (hsplit : c :: source = old ++ rest) :
    ¬Mark old new rest := by
  intro h
  obtain ⟨d, w, rfl, hd, -⟩ := h.exists_cons
  obtain ⟨rfl, -⟩ := List.cons.inj hsplit
  exact hd hc

namespace Rewritten

/-- What is rewritten where a mark stands. -/
theorem eq_of_mark (hm : m.Formed) (h : Rewritten m s (old ++ rest) target)
    (hmark : m s old new rest) :
    ∃ more, target = new ++ more ∧ Rewritten m (s.after old) rest more := by
  generalize hsource : old ++ rest = source at h
  cases h with
  | nil => exact absurd (List.append_eq_nil_iff.mp hsource).1 (hm _ _ _ _ hmark).ne_nil
  | mark marked more =>
    obtain ⟨rfl, rfl, rfl⟩ := (hm _ _ _ _ hmark).unique (hm _ _ _ _ marked) hsource
    exact ⟨_, rfl, more⟩
  | keep unmarked more => exact absurd hmark (unmarked _ _ _ hsource.symm)

/-- What is rewritten where no mark stands. -/
theorem eq_of_keep (h : Rewritten m s (c :: rest) target)
    (hkeep : ∀ old new behind, c :: rest = old ++ behind → ¬m s old new behind) :
    ∃ more, target = c :: more ∧ Rewritten m (s.next c) rest more := by
  generalize hsource : c :: rest = source at h
  cases h with
  | nil => cases hsource
  | mark marked more => exact absurd marked (hkeep _ _ _ hsource)
  | keep unmarked more =>
    obtain ⟨rfl, rfl⟩ := List.cons.inj hsource
    exact ⟨_, rfl, more⟩

/-- Plain code points stay. -/
theorem eq_of_plain (hm : m.Formed) (hw : ∀ c ∈ w, IsPlain c)
    (h : Rewritten m s (w ++ rest) target) :
    ∃ more, target = w ++ more ∧ Rewritten m (s.after w) rest more := by
  induction w generalizing s target with
  | nil => exact ⟨target, rfl, h⟩
  | cons c w ih =>
    obtain ⟨hc, hw⟩ := List.forall_mem_cons.mp hw
    obtain ⟨more, rfl, hmore⟩ := h.eq_of_keep fun old new behind hsplit hmark =>
      Mark.not_of_isPlain hc hsplit (hm _ _ _ _ hmark)
    obtain ⟨more, rfl, hrest⟩ := ih hw hmore
    exact ⟨more, rfl, hrest⟩

/-- A text is rewritten in one way. -/
theorem unique (hm : m.Formed) (h : Rewritten m s source target) {other : Text}
    (h' : Rewritten m s source other) : other = target := by
  induction h generalizing other with
  | nil =>
    generalize hsource : ([] : Text) = source at h'
    cases h' with
    | nil => rfl
    | mark marked =>
      exact absurd (List.append_eq_nil_iff.mp hsource.symm).1 (hm _ _ _ _ marked).ne_nil
    | keep => cases hsource
  | mark marked more ih =>
    obtain ⟨_, rfl, hmore⟩ := h'.eq_of_mark hm marked
    rw [ih hmore]
  | keep unmarked more ih =>
    obtain ⟨_, rfl, hmore⟩ := h'.eq_of_keep unmarked
    rw [ih hmore]

/-- A piece that has the form of a mark and stays is not replaced. -/
theorem not_prefix (hm : m.Formed) (h : Rewritten m s (old ++ rest) target)
    (hmark : Mark old new rest) (hnot : ¬m s old new rest) : ¬new <+: target := by
  have hkeep (old' new' behind : Text) (hsplit : old ++ rest = old' ++ behind) :
      ¬m s old' new' behind := by
    intro hother
    obtain ⟨rfl, rfl, rfl⟩ := hmark.unique (hm _ _ _ _ hother) hsplit
    exact hnot hother
  cases hmark with
  | opener group =>
    obtain ⟨more, rfl, hmore⟩ := eq_of_keep (c := '('.toNat) h hkeep
    obtain ⟨more, rfl, -⟩ := eq_of_plain (w := "?<") hm (by decide) hmore
    rintro ⟨behind, h⟩
    exact absurd (List.cons.inj (List.cons.inj (List.cons.inj h).2).2).1 (by decide)
  | look =>
    obtain ⟨more, rfl, hmore⟩ := eq_of_keep (c := '('.toNat) h hkeep
    obtain ⟨more, rfl, -⟩ := eq_of_plain (w := "?P") hm (by decide) hmore
    rintro ⟨behind, h⟩
    exact absurd (List.cons.inj (List.cons.inj (List.cons.inj h).2).2).1 (by decide)
  | reference =>
    obtain ⟨more, rfl, -⟩ := eq_of_keep (c := '\\'.toNat) h hkeep
    rintro ⟨behind, h⟩
    exact absurd (List.cons.inj h).1 (by decide)

end Rewritten

/-- Every text is rewritten in some way. -/
theorem exists_rewritten (hm : m.Formed) (s : Standing) (source : Text) :
    ∃ target, Rewritten m s source target := by
  induction hlength : source.length using Nat.strong_induction_on generalizing s source with
  | _ size ih =>
    cases source with
    | nil => exact ⟨[], .nil⟩
    | cons c cs =>
      by_cases hmark : ∃ old new behind, c :: cs = old ++ behind ∧ m s old new behind
      · obtain ⟨old, new, behind, hsplit, hmark⟩ := hmark
        have hpositive := List.length_pos_iff.mpr (hm _ _ _ _ hmark).ne_nil
        have hshort : behind.length < size := by
          rw [← hlength, hsplit, List.length_append]
          omega
        obtain ⟨target, hbehind⟩ := ih behind.length hshort (s.after old) behind rfl
        rw [hsplit]
        exact ⟨new ++ target, .mark hmark hbehind⟩
      · obtain ⟨target, hcs⟩ := ih cs.length (by simp at hlength; omega) (s.next c) cs rfl
        exact ⟨c :: target, .keep (fun old new behind hsplit h =>
          hmark ⟨old, new, behind, hsplit, h⟩) hcs⟩

namespace SameMarks

theorem behind (h : SameMarks m m' s (w ++ source)) : SameMarks m m' (s.after w) source := by
  rintro before old new rest rfl
  rw [← Standing.after_append]
  exact h (w ++ before) old new rest (List.append_assoc _ _ _).symm

/-- The marks of a text are those at its first code point and those behind it. -/
theorem cons
    (hhere : ∀ old new rest, c :: source = old ++ rest → (m s old new rest ↔ m' s old new rest))
    (h : SameMarks m m' (s.next c) source) : SameMarks m m' s (c :: source) := by
  intro before old new rest hsplit
  cases before with
  | nil => exact hhere old new rest hsplit
  | cons d before =>
    obtain ⟨rfl, rfl⟩ := List.cons.inj hsplit
    exact h before old new rest rfl

theorem append (hm : m.Formed) (hm' : m'.Formed) (hw : ∀ c ∈ w, IsPlain c)
    (h : SameMarks m m' (s.after w) source) : SameMarks m m' s (w ++ source) := by
  induction w generalizing s with
  | nil => exact h
  | cons c w ih =>
    obtain ⟨hc, hw⟩ := List.forall_mem_cons.mp hw
    refine cons (fun old new rest hsplit => iff_of_false (fun hmark => ?_) fun hmark => ?_)
      (ih hw h)
    · exact Mark.not_of_isPlain hc hsplit (hm _ _ _ _ hmark)
    · exact Mark.not_of_isPlain hc hsplit (hm' _ _ _ _ hmark)

end SameMarks

/-- Where the marks are the same, the same is put for them. -/
theorem Rewritten.congr (h : Rewritten m s source target) (hsame : SameMarks m m' s source) :
    Rewritten m' s source target := by
  induction h with
  | nil => exact .nil
  | mark marked more ih => exact .mark ((hsame [] _ _ _ rfl).mp marked) (ih hsame.behind)
  | @keep s c rest target unmarked more ih =>
    refine .keep (fun old new behind hsplit hmark => ?_) (ih (hsame.behind (w := [c])))
    exact unmarked old new behind hsplit ((hsame [] old new behind hsplit).mpr hmark)

/-- Where the same is put for a text, the marks are the same: a piece that is replaced does not look
like one that stays. -/
theorem sameMarks_of_rewritten (hm : m.Formed) (hm' : m'.Formed) (h : Rewritten m s source target)
    (h' : Rewritten m' s source target) : SameMarks m m' s source := by
  induction h with
  | nil =>
    intro before old new rest hsplit
    obtain ⟨rfl, rfl⟩ := List.append_eq_nil_iff.mp (List.append_eq_nil_iff.mp hsplit.symm).2
    exact iff_of_false (fun hmark => (hm _ _ _ _ hmark).ne_nil rfl)
      fun hmark => (hm' _ _ _ _ hmark).ne_nil rfl
  | @mark s old new rest target marked more ih =>
    have hmark := hm _ _ _ _ marked
    have hmarked : m' s old new rest := by
      by_contra hnot
      exact h'.not_prefix hm' hmark hnot (List.prefix_append new target)
    obtain ⟨other, hother, hmore⟩ := h'.eq_of_mark hm' hmarked
    obtain rfl := List.append_cancel_left hother
    have hbehind := ih hmore
    obtain ⟨c, w, rfl, -, hw⟩ := hmark.exists_cons
    refine .cons (fun old' new' rest' hsplit => ⟨fun hother => ?_, fun hother => ?_⟩)
      (.append hm hm' hw hbehind)
    · obtain ⟨rfl, rfl, rfl⟩ := hmark.unique (hm _ _ _ _ hother) hsplit
      exact hmarked
    · obtain ⟨rfl, rfl, rfl⟩ := hmark.unique (hm' _ _ _ _ hother) hsplit
      exact marked
  | @keep s c rest target unmarked more ih =>
    have hunmarked (old new behind : Text) (hsplit : c :: rest = old ++ behind) :
        ¬m' s old new behind := by
      intro hmark
      have hkept := Rewritten.keep unmarked more
      rw [hsplit] at hkept h'
      obtain ⟨other, hother, -⟩ := h'.eq_of_mark hm' hmark
      exact hkept.not_prefix hm (hm' _ _ _ _ hmark) (unmarked _ _ _ hsplit) ⟨other, hother.symm⟩
    obtain ⟨other, hother, hmore⟩ := h'.eq_of_keep hunmarked
    obtain rfl := (List.cons.inj hother).2
    exact .cons (fun old new behind hsplit => iff_of_false (unmarked _ _ _ hsplit)
      (hunmarked _ _ _ hsplit)) (ih hmore)

end Marks

/-- **Respelling is faithful exactly where only the marks of groups look like them**: of every
literal the pieces of `TextMark` are replaced and all other code points stay; there is one text in
which the marks of its groups are replaced and all other code points stay; and the literal is
respelled to that text exactly if the two kinds of pieces are the same in it. -/
theorem respell_faithful_iff (source : Text) :
    Rewritten TextMark .free source (respell source) ∧
      ∃ target, (∀ other, Rewritten GroupMark .free source other ↔ other = target) ∧
        (respell source = target ↔ SameMarks GroupMark TextMark .free source) := by
  obtain ⟨target, htarget⟩ := exists_rewritten GroupMark.formed .free source
  refine ⟨respell_rewritten .free source, target, fun other => ⟨fun h => ?_, ?_⟩, ?_, fun h => ?_⟩
  · exact htarget.unique GroupMark.formed h
  · rintro rfl
    exact htarget
  · intro h
    exact sameMarks_of_rewritten GroupMark.formed TextMark.formed htarget
      (h ▸ respell_rewritten .free source)
  · exact (htarget.congr h).unique TextMark.formed (respell_rewritten .free source)

/-- A parenthesis behind a backslash opens no group, and yet it is respelled. -/
theorem respell_escaped :
    let source : Text := "\\(?<"
    (∀ other, Rewritten GroupMark .free source other ↔ other = source) ∧
      respell source = "\\(?P<" ∧ respell source ≠ source := by
  have hunmarked {s : Standing} {c : CodePoint} {cs : Text} (hs : s = .free → c ≠ '('.toNat)
      (hreference : ¬("\\k<" : Text) <+: c :: cs) (old new behind : Text)
      (hsplit : c :: cs = old ++ behind) : ¬GroupMark s old new behind := by
    rintro (isName | isName)
    · exact hs rfl (List.cons.inj hsplit).1
    · rw [reference_append] at hsplit
      exact hreference (hsplit ▸ List.prefix_append _ _)
  have hkept : Rewritten GroupMark .free "\\(?<" "\\(?<" :=
    .keep (hunmarked (by decide) (by decide)) <| .keep (hunmarked (by decide) (by decide)) <|
      .keep (hunmarked (by decide) (by decide)) <| .keep (hunmarked (by decide) (by decide)) .nil
  refine ⟨fun other => ⟨fun h => hkept.unique GroupMark.formed h, ?_⟩, by decide, by decide⟩
  rintro rfl
  exact hkept

end Pattern

end Conform
