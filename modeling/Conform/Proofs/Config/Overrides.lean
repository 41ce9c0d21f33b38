import Conform.Config.Overrides
import Conform.Proofs.Datum.Paths
import Conform.Proofs.Failing
import Conform.Proofs.Text.Splitting
import Mathlib.Data.List.Perm.Basic

/-!
# Overrides that do not overlap

Overrides whose paths are apart do not get in each other's way. Each is put at the end of its path,
through mappings that are there already or are made for it, and stays there. So what comes out has
their values at the ends of their paths and nothing else, in whichever order they come.

## Main definitions

- `Apart` — paths of which neither begins with the other
- `Override.WrittenAs`, `Override.read_eq_ok_iff` — how an override is written
- `Override.Open`, `Override.exists_put` — what is changed by putting a value at the end of a path
- `Override.Holds`, `Override.Holds.put`, `Override.Holds.foldlM` — what has been collected so far
- `Override.collect_apart` — overrides that do not overlap
-/

namespace Conform

/-- Whether neither of two paths is a beginning of the other; equal paths are not apart. -/
def Apart {α : Type} (path other : List α) : Prop := ¬path <+: other ∧ ¬other <+: path

instance {α : Type} [DecidableEq α] (path other : List α) : Decidable (Apart path other) :=
  inferInstanceAs (Decidable (¬path <+: other ∧ ¬other <+: path))

section Paths

variable {α β : Type} {path other : List α} {a b : α} {f : α → β}

theorem Apart.symm (h : Apart path other) : Apart other path := ⟨h.2, h.1⟩

theorem Apart.ne_nil (h : Apart path other) : path ≠ [] := by
  rintro rfl
  exact h.1 List.nil_prefix

theorem apart_cons_iff : Apart (a :: path) (b :: other) ↔ (a = b → Apart path other) := by
  simp only [Apart, List.cons_prefix_cons, eq_comm (a := b), not_and]
  exact imp_and.symm

theorem Apart.map (hf : Function.Injective f) (h : Apart path other) :
    Apart (path.map f) (other.map f) := by
  have hprefix {first second : List α} (hfirst : first.map f <+: second.map f) :
      first <+: second := by
    obtain ⟨start, hstart, hmap⟩ := List.prefix_map_iff.mp hfirst
    rwa [List.map_injective_iff.mpr hf hmap]
  exact ⟨mt hprefix h.1, mt hprefix h.2⟩

end Paths

namespace Override

/-- The parts of the key that name options within options. -/
def parts (o : Override) : List Text := o.first :: o.rest

/-- The path to the value of an override. -/
def path (o : Override) : List Datum := o.parts.map Datum.text

/-- Whether an item is an override: a key without an equals sign, an equals sign, and a text that
has the value. The parts of the key stand between dots, and empty ones do not count. -/
structure WrittenAs (o : Override) (item : Text) : Prop where
  item_eq : ∃ written, item = o.key ++ '='.toNat :: written ∧ valueOf written = .ok o.value
  no_equals : '='.toNat ∉ o.key
  parts_eq : (Text.splitAll '.'.toNat o.key).filter (fun part => !part.isEmpty) = o.parts

/-- An item is read as the override that it is. -/
theorem read_eq_ok_iff {item : Text} {o : Override} : read item = .ok o ↔ o.WrittenAs item := by
  constructor
  · intro h
    rw [read] at h
    split at h
    · exact nomatch h
    · rename_i key written hsplit
      obtain ⟨rfl, hkey⟩ := Text.splitFirst?_eq_some hsplit
      split at h
      · exact nomatch h
      · rename_i first rest hparts
        obtain ⟨value, hvalue, hread⟩ := bind_eq_ok.mp h
        obtain rfl := Except.ok.inj hread
        exact ⟨⟨written, rfl, hvalue⟩, hkey, hparts⟩
  · rintro ⟨⟨written, rfl, hvalue⟩, hkey, hparts⟩
    rw [read, Text.splitFirst?_append hkey]
    simp only [hparts, parts, hvalue]
    rfl

/-- The value of a text that is a literal. -/
theorem valueOf_eq_ok {t : Text} {ts : List Literal.Token} {tree : Literal.Tree} {d : Datum}
    (htokens : Literal.tokens? (t.dropWhile fun c => c == 32 || c == 9) = some ts)
    (htree : Literal.Tree.ofTokens? ts = some tree) (hd : tree.datum = .ok d) :
    valueOf t = .ok d := by
  have hread : Literal.read t = .ok d := by
    rw [Literal.read, htokens, Option.bind_some, htree]
    exact hd
  rw [valueOf, hread]

/-- A text that is not even a row of tokens is its own value. -/
theorem valueOf_text {t : Text}
    (htokens : Literal.tokens? (t.dropWhile fun c => c == 32 || c == 9) = none) :
    valueOf t = .ok (.text t) := by
  rw [valueOf, Literal.read, htokens]
  rfl

section Putting

variable {entries nested : Entries} {path other rest : List Datum} {k d : Datum}

/-- Whether a value can be put at the end of a path: on the way there are mappings or nothing. -/
def Open (d : Datum) (path : List Datum) : Prop :=
  ∀ start, start <+: path → start ≠ path → d.HasMapping start ∨ d.follow? start = none

/-- What stands under the first key of an open path, or an empty mapping if nothing does, is a
mapping with the same at the ends of all paths. -/
theorem Open.exists_nested (h : Open (.mapping entries) (k :: rest)) (hrest : rest ≠ []) :
    ∃ nested, (entries.get? k).getD (.mapping []) = .mapping nested ∧ ∀ path ≠ [],
      (Datum.mapping nested).follow? path = (Datum.mapping entries).follow? (k :: path) := by
  have hfirst := h [k] (List.cons_prefix_cons.mpr ⟨rfl, List.nil_prefix⟩)
    fun heq => hrest (List.cons.inj heq).2.symm
  simp only [Datum.follow?_cons]
  cases hk : entries.get? k with
  | none => exact ⟨[], rfl, fun path hpath => Datum.follow?_empty hpath⟩
  | some found =>
    rw [Datum.hasMapping_cons_iff, Datum.follow?_cons, hk] at hfirst
    rcases hfirst with ⟨_, hfound, nested, hnested⟩ | hnone
    · obtain rfl := Option.some.inj hfound
      obtain rfl := Option.some.inj hnested
      exact ⟨nested, rfl, fun path _ => rfl⟩
    · exact nomatch hnone

/-- The rest of an open path is open in what stands under its first key. -/
theorem Open.below (h : Open (.mapping entries) (k :: rest))
    (hsame : ∀ path ≠ [],
      (Datum.mapping nested).follow? path = (Datum.mapping entries).follow? (k :: path)) :
    Open (.mapping nested) rest := by
  intro start hstart hne
  cases start with
  | nil => exact .inl (Datum.hasMapping_nil nested)
  | cons s start =>
    rw [Datum.HasMapping, hsame _ (List.cons_ne_nil s start)]
    exact h (k :: s :: start) (List.cons_prefix_cons.mpr ⟨rfl, hstart⟩)
      fun heq => hne (List.cons.inj heq).2

theorem follow?_insert_cons (key d : Datum) (entries : Entries) (k : Datum) (path : List Datum) :
    (Datum.mapping (entries.insert key d)).follow? (k :: path) =
      if key.same k then d.follow? path else (Datum.mapping entries).follow? (k :: path) := by
  rw [Datum.follow?_cons, Datum.follow?_cons, Entries.get?_insert]
  split <;> rfl

theorem follow?_insert_text (first : Text) (d : Datum) (entries : Entries) (path : List Datum) :
    (Datum.mapping (entries.insert (.text first) d)).follow? (.text first :: path) =
      d.follow? path := by
  rw [follow?_insert_cons, if_pos (Datum.same_text_iff.mpr rfl)]

/-- Where what is put under a text has on other paths what was there before, nothing changes on
them. -/
theorem follow?_insert_of_apart {first : Text} (h : Apart other (.text first :: rest))
    (hd : ∀ path, Apart path rest →
      d.follow? path = (Datum.mapping entries).follow? (.text first :: path)) :
    (Datum.mapping (entries.insert (.text first) d)).follow? other =
      (Datum.mapping entries).follow? other := by
  obtain ⟨k, path, rfl⟩ := List.exists_cons_of_ne_nil h.ne_nil
  rw [follow?_insert_cons]
  split
  · rename_i hkey
    obtain rfl := Datum.eq_text_of_identity (Datum.same_iff.mp hkey).symm
    exact hd path (apart_cons_iff.mp h rfl)
  · rfl

/-- **A value can be put at the end of an open path**, and nothing changes on other paths. -/
theorem exists_put (key : Text) (value : Datum) {first : Text} {rest : List Text}
    (h : Open (.mapping entries) ((first :: rest).map Datum.text)) :
    ∃ after, put key value rest first entries = .ok after ∧
      (Datum.mapping after).follow? ((first :: rest).map Datum.text) = some value ∧
      ∀ other, Apart other ((first :: rest).map Datum.text) →
        (Datum.mapping after).follow? other = (Datum.mapping entries).follow? other := by
  induction rest generalizing first entries with
  | nil =>
    refine ⟨_, rfl, follow?_insert_text first value entries [], fun other hother => ?_⟩
    exact follow?_insert_of_apart hother fun path hpath => absurd rfl hpath.symm.ne_nil
  | cons next rest ih =>
    obtain ⟨nested, hget, hsame⟩ := h.exists_nested (List.cons_ne_nil _ _)
    obtain ⟨inner, hput, hvalue, hbeside⟩ := ih (h.below hsame)
    refine ⟨entries.insert (.text first) (.mapping inner), ?_, ?_, fun other hother => ?_⟩
    · rw [put, Entries.at?, hget]
      exact bind_eq_ok.mpr ⟨inner, hput, rfl⟩
    · exact (follow?_insert_text first _ entries _).trans hvalue
    · exact follow?_insert_of_apart hother fun path hpath =>
        (hbeside path hpath).trans (hsame path hpath.ne_nil)

end Putting

section Collecting

variable {entries others : Entries} {overrides done : List Override} {o : Override}

/-- Whether entries hold the values of overrides at the ends of their paths and have nothing on
paths that are apart from them. -/
structure Holds (overrides : List Override) (entries : Entries) : Prop where
  value : ∀ o ∈ overrides, (Datum.mapping entries).follow? o.path = some o.value
  beside : ∀ path ≠ [], (∀ o ∈ overrides, Apart path o.path) →
    (Datum.mapping entries).follow? path = none

theorem holds_nil : Holds [] [] :=
  ⟨fun _ h => absurd h List.not_mem_nil, fun _ hpath _ => Datum.follow?_empty hpath⟩

/-- The path of an override is open if it is apart from the paths of those that are there. -/
theorem Holds.open_path (h : Holds overrides entries)
    (hapart : ∀ p ∈ overrides, Apart p.path o.path) : Open (.mapping entries) o.path := by
  intro start hstart hne
  by_cases hnil : start = []
  · rw [hnil]
    exact .inl (Datum.hasMapping_nil entries)
  by_cases hbeside : ∀ p ∈ overrides, Apart start p.path
  · exact .inr (h.beside start hnil hbeside)
  · obtain ⟨p, hp, hstartp⟩ : ∃ p ∈ overrides, ¬Apart start p.path := by
      simpa only [not_forall, exists_prop] using hbeside
    -- The start is on the way to both, so it ends before the other path does.
    have hbehind : ¬p.path <+: start := fun hbehind => (hapart p hp).1 (hbehind.trans hstart)
    have hbefore : start <+: p.path := not_not.mp fun hbefore => hstartp ⟨hbefore, hbehind⟩
    refine .inl (Datum.hasMapping_of_follow? (h.value p hp) hbefore fun heq => ?_)
    exact hbehind (heq ▸ List.prefix_refl start)

/-- **One more override** can be put to those that are there if it is apart from them. -/
theorem Holds.put (h : Holds overrides entries) (hapart : ∀ p ∈ overrides, Apart p.path o.path) :
    ∃ after, Override.put o.key o.value o.rest o.first entries = .ok after ∧
      Holds (overrides ++ [o]) after := by
  obtain ⟨after, hput, hvalue, hbeside⟩ := exists_put o.key o.value (h.open_path hapart)
  refine ⟨after, hput, fun p hp => ?_, fun path hpath hall => ?_⟩
  · rcases List.mem_append.mp hp with hp | hp
    · rw [hbeside p.path (hapart p hp), h.value p hp]
    · obtain rfl := List.mem_singleton.mp hp
      exact hvalue
  · obtain ⟨hall, ho⟩ := List.forall_mem_append.mp hall
    rw [hbeside path (ho o (List.mem_singleton_self o)), h.beside path hpath hall]

/-- **All of them can be put one after another** if they are apart from one another. -/
theorem Holds.foldlM {items : List Text} (h : Holds done entries)
    (hitems : List.Forall₂ WrittenAs overrides items)
    (hapart : (done ++ overrides).Pairwise fun o p => Apart o.path p.path) :
    ∃ after, (items.foldlM (fun entries item => do
        let o ← read item
        Override.put o.key o.value o.rest o.first entries) entries) = .ok after ∧
      Holds (done ++ overrides) after := by
  induction hitems generalizing done entries with
  | nil =>
    rw [List.append_nil]
    exact ⟨entries, rfl, h⟩
  | @cons o item overrides items ho hitems ih =>
    have hdone : ∀ p ∈ done, Apart p.path o.path := fun p hp =>
      (List.pairwise_append.mp hapart).2.2 p hp o List.mem_cons_self
    obtain ⟨next, hput, hnext⟩ := h.put hdone
    rw [List.append_cons] at hapart ⊢
    obtain ⟨after, hafter, hholds⟩ := ih hnext hapart
    refine ⟨after, ?_, hholds⟩
    rw [List.foldlM_cons, read_eq_ok_iff.mpr ho]
    exact bind_eq_ok.mpr ⟨next, hput, hafter⟩

/-- **What entries hold determines them** but for the order in which they have it. -/
theorem Holds.alike (h : Holds overrides entries) (h' : Holds done others)
    (hsame : ∀ o, o ∈ overrides ↔ o ∈ done) :
    Datum.Alike (.mapping entries) (.mapping others) := by
  refine Datum.alike_of_follow? fun path => ?_
  by_cases hnil : path = []
  · rw [hnil]
    exact .mappings entries others
  by_cases hbeside : ∀ o ∈ overrides, Apart path o.path
  · rw [h.beside path hnil hbeside,
      h'.beside path hnil fun o ho => hbeside o ((hsame o).mpr ho)]
    exact .same none
  obtain ⟨o, ho, hpath⟩ : ∃ o ∈ overrides, ¬Apart path o.path := by
    simpa only [not_forall, exists_prop] using hbeside
  have hvalue := h.value o ho
  have hvalue' := h'.value o ((hsame o).mp ho)
  by_cases hwithin : o.path <+: path
  · obtain ⟨rest, rfl⟩ := hwithin
    rw [Datum.follow?_append, Datum.follow?_append, hvalue, hvalue']
    exact .same _
  · have hbefore : path <+: o.path := not_not.mp fun hbefore => hpath ⟨hbefore, hwithin⟩
    have hne : path ≠ o.path := fun heq => hwithin (heq ▸ List.prefix_refl path)
    obtain ⟨nested, hnested⟩ := Datum.hasMapping_of_follow? hvalue hbefore hne
    obtain ⟨nested', hnested'⟩ := Datum.hasMapping_of_follow? hvalue' hbefore hne
    rw [hnested, hnested']
    exact .mappings nested nested'

/-- Overrides that are apart from one another can be collected. -/
theorem exists_collect {items : List Text} (hitems : List.Forall₂ WrittenAs overrides items)
    (hapart : overrides.Pairwise fun o p => Apart o.parts p.parts) :
    ∃ entries, collect items = .ok entries ∧ Holds overrides entries :=
  holds_nil.foldlM hitems (hapart.imp fun h => h.map fun _ _ heq =>
    Scalar.text.inj (Datum.scalar.inj heq))

/-- **Overrides that do not overlap are collected in any order**: what comes out has each value at
the end of its path and nothing on paths that are apart from all of them, and if the overrides are
rearranged it is the same but for the order of entries. -/
theorem collect_apart {items : List Text} (hitems : List.Forall₂ WrittenAs overrides items)
    (hapart : overrides.Pairwise fun o p => Apart o.parts p.parts) :
    ∃ entries, collect items = .ok entries ∧
      (∀ o ∈ overrides, (Datum.mapping entries).follow? o.path = some o.value) ∧
      (∀ path ≠ [], (∀ o ∈ overrides, Apart path o.path) →
        (Datum.mapping entries).follow? path = none) ∧
      ∀ others, items.Perm others → ∃ rearranged, collect others = .ok rearranged ∧
        Datum.Alike (.mapping entries) (.mapping rearranged) := by
  obtain ⟨entries, hcollect, hholds⟩ := exists_collect hitems hapart
  refine ⟨entries, hcollect, hholds.value, hholds.beside, fun others hperm => ?_⟩
  -- The overrides of the other items are the same ones, rearranged like the items.
  have hothers : Relation.Comp (List.Forall₂ WrittenAs) List.Perm overrides others :=
    ⟨items, hitems, hperm⟩
  rw [List.forall₂_comp_perm_eq_perm_comp_forall₂] at hothers
  obtain ⟨moved, hmoved, hothers⟩ := hothers
  obtain ⟨rearranged, hrearranged, hholds'⟩ :=
    exists_collect hothers ((hmoved.pairwise_iff fun h => h.symm).mp hapart)
  exact ⟨rearranged, hrearranged, hholds.alike hholds' fun o => hmoved.mem_iff⟩

/-- A mapping that is given as a value, options within the same options, and empty parts of keys. -/
theorem collect_apart_nested :
    let items : List Text := ["a.b=\x7b'c': 1\x7d", ".a..d.b=None", "b=a.b"]
    let overrides : List Override := [
      ⟨"a.b", "a", ["b"], Datum.named [("c", .int 1)]⟩,
      ⟨".a..d.b", "a", ["d", "b"], .null⟩, ⟨"b", "b", [], .text "a.b"⟩]
    List.Forall₂ WrittenAs overrides items ∧
      overrides.Pairwise (fun o p => Apart o.parts p.parts) ∧
      ∃ entries, collect items = .ok entries ∧
        (Datum.mapping entries).follow? [.text "a", .text "b"] =
          some (Datum.named [("c", .int 1)]) ∧
        (Datum.mapping entries).follow? [.text "a", .text "c"] = none ∧
        ∃ rearranged, collect items.reverse = .ok rearranged ∧
          Datum.Alike (.mapping entries) (.mapping rearranged) := by
  intro items overrides
  have hmapping : valueOf "\x7b'c': 1\x7d" = .ok (Datum.named [("c", .int 1)]) :=
    valueOf_eq_ok (by decide +kernel : _ = some [.opening .curly, .text "c", .colon,
      .numeral (.real (.int 1)), .closing .curly]) rfl rfl
  have hnull : valueOf "None" = .ok .null :=
    valueOf_eq_ok (by decide +kernel : _ = some [.name "None"]) rfl rfl
  have htext : valueOf "a.b" = .ok (.text "a.b") := valueOf_text (by decide +kernel)
  have hitems : List.Forall₂ WrittenAs overrides items :=
    .cons ⟨⟨_, rfl, hmapping⟩, by decide, rfl⟩ (.cons ⟨⟨_, rfl, hnull⟩, by decide, rfl⟩
      (.cons ⟨⟨_, rfl, htext⟩, by decide, rfl⟩ .nil))
  have hapart : overrides.Pairwise fun o p => Apart o.parts p.parts := by decide
  obtain ⟨entries, hcollect, hvalue, hbeside, hrearranged⟩ := collect_apart hitems hapart
  refine ⟨hitems, hapart, entries, hcollect, hvalue _ List.mem_cons_self,
    hbeside _ (List.cons_ne_nil _ _) ?_, hrearranged _ items.reverse_perm.symm⟩
  have hbelow {s t : Text} (hne : s ≠ t) (path other : List Datum) :
      Apart (.text s :: path) (.text t :: other) :=
    apart_cons_iff.mpr fun heq => absurd (Scalar.text.inj (Datum.scalar.inj heq)) hne
  refine List.forall_mem_cons.mpr ⟨apart_cons_iff.mpr fun _ => hbelow (by decide) _ _,
    List.forall_mem_cons.mpr ⟨apart_cons_iff.mpr fun _ => hbelow (by decide) _ _,
      List.forall_mem_singleton.mpr (hbelow (by decide) _ _)⟩⟩

end Collecting

end Override

end Conform
