import Conform.Proofs.Datum.Paths

/-!
# Updates one after another

Two updates one after another do what one update does that was put together from both. The first
must not take away a mapping that the second goes into: where it puts something else in the place of
one, the second starts anew there, while put together they leave what was there before.

## Main definitions

- `Entries.keys_update`, `Entries.Distinct.ext` — the keys after an update, and what they leave open
- `Datum.Unbroken` — where no mapping is taken away from below an update
- `Entries.update_update` — updates one after another
-/

namespace Conform

namespace Entries

variable {entries others updates : Entries} {key d : Datum}

/-- The keys of entries in their order. -/
def keys (entries : Entries) : List Datum := entries.map (·.1)

theorem distinct_iff_keys :
    Distinct entries ↔ (keys entries).Pairwise fun k l => k.identity ≠ l.identity := by
  rw [Distinct, keys, List.pairwise_map]

/-- A new key goes behind the others. -/
theorem keys_insert (key d : Datum) (entries : Entries) :
    keys (insert key d entries) =
      if (entries.get? key).isNone then keys entries ++ [key] else keys entries := by
  induction entries with
  | nil => rfl
  | cons p entries ih =>
    obtain ⟨k, old⟩ := p
    rw [insert, get?_cons]
    by_cases hkey : k.same key = true
    · rw [if_pos hkey, if_pos hkey]
      rfl
    · rw [if_neg hkey, if_neg hkey]
      refine (congrArg (k :: ·) ih).trans ?_
      split <;> rfl

/-- The keys of an update that are new go behind the others, in their order. -/
theorem keys_update (h : Distinct updates) (entries : Entries) :
    keys (update entries updates) =
      keys entries ++ (keys updates).filter fun key => (entries.get? key).isNone := by
  induction updates generalizing entries with
  | nil =>
    rw [update]
    exact (List.append_nil _).symm
  | cons u updates ih =>
    obtain ⟨k, new⟩ := u
    obtain ⟨hk, hupdates⟩ := distinct_cons.mp h
    -- Further keys of the update are new exactly if they were new before the first was put in.
    have hnew : ∀ key ∈ keys updates,
        ((insert k (Datum.updated (entries.get? k) new) entries).get? key).isNone =
          (entries.get? key).isNone := by
      intro key hkey
      obtain ⟨q, hq, rfl⟩ := List.mem_map.mp hkey
      rw [get?_insert, if_neg fun hsame => hk q hq (Datum.same_iff.mp hsame)]
    have hkeys : keys ((k, new) :: updates) = k :: keys updates := rfl
    rw [update, ih hupdates, List.filter_congr hnew, keys_insert, hkeys, List.filter_cons]
    split
    · exact List.append_assoc _ _ _
    · rfl

/-- Entries are determined by their keys in order and by what stands under each key. -/
theorem Distinct.ext (h : Distinct entries) (hkeys : keys entries = keys others)
    (hget : ∀ key, entries.get? key = others.get? key) : entries = others := by
  induction entries generalizing others with
  | nil => exact (List.map_eq_nil_iff.mp hkeys.symm).symm
  | cons p entries ih =>
    obtain ⟨q, others, rfl⟩ : ∃ q rest, others = q :: rest := by
      cases others with
      | nil => exact nomatch hkeys
      | cons q rest => exact ⟨q, rest, rfl⟩
    obtain ⟨hkey, hrest⟩ : p.1 = q.1 ∧ keys entries = keys others := List.cons.inj hkeys
    have hothers : Distinct (q :: others) := by
      rw [distinct_iff_keys] at h ⊢
      rwa [← hkeys]
    have hsame (k : Datum) : k.same k = true := Datum.same_iff.mpr rfl
    have hdatum : p.2 = q.2 := by
      have hfound := hget p.1
      rw [get?_cons, get?_cons, if_pos (hsame _), if_pos (hkey ▸ hsame _)] at hfound
      exact Option.some.inj hfound
    refine congrArg₂ List.cons (Prod.ext hkey hdatum) (ih (distinct_cons.mp h).2 hrest fun k => ?_)
    by_cases hk : p.1.same k = true
    · have hidentity := Datum.same_iff.mp hk
      rw [get?_eq_none fun r hr => hidentity ▸ (distinct_cons.mp h).1 r hr,
        get?_eq_none fun r hr => hidentity ▸ hkey ▸ (distinct_cons.mp hothers).1 r hr]
    · have hfound := hget k
      rwa [get?_cons, get?_cons, if_neg hk, if_neg (hkey ▸ hk)] at hfound

section Twice

variable {first second : Entries}

theorem isNone_get?_update (h : Distinct updates) (entries : Entries) (key : Datum) :
    ((update entries updates).get? key).isNone =
      ((entries.get? key).isNone && (updates.get? key).isNone) := by
  rw [get?_update h]
  cases updates.get? key with
  | none => exact (Bool.and_true _).symm
  | some new => exact (Bool.and_false _).symm

/-- The keys of the entries come first, then those of the first update, then those of the second. -/
theorem keys_update_update (hfirst : Distinct first) (hsecond : Distinct second)
    (entries : Entries) :
    keys ((entries.update first).update second) = keys (entries.update (first.update second)) := by
  rw [keys_update hsecond, keys_update hfirst, keys_update (hfirst.update second),
    keys_update hsecond, List.filter_append, List.filter_filter, List.append_assoc]
  simp only [isNone_get?_update hfirst]

/-- Updates of entries follow one another as the updates under each key do. -/
theorem update_update_of_data (hentries : Distinct entries) (hfirst : Distinct first)
    (hsecond : Distinct second)
    (hdata : ∀ key between new, first.get? key = some between → second.get? key = some new →
      Datum.updated (some (Datum.updated (entries.get? key) between)) new =
        Datum.updated (entries.get? key) (Datum.updated (some between) new)) :
    (entries.update first).update second = entries.update (first.update second) := by
  refine ((hentries.update first).update second).ext (keys_update_update hfirst hsecond entries)
    fun key => ?_
  rw [get?_update hsecond, get?_update hfirst, get?_update (hfirst.update second),
    get?_update hsecond]
  cases hnew : second.get? key with
  | none => rfl
  | some new =>
    cases hbetween : first.get? key with
    | none =>
      exact congrArg (fun between => some (Datum.updated _ between)) (Datum.updated_none new).symm
    | some between => exact congrArg some (hdata key between new hbetween hnew)

end Twice

end Entries

namespace Datum

variable {base middle last : Datum}

/-- Whether nothing but mappings stands between mappings: no path leads to mappings in the first and
in the last datum and to something else in the one between them. -/
def Unbroken (base middle last : Datum) : Prop :=
  ∀ path, base.HasMapping path → last.HasMapping path →
    middle.HasMapping path ∨ middle.follow? path = none

section Breaks

variable {entries others updates : Entries}

theorem unbroken_of_entries?_eq_none (h : base.entries? = none ∨ last.entries? = none) :
    Unbroken base middle last := by
  intro path hbase hlast
  rcases h with h | h
  · exact absurd hbase (not_hasMapping h path)
  · exact absurd hlast (not_hasMapping h path)

/-- Between mappings there is a mapping. -/
theorem Unbroken.entries? (h : Unbroken (mapping entries) middle (mapping updates)) :
    ∃ others, middle = mapping others := by
  rcases h [] (hasMapping_nil entries) (hasMapping_nil updates) with ⟨others, hmiddle⟩ | hmiddle
  · exact ⟨others, Option.some.inj hmiddle⟩
  · exact nomatch hmiddle

/-- Mappings are unbroken exactly if what they have under the same key is. -/
theorem unbroken_mapping_iff :
    Unbroken (mapping entries) (mapping others) (mapping updates) ↔
      ∀ key d between new, entries.get? key = some d → others.get? key = some between →
        updates.get? key = some new → Unbroken d between new := by
  constructor
  · intro h key d between new hd hbetween hnew path hbase hlast
    have hpath := h (key :: path) (hasMapping_cons_iff.mpr ⟨d, hd, hbase⟩)
      (hasMapping_cons_iff.mpr ⟨new, hnew, hlast⟩)
    rw [hasMapping_cons_iff, follow?_cons, hbetween] at hpath
    exact hpath.imp_left fun ⟨found, hfound, hrest⟩ => Option.some.inj hfound ▸ hrest
  · intro h path hbase hlast
    cases path with
    | nil => exact .inl (hasMapping_nil others)
    | cons key path =>
      obtain ⟨d, hd, hbase⟩ := hasMapping_cons_iff.mp hbase
      obtain ⟨new, hnew, hlast⟩ := hasMapping_cons_iff.mp hlast
      rw [hasMapping_cons_iff, follow?_cons]
      cases hbetween : others.get? key with
      | none => exact .inr rfl
      | some between =>
        exact (h key d between new hd hbetween hnew path hbase hlast).imp_left fun hrest =>
          ⟨between, rfl, hrest⟩

theorem unbroken_of_forall_mem (h : ∀ p ∈ others, ∀ d new, entries.get? p.1 = some d →
    updates.get? p.1 = some new → Unbroken d p.2 new) :
    Unbroken (mapping entries) (mapping others) (mapping updates) := by
  refine unbroken_mapping_iff.mpr fun key d between new hd hbetween hnew => ?_
  obtain ⟨p, hp, hkey, rfl⟩ := Entries.mem_of_get? hbetween
  rw [← Entries.get?_congr _ hkey] at hd hnew
  exact h p hp d new hd hnew

end Breaks

section Updating

variable {old : Option Datum} {new : Datum}

/-- What is no mapping is replaced. -/
theorem updated_of_old (h : ∀ d ∈ old, d.entries? = none) (new : Datum) :
    updated old new = new := by
  cases old with
  | none => exact updated_none new
  | some old =>
    obtain ⟨hreplaced, -⟩ | ⟨entries, _, rfl, -⟩ := updated_cases old new
    · exact hreplaced
    · exact nomatch h _ rfl

/-- **Updates one after another are one update**, if the first takes no mapping away. -/
theorem WellKeyed.updated_updated (hnew : new.WellKeyed) (hmiddle : middle.WellKeyed)
    (hold : ∀ d ∈ old, d.WellKeyed) (h : ∀ d ∈ old, Unbroken d middle new) :
    Datum.updated (some (Datum.updated old middle)) new =
      Datum.updated old (Datum.updated (some middle) new) := by
  induction hnew generalizing old middle with
  | plain no_mapping => rw [updated_of_new _ no_mapping, updated_of_new _ no_mapping,
      updated_of_new _ no_mapping]
  | @mapping updates distinct data ih =>
    by_cases hplain : ∀ d ∈ old, d.entries? = none
    · rw [updated_of_old hplain, updated_of_old hplain]
    · obtain ⟨d, rfl, hd⟩ : ∃ d ∈ old, d.entries? ≠ none := by
        simpa only [not_forall, exists_prop] using hplain
      obtain ⟨entries, hentries⟩ := Option.ne_none_iff_exists'.mp hd
      obtain rfl := eq_mapping_of_entries? hentries
      -- A mapping before and a mapping to come: there is one between them.
      obtain ⟨others, rfl⟩ := (h _ rfl).entries?
      have hbelow := unbroken_mapping_iff.mp (h _ rfl)
      have hmappings := wellKeyed_mapping_iff.mp (hold _ rfl)
      simp only [updated_mapping]
      refine congrArg Datum.mapping ?_
      refine Entries.update_update_of_data hmappings.1 (wellKeyed_mapping_iff.mp hmiddle).1 distinct
        fun key between new hbetween hget => ?_
      obtain ⟨p, hp, -, rfl⟩ := Entries.mem_of_get? hget
      exact ih p hp (hmiddle.get? hbetween) (fun d hd => (hold _ rfl).get? hd)
        fun d hd => hbelow key d between p.2 hd hbetween hget

end Updating

end Datum

/-- **Updates compose**, the order of keys included: two updates one after another are the update
that is put together from them, unless the first takes a mapping away that the second goes into; and
entries are not changed by an update with themselves. -/
theorem Entries.update_update {entries : Entries} (h : (Datum.mapping entries).WellKeyed) :
    entries.update entries = entries ∧
      ∀ first second : Entries, (Datum.mapping first).WellKeyed →
        (Datum.mapping second).WellKeyed →
        Datum.Unbroken (.mapping entries) (.mapping first) (.mapping second) →
        (entries.update first).update second = entries.update (first.update second) := by
  have hself := h.updated_self
  rw [Datum.updated_mapping] at hself
  refine ⟨Datum.mapping.inj hself, fun first second hfirst hsecond hunbroken => ?_⟩
  have hcomposed : Datum.updated
      (some (Datum.updated (some (.mapping entries)) (.mapping first))) (.mapping second) =
        Datum.updated (some (.mapping entries))
          (Datum.updated (some (.mapping first)) (.mapping second)) :=
    hsecond.updated_updated hfirst (fun d hd => Option.some.inj hd ▸ h)
      fun d hd => Option.some.inj hd ▸ hunbroken
  simp only [Datum.updated_mapping] at hcomposed
  exact Datum.mapping.inj hcomposed

/-- Mappings that meet a number below, a mapping, or nothing are merged alike in both ways. -/
theorem Entries.update_update_nested :
    let entries := Entries.named [
      ("a", Datum.named [("x", .int 1), ("y", .int 2)]), ("b", .int 3),
      ("c", Datum.named [("z", .int 4)])]
    let first := Entries.named [
      ("b", Datum.named [("u", .int 5)]), ("a", Datum.named [("y", Datum.named [("v", .int 6)])])]
    let second := Entries.named [
      ("d", .null), ("c", Datum.named [("w", .int 7)]),
      ("a", Datum.named [("y", Datum.named [("w", .int 8)]), ("z", .int 9)])]
    (Datum.mapping entries).WellKeyed ∧ (Datum.mapping first).WellKeyed ∧
      (Datum.mapping second).WellKeyed ∧
      Datum.Unbroken (.mapping entries) (.mapping first) (.mapping second) ∧
      (entries.update first).update second = entries.update (first.update second) ∧
      entries.update (first.update second) = Entries.named [
        ("a", Datum.named [
          ("x", .int 1), ("y", Datum.named [("v", .int 6), ("w", .int 8)]), ("z", .int 9)]),
        ("b", Datum.named [("u", .int 5)]), ("c", Datum.named [("z", .int 4), ("w", .int 7)]),
        ("d", .null)] ∧
      entries.update entries = entries := by
  intro entries first second
  have hint (n : Int) : (Datum.int n).WellKeyed := .plain rfl
  have hsingle (key : String) (d : Datum) (hd : d.WellKeyed) : (Datum.named [(key, d)]).WellKeyed :=
    Datum.wellKeyed_named [key] rfl (List.nodup_singleton _) (List.forall_mem_singleton.mpr hd)
  have hentries : (Datum.mapping entries).WellKeyed := by
    have ha : (Datum.named [("x", .int 1), ("y", .int 2)]).WellKeyed :=
      Datum.wellKeyed_named ["x", "y"] rfl (by decide)
        (List.forall_mem_cons.mpr ⟨hint 1, List.forall_mem_singleton.mpr (hint 2)⟩)
    exact Datum.wellKeyed_named ["a", "b", "c"] rfl (by decide) (List.forall_mem_cons.mpr
      ⟨ha, List.forall_mem_cons.mpr ⟨hint 3, List.forall_mem_singleton.mpr
        (hsingle "z" _ (hint 4))⟩⟩)
  have hfirst : (Datum.mapping first).WellKeyed :=
    Datum.wellKeyed_named ["b", "a"] rfl (by decide) (List.forall_mem_cons.mpr
      ⟨hsingle "u" _ (hint 5), List.forall_mem_singleton.mpr
        (hsingle "y" _ (hsingle "v" _ (hint 6)))⟩)
  have hsecond : (Datum.mapping second).WellKeyed := by
    have ha : (Datum.named [("y", Datum.named [("w", .int 8)]), ("z", .int 9)]).WellKeyed :=
      Datum.wellKeyed_named ["y", "z"] rfl (by decide) (List.forall_mem_cons.mpr
        ⟨hsingle "w" _ (hint 8), List.forall_mem_singleton.mpr (hint 9)⟩)
    exact Datum.wellKeyed_named ["d", "c", "a"] rfl (by decide) (List.forall_mem_cons.mpr
      ⟨.plain rfl, List.forall_mem_cons.mpr
        ⟨hsingle "w" _ (hint 7), List.forall_mem_singleton.mpr ha⟩⟩)
  have hunbroken : Datum.Unbroken (.mapping entries) (.mapping first) (.mapping second) := by
    refine Datum.unbroken_of_forall_mem (List.forall_mem_cons.mpr
      ⟨fun d new hd _ => ?b, List.forall_mem_singleton.mpr fun d new hd hnew => ?a⟩)
    case b =>
      obtain rfl : Datum.int 3 = d := Option.some.inj hd
      exact Datum.unbroken_of_entries?_eq_none (.inl rfl)
    case a =>
      obtain rfl := Option.some.inj hd
      obtain rfl := Option.some.inj hnew
      refine Datum.unbroken_of_forall_mem (List.forall_mem_singleton.mpr fun d new hd _ => ?_)
      obtain rfl : Datum.int 2 = d := Option.some.inj hd
      exact Datum.unbroken_of_entries?_eq_none (.inl rfl)
  obtain ⟨hself, hcomposed⟩ := Entries.update_update hentries
  exact ⟨hentries, hfirst, hsecond, hunbroken, hcomposed first second hfirst hsecond hunbroken, rfl,
    hself⟩

/-- Where a mapping is taken away before the update that goes into it, what it had is gone. -/
example :
    let entries := Entries.named [("a", Datum.named [("x", .int 1)])]
    let first := Entries.named [("a", .int 0)]
    let second := Entries.named [("a", Datum.named [("y", .int 2)])]
    ((Datum.mapping ((entries.update first).update second)).at? ["a", "x"]).isNone ∧
      ((Datum.mapping (entries.update (first.update second))).at? ["a", "x"]).isSome := by
  decide

end Conform
