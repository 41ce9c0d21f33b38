import Conform.Datum.Merging
import Conform.Proofs.Schema.Fields

/-!
# Entries and updates

What is found among entries once they have been changed, and what is found at the end of a path of
keys once an update has been merged. An update decides about a path if it has something there, or
something on the way that is no mapping; everywhere else it changes nothing.

## Main definitions

- `Entries.Distinct`, `Datum.WellKeyed` — no key occurs twice, in mappings within mappings either
- `Entries.TextKeyed`, `Entries.ofFields` — entries with texts as keys
- `Entries.get?_update` — one step of an update
- `Datum.at?`, `Datum.Settles` — paths, and which of them an update decides about
- `Datum.at?_updated_of_settles`, `Datum.at?_updated_of_not_settles` — what an update does to a path
-/

namespace Conform

theorem Datum.same_iff {a b : Datum} : a.same b = true ↔ a.identity = b.identity := beq_iff_eq

/-- Texts are the same keys if they are equal. -/
theorem Datum.same_text_iff {s t : Text} : (text s).same (text t) = true ↔ s = t := by
  rw [same_iff]
  constructor
  · intro h
    exact (List.cons.inj (List.cons.inj h).2).2
  · exact congrArg fun t => (text t).identity

namespace Entries

variable {entries updates : Entries} {key other : Datum} {d : Datum} {p : Datum × Datum}

/-- No key occurs twice. -/
def Distinct (entries : Entries) : Prop :=
  entries.Pairwise fun p q => p.1.identity ≠ q.1.identity

instance (entries : Entries) : Decidable (Distinct entries) :=
  inferInstanceAs (Decidable (entries.Pairwise fun p q => p.1.identity ≠ q.1.identity))

theorem distinct_cons : Distinct (p :: entries) ↔
    (∀ q ∈ entries, p.1.identity ≠ q.1.identity) ∧ Distinct entries := List.pairwise_cons

section Finding

theorem get?_cons (p : Datum × Datum) (entries : Entries) (key : Datum) :
    get? (p :: entries) key = if p.1.same key then some p.2 else get? entries key := rfl

/-- Keys that are the same find the same. -/
theorem get?_congr (entries : Entries) (h : key.identity = other.identity) :
    get? entries key = get? entries other := by
  induction entries with
  | nil => rfl
  | cons p entries ih => rw [get?_cons, get?_cons, Datum.same, Datum.same, h, ih]

theorem mem_of_get? (h : get? entries key = some d) :
    ∃ p ∈ entries, p.1.identity = key.identity ∧ p.2 = d := by
  induction entries with
  | nil => exact nomatch h
  | cons p entries ih =>
    rw [get?_cons] at h
    split at h
    · rename_i hkey
      exact ⟨p, List.mem_cons_self, Datum.same_iff.mp hkey, Option.some.inj h⟩
    · obtain ⟨q, hq, hfound⟩ := ih h
      exact ⟨q, List.mem_cons_of_mem p hq, hfound⟩

theorem get?_eq_none (h : ∀ q ∈ entries, key.identity ≠ q.1.identity) :
    get? entries key = none := by
  cases hget : get? entries key with
  | none => rfl
  | some d =>
    obtain ⟨q, hq, hkey, -⟩ := mem_of_get? hget
    exact absurd hkey.symm (h q hq)

/-- Among distinct keys the only entry with a key is found. -/
theorem Distinct.get?_eq_some (h : Distinct entries) (hmem : p ∈ entries) :
    get? entries p.1 = some p.2 := by
  induction entries with
  | nil => exact absurd hmem List.not_mem_nil
  | cons q entries ih =>
    obtain ⟨hq, hentries⟩ := distinct_cons.mp h
    rw [get?_cons]
    rcases List.mem_cons.mp hmem with rfl | hmem
    · exact if_pos (Datum.same_iff.mpr rfl)
    · rw [if_neg fun hsame => hq p hmem (Datum.same_iff.mp hsame), ih hentries hmem]

end Finding

/-- All keys are texts. -/
def TextKeyed (entries : Entries) : Prop := ∀ p ∈ entries, ∃ t, p.1 = .text t

/-- Fields as entries. -/
def ofFields (fields : List (Text × Datum)) : Entries := fields.map fun p => (.text p.1, p.2)

section Fields

variable {fields : List (Text × Datum)}

/-- Entries with texts as keys are fields. -/
theorem textKeyed_iff : TextKeyed entries ↔ ∃ fields, entries = ofFields fields := by
  constructor
  · intro h
    induction entries with
    | nil => exact ⟨[], rfl⟩
    | cons p entries ih =>
      obtain ⟨⟨t, ht⟩, hentries⟩ := List.forall_mem_cons.mp h
      obtain ⟨fields, rfl⟩ := ih hentries
      exact ⟨(t, p.2) :: fields, congrArg (· :: ofFields fields) (Prod.ext ht rfl)⟩
  · rintro ⟨fields, rfl⟩ p hp
    obtain ⟨q, -, rfl⟩ := List.mem_map.mp hp
    exact ⟨q.1, rfl⟩

theorem distinct_ofFields : Distinct (ofFields fields) ↔ Fields.Distinct fields := by
  rw [Distinct, ofFields, List.pairwise_map, Fields.Distinct, List.Nodup, List.pairwise_map]
  simp only [← Datum.same_iff, Datum.same_text_iff, ne_eq]

/-- Among fields as entries a text finds what it finds among the fields. -/
theorem at?_ofFields (fields : List (Text × Datum)) (name : Text) :
    (ofFields fields).at? name = Fields.get? fields name := by
  induction fields with
  | nil => rfl
  | cons field fields ih =>
    rw [Fields.get?_cons, ← ih]
    refine (get?_cons _ _ _).trans ?_
    by_cases hname : name = field.1
    · rw [if_pos hname, if_pos (Datum.same_text_iff.mpr hname.symm)]
    · rw [if_neg hname, if_neg fun h => hname (Datum.same_text_iff.mp h).symm]
      rfl

end Fields

section Inserting

theorem get?_insert (key other : Datum) (d : Datum) (entries : Entries) :
    get? (insert key d entries) other =
      if key.same other then some d else get? entries other := by
  induction entries with
  | nil => rfl
  | cons p entries ih =>
    obtain ⟨k, old⟩ := p
    rw [insert]
    split
    · rename_i hkey
      have hsame : k.same other = key.same other := by
        rw [Datum.same, Datum.same, Datum.same_iff.mp hkey]
      rw [get?_cons, get?_cons, hsame]
      split <;> rfl
    · rename_i hkey
      rw [get?_cons, get?_cons, ih]
      by_cases hk : k.same other = true
      · have hother : ¬key.same other = true := by
          rw [Datum.same_iff] at hkey hk ⊢
          exact fun h => hkey (hk.trans h.symm)
        rw [if_pos hk, if_neg hother, if_pos hk]
      · rw [if_neg hk, if_neg hk]

/-- What is among entries after an insertion has the new key, or a key that was there. -/
theorem mem_insert (h : p ∈ insert key d entries) :
    (p.2 = d ∨ p ∈ entries) ∧ (p.1 = key ∨ ∃ q ∈ entries, q.1 = p.1) := by
  induction entries with
  | nil =>
    obtain rfl := List.mem_singleton.mp h
    exact ⟨.inl rfl, .inl rfl⟩
  | cons q entries ih =>
    obtain ⟨k, old⟩ := q
    rw [insert] at h
    split at h
    · rcases List.mem_cons.mp h with rfl | h
      · exact ⟨.inl rfl, .inr ⟨_, List.mem_cons_self, rfl⟩⟩
      · exact ⟨.inr (List.mem_cons_of_mem _ h), .inr ⟨p, List.mem_cons_of_mem _ h, rfl⟩⟩
    · rcases List.mem_cons.mp h with rfl | h
      · exact ⟨.inr List.mem_cons_self, .inr ⟨_, List.mem_cons_self, rfl⟩⟩
      · obtain ⟨hdatum, hkey⟩ := ih h
        exact ⟨hdatum.imp_right (List.mem_cons_of_mem _),
          hkey.imp_right fun ⟨q, hq, hqp⟩ => ⟨q, List.mem_cons_of_mem _ hq, hqp⟩⟩

theorem Distinct.insert (h : Distinct entries) (key d : Datum) :
    Distinct (Entries.insert key d entries) := by
  induction entries with
  | nil => exact List.pairwise_singleton _ _
  | cons q entries ih =>
    obtain ⟨k, old⟩ := q
    obtain ⟨hk, hentries⟩ := distinct_cons.mp h
    rw [Entries.insert]
    split
    · exact distinct_cons.mpr ⟨hk, hentries⟩
    · rename_i hkey
      refine distinct_cons.mpr ⟨fun p hp => ?_, ih hentries⟩
      rcases (mem_insert hp).2 with hp | ⟨q, hq, hqp⟩
      · rw [hp]
        exact fun heq => hkey (Datum.same_iff.mpr heq)
      · rw [← hqp]
        exact hk q hq

/-- What is there already is not changed by putting it there again. -/
theorem insert_eq_self (h : get? entries key = some d) : insert key d entries = entries := by
  induction entries with
  | nil => exact nomatch h
  | cons p entries ih =>
    obtain ⟨k, old⟩ := p
    rw [get?_cons] at h
    rw [insert]
    split at h
    · rename_i hkey
      rw [if_pos hkey, ← Option.some.inj h]
    · rename_i hkey
      rw [if_neg hkey, ih h]

end Inserting

section Updating

/-- An update replaces what stands under the keys it names. -/
theorem get?_update (h : Distinct updates) (entries : Entries) (key : Datum) :
    get? (update entries updates) key =
      match get? updates key with
      | none => get? entries key
      | some new => some (Datum.updated (get? entries key) new) := by
  induction updates generalizing entries with
  | nil => rw [update]; rfl
  | cons p updates ih =>
    obtain ⟨k, new⟩ := p
    obtain ⟨hk, hupdates⟩ := distinct_cons.mp h
    rw [update, ih hupdates, get?_insert, get?_cons]
    by_cases hkey : k.same key = true
    · have hidentity := Datum.same_iff.mp hkey
      have hnone : get? updates key = none :=
        get?_eq_none fun q hq => hidentity ▸ hk q hq
      rw [hnone, if_pos hkey, if_pos hkey, get?_congr entries hidentity]
    · rw [if_neg hkey, if_neg hkey]

/-- The keys after an update are keys of one side. -/
theorem key_mem_update (h : p ∈ update entries updates) :
    ∃ q, (q ∈ entries ∨ q ∈ updates) ∧ q.1 = p.1 := by
  induction updates generalizing entries with
  | nil =>
    rw [update] at h
    exact ⟨p, .inl h, rfl⟩
  | cons u updates ih =>
    obtain ⟨k, new⟩ := u
    rw [update] at h
    obtain ⟨q, hq | hq, hqp⟩ := ih h
    · rcases (mem_insert hq).2 with hk | ⟨r, hr, hrq⟩
      · exact ⟨(k, new), .inr List.mem_cons_self, hk.symm.trans hqp⟩
      · exact ⟨r, .inl hr, hrq.trans hqp⟩
    · exact ⟨q, .inr (List.mem_cons_of_mem _ hq), hqp⟩

theorem Distinct.update (h : Distinct entries) (updates : Entries) :
    Distinct (Entries.update entries updates) := by
  induction updates generalizing entries with
  | nil => rwa [Entries.update]
  | cons u updates ih =>
    obtain ⟨k, new⟩ := u
    rw [Entries.update]
    exact ih (h.insert k _)

/-- Everything after an update has a property if it is kept by each replacement. -/
theorem forall_mem_update {P : Datum → Prop} (hentries : ∀ p ∈ entries, P p.2)
    (hupdates : ∀ u ∈ updates, ∀ old : Option Datum, (∀ d ∈ old, P d) →
      P (Datum.updated old u.2)) : ∀ p ∈ update entries updates, P p.2 := by
  induction updates generalizing entries with
  | nil => rwa [update]
  | cons u updates ih =>
    obtain ⟨k, new⟩ := u
    obtain ⟨hnew, hupdates⟩ := List.forall_mem_cons.mp hupdates
    rw [update]
    refine ih (fun p hp => ?_) hupdates
    rcases (mem_insert hp).1 with hp | hp
    · rw [hp]
      refine hnew _ fun d hd => ?_
      obtain ⟨q, hq, -, rfl⟩ := mem_of_get? hd
      exact hentries q hq
    · exact hentries p hp

theorem update_eq_self
    (h : ∀ u ∈ updates, get? entries u.1 = some u.2 ∧ Datum.updated (some u.2) u.2 = u.2) :
    update entries updates = entries := by
  induction updates with
  | nil => rw [update]
  | cons u updates ih =>
    obtain ⟨k, new⟩ := u
    obtain ⟨⟨hget, hself⟩, hupdates⟩ := List.forall_mem_cons.mp h
    rw [update, hget, hself, insert_eq_self hget, ih hupdates]

end Updating

end Entries

namespace Datum

variable {entries updates : Entries} {d old new : Datum} {key : Text} {path : List Text}

/-- No key occurs twice, in a mapping or in the mappings within it. -/
inductive WellKeyed : Datum → Prop
  | plain {d : Datum} (no_mapping : d.entries? = none) : WellKeyed d
  | mapping {entries : Entries} (distinct : Entries.Distinct entries)
      (data : ∀ p ∈ entries, WellKeyed p.2) : WellKeyed (.mapping entries)

theorem wellKeyed_mapping_iff : (mapping entries).WellKeyed ↔
    Entries.Distinct entries ∧ ∀ p ∈ entries, p.2.WellKeyed := by
  constructor
  · intro h
    cases h with
    | plain no_mapping => exact nomatch no_mapping
    | mapping distinct data => exact ⟨distinct, data⟩
  · exact fun ⟨distinct, data⟩ => .mapping distinct data

theorem wellKeyed_named {named : List (String × Datum)} (keys : List String)
    (hnamed : named.map (·.1) = keys) (hkeys : (keys.map Text.ofString).Nodup)
    (hdata : ∀ p ∈ named, p.2.WellKeyed) : (Datum.named named).WellKeyed := by
  refine .mapping ?_ fun p hp => ?_
  · rw [Entries.named, Entries.Distinct, List.pairwise_map]
    rw [← hnamed, List.map_map, List.Nodup, List.pairwise_map] at hkeys
    exact hkeys.imp fun hne heq => hne (same_text_iff.mp (same_iff.mpr heq))
  · obtain ⟨q, hq, rfl⟩ := List.mem_map.mp hp
    exact hdata q hq

theorem eq_mapping_of_entries? (h : d.entries? = some entries) : d = .mapping entries := by
  cases d with
  | mapping => exact congrArg mapping (Option.some.inj h)
  | _ => cases h

theorem WellKeyed.get? (h : (Datum.mapping entries).WellKeyed) {key : Datum}
    (hget : Entries.get? entries key = some d) : d.WellKeyed := by
  obtain ⟨p, hp, -, rfl⟩ := Entries.mem_of_get? hget
  exact (wellKeyed_mapping_iff.mp h).2 p hp

section Updating

theorem updated_mapping (entries updates : Entries) :
    updated (some (mapping entries)) (mapping updates) = mapping (entries.update updates) := by
  rw [updated]

theorem updated_none (new : Datum) : updated none new = new := by
  rw [updated]
  intro entries updates h
  exact nomatch h

theorem updated_of_new (old : Option Datum) (h : new.entries? = none) : updated old new = new := by
  rw [updated]
  rintro entries updates - rfl
  exact nomatch h

/-- An update replaces a datum, unless both are mappings. -/
theorem updated_cases (old new : Datum) :
    (updated (some old) new = new ∧ (old.entries? = none ∨ new.entries? = none)) ∨
      ∃ entries updates : Entries, old = mapping entries ∧ new = mapping updates := by
  cases hold : old.entries? with
  | none =>
    refine .inl ⟨?_, .inl rfl⟩
    rw [updated]
    rintro entries updates ⟨⟩ -
    exact nomatch hold
  | some entries =>
    cases hnew : new.entries? with
    | none => exact .inl ⟨updated_of_new _ hnew, .inr rfl⟩
    | some updates =>
      exact .inr ⟨entries, updates, eq_mapping_of_entries? hold, eq_mapping_of_entries? hnew⟩

/-- A datum is not changed by an update with itself. -/
theorem WellKeyed.updated_self (h : d.WellKeyed) : updated (some d) d = d := by
  induction h with
  | plain no_mapping => exact updated_of_new _ no_mapping
  | @mapping entries distinct data ih =>
    rw [updated_mapping, Entries.update_eq_self]
    exact fun p hp => ⟨distinct.get?_eq_some hp, ih p hp⟩

theorem WellKeyed.updated (hnew : new.WellKeyed) {old : Option Datum}
    (hold : ∀ d ∈ old, d.WellKeyed) : (updated old new).WellKeyed := by
  induction hnew generalizing old with
  | plain no_mapping =>
    rw [updated_of_new _ no_mapping]
    exact .plain no_mapping
  | @mapping updates distinct data ih =>
    have hupdates : (Datum.mapping updates).WellKeyed := .mapping distinct data
    cases old with
    | none => rwa [updated_none]
    | some old =>
      obtain ⟨hreplaced, -⟩ | ⟨entries, _, rfl, hsame⟩ := updated_cases old (.mapping updates)
      · rwa [hreplaced]
      · cases hsame
        obtain ⟨hdistinct, hdata⟩ := wellKeyed_mapping_iff.mp (hold _ rfl)
        rw [updated_mapping]
        exact .mapping (hdistinct.update _) (Entries.forall_mem_update hdata ih)

end Updating

/-- What stands at the end of a path of keys that are texts. -/
def at? : Datum → (path : List Text) → Option Datum
  | d, [] => some d
  | d, key :: path =>
    (d.entries?.bind fun entries => entries.at? key).bind fun found => found.at? path

/-- Whether a datum decides about a path: it has something there, or something on the way that is no
mapping. -/
def Settles (d : Datum) (path : List Text) : Prop :=
  ∃ start, start <+: path ∧ ∃ found, d.at? start = some found ∧
    (start = path ∨ found.entries? = none)

section Paths

theorem at?_cons (entries : Entries) (key : Text) (path : List Text) :
    (mapping entries).at? (key :: path) = (entries.at? key).bind fun found => found.at? path := rfl

theorem at?_append (d : Datum) (start path : List Text) :
    d.at? (start ++ path) = (d.at? start).bind fun found => found.at? path := by
  induction start generalizing d with
  | nil => rfl
  | cons key start ih =>
    simp only [List.cons_append, at?, Option.bind_assoc, ih]

theorem at?_cons_of_entries?_eq_none (h : d.entries? = none) (key : Text) (path : List Text) :
    d.at? (key :: path) = none := by
  rw [at?, h]
  rfl

/-- What is no mapping decides about all paths. -/
theorem settles_of_entries?_eq_none (h : d.entries? = none) (path : List Text) : d.Settles path :=
  ⟨[], List.nil_prefix, d, rfl, .inr h⟩

theorem settles_nil (d : Datum) : d.Settles [] := ⟨[], List.nil_prefix, d, rfl, .inl rfl⟩

/-- A mapping decides about a path through what it has under the first key. -/
theorem settles_cons_iff : (mapping entries).Settles (key :: path) ↔
    ∃ found, entries.at? key = some found ∧ found.Settles path := by
  constructor
  · rintro ⟨start, hstart, found, hfound, hend⟩
    cases start with
    | nil =>
      obtain rfl := Option.some.inj hfound
      rcases hend with hend | hend <;> exact nomatch hend
    | cons k start =>
      obtain ⟨rfl, hprefix⟩ := List.cons_prefix_cons.mp hstart
      obtain ⟨first, hfirst, hrest⟩ := Option.bind_eq_some_iff.mp hfound
      exact ⟨first, hfirst, start, hprefix, found, hrest,
        hend.imp_left fun heq => (List.cons.inj heq).2⟩
  · rintro ⟨first, hfirst, start, hstart, found, hfound, hend⟩
    refine ⟨key :: start, List.cons_prefix_cons.mpr ⟨rfl, hstart⟩, found, ?_,
      hend.imp_left fun heq => congrArg (key :: ·) heq⟩
    rw [at?_cons, hfirst]
    exact hfound

/-- Whether a datum decides about a path can be found out key by key. -/
instance decidableSettles : (d : Datum) → (path : List Text) → Decidable (d.Settles path)
  | d, [] => isTrue (settles_nil d)
  | d, key :: path =>
    match hentries : d.entries? with
    | none => isTrue (settles_of_entries?_eq_none hentries _)
    | some entries =>
      have hd : d = mapping entries := eq_mapping_of_entries? hentries
      match hfound : entries.at? key with
      | none => isFalse fun h => by
          obtain ⟨found, hget, -⟩ := settles_cons_iff.mp (hd ▸ h)
          exact Option.some_ne_none found (hget.symm.trans hfound)
      | some found =>
        haveI := decidableSettles found path
        decidable_of_iff (found.Settles path) (by
          rw [hd, settles_cons_iff]
          refine ⟨fun hrest => ⟨found, hfound, hrest⟩, fun hany => ?_⟩
          obtain ⟨other, hother, hrest⟩ := hany
          rwa [Option.some.inj (hfound.symm.trans hother)])

theorem at?_eq_none_of_not_settles (h : ¬d.Settles path) : d.at? path = none := by
  cases hat : d.at? path with
  | none => rfl
  | some found => exact absurd ⟨path, List.prefix_refl path, found, hat, .inl rfl⟩ h

theorem WellKeyed.at? (h : d.WellKeyed) (hat : d.at? path = some new) : new.WellKeyed := by
  induction path generalizing d with
  | nil => exact Option.some.inj hat ▸ h
  | cons key path ih =>
    cases hentries : d.entries? with
    | none => exact nomatch (at?_cons_of_entries?_eq_none hentries key path).symm.trans hat
    | some entries =>
      obtain rfl := eq_mapping_of_entries? hentries
      obtain ⟨found, hfound, hat⟩ := Option.bind_eq_some_iff.mp hat
      exact ih (h.get? hfound) hat

/-- The first step of a path through an update. -/
theorem at?_updated_mapping (hnew : (mapping updates).WellKeyed) :
    (updated (some (mapping entries)) (mapping updates)).at? (key :: path) =
      match updates.at? key with
      | none => (mapping entries).at? (key :: path)
      | some new => (updated (entries.at? key) new).at? path := by
  rw [updated_mapping, at?_cons, at?_cons, Entries.at?, Entries.at?, Entries.at?,
    Entries.get?_update (wellKeyed_mapping_iff.mp hnew).1]
  cases updates.get? (.text key) <;> rfl

/-- **Where an update decides nothing it changes nothing.** -/
theorem at?_updated_of_not_settles (hnew : new.WellKeyed) (h : ¬new.Settles path) :
    (updated (some old) new).at? path = old.at? path := by
  induction path generalizing old new with
  | nil => exact absurd (settles_nil new) h
  | cons key path ih =>
    obtain ⟨hreplaced, hold | hleaf⟩ | ⟨entries, updates, rfl, rfl⟩ := updated_cases old new
    · rw [hreplaced, at?_eq_none_of_not_settles h, at?_cons_of_entries?_eq_none hold]
    · exact absurd (settles_of_entries?_eq_none hleaf _) h
    · rw [at?_updated_mapping hnew]
      cases hget : updates.at? key with
      | none => rfl
      | some found =>
        have hrest : ¬found.Settles path := fun hfound =>
          h (settles_cons_iff.mpr ⟨_, hget, hfound⟩)
        rw [at?_cons]
        cases entries.at? key with
        | none =>
          show (updated none found).at? path = none
          rw [updated_none, at?_eq_none_of_not_settles hrest]
        | some first => exact ih (hnew.get? hget) hrest

/-- **Where an update decides, it alone counts**, unless it is merged with a mapping. -/
theorem at?_updated_of_settles (hnew : new.WellKeyed) (h : new.Settles path)
    (hold : ∀ d, old.at? path = some d → d.entries? = none) :
    (updated (some old) new).at? path = new.at? path := by
  induction path generalizing old new with
  | nil =>
    obtain ⟨hreplaced, -⟩ | ⟨entries, updates, rfl, rfl⟩ := updated_cases old new
    · rw [hreplaced]
    · exact nomatch hold _ rfl
  | cons key path ih =>
    obtain ⟨hreplaced, -⟩ | ⟨entries, updates, rfl, rfl⟩ := updated_cases old new
    · rw [hreplaced]
    · obtain ⟨found, hget, hrest⟩ := settles_cons_iff.mp h
      rw [at?_updated_mapping hnew, at?_cons updates, hget]
      show (updated (entries.at? key) found).at? path = found.at? path
      cases hfirst : entries.at? key with
      | none => rw [updated_none]
      | some first =>
        refine ih (hnew.get? hget) hrest fun d hd => hold d ?_
        rw [at?_cons, hfirst]
        exact hd

/-- The keys of a mapping after an update are keys of one side. -/
theorem key_mem_at?_updated (hnew : new.WellKeyed) {found : Entries}
    (hat : (updated (some old) new).at? path = some (.mapping found)) {p : Datum × Datum}
    (hp : p ∈ found) : ∃ entries, (old.at? path = some (.mapping entries) ∨
      new.at? path = some (.mapping entries)) ∧ ∃ q ∈ entries, q.1 = p.1 := by
  induction path generalizing old new with
  | nil =>
    obtain ⟨hreplaced, -⟩ | ⟨entries, updates, rfl, rfl⟩ := updated_cases old new
    · exact ⟨found, .inr (hreplaced ▸ hat), p, hp, rfl⟩
    · rw [updated_mapping] at hat
      cases hat
      obtain ⟨q, hq | hq, hqp⟩ := Entries.key_mem_update hp
      · exact ⟨entries, .inl rfl, q, hq, hqp⟩
      · exact ⟨updates, .inr rfl, q, hq, hqp⟩
  | cons key path ih =>
    obtain ⟨hreplaced, -⟩ | ⟨entries, updates, rfl, rfl⟩ := updated_cases old new
    · exact ⟨found, .inr (hreplaced ▸ hat), p, hp, rfl⟩
    · rw [at?_updated_mapping hnew] at hat
      cases hget : updates.at? key with
      | none =>
        rw [hget] at hat
        exact ⟨found, .inl hat, p, hp, rfl⟩
      | some new =>
        rw [hget] at hat
        cases hfirst : entries.at? key with
        | none =>
          rw [hfirst] at hat
          replace hat : (updated none new).at? path = some (.mapping found) := hat
          rw [updated_none] at hat
          exact ⟨found, .inr (by rw [at?_cons, hget]; exact hat), p, hp, rfl⟩
        | some first =>
          rw [hfirst] at hat
          rw [at?_cons, at?_cons, hget, hfirst]
          exact ih (hnew.get? hget) hat

end Paths

end Datum

end Conform
