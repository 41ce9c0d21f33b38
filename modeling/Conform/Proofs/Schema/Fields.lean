import Conform.Schema.Basic
import Mathlib.Data.List.Nodup

/-!
# Fields with distinct keys

Objects are lists of fields. Inserting keeps the keys distinct, and so do the operations that are
made of insertions.

## Main definitions

- `Fields.Distinct` — no key occurs twice
- `Fields.Distinct.merge`, `Fields.distinct_ofList` — the operations on fields keep keys distinct
- `Fields.Distinct.merge_assoc` — fields may be merged in any grouping
- `Fields.mem_of_get?`, `Fields.get?_eq_none`, `Fields.get?_insert` — looking up a field
-/

namespace Conform.Fields

variable {α β : Type} {fields : List (Text × α)} {key : Text} {value : α}

/-- No key occurs twice. -/
def Distinct (fields : List (Text × α)) : Prop := (fields.map (·.1)).Nodup

instance (fields : List (Text × α)) : Decidable (Distinct fields) :=
  inferInstanceAs (Decidable (fields.map (·.1)).Nodup)

theorem distinct_nil : Distinct ([] : List (Text × α)) := List.nodup_nil

theorem distinct_cons {field : Text × α} :
    Distinct (field :: fields) ↔ (∀ p ∈ fields, p.1 ≠ field.1) ∧ Distinct fields := by
  rw [Distinct, Distinct, List.map_cons, List.nodup_cons]
  simp only [List.mem_map, not_exists, not_and, ne_eq]

/-- What is among the fields after an insertion. -/
theorem mem_insert {p : Text × α} (h : p ∈ insert key value fields) :
    p = (key, value) ∨ p ∈ fields := by
  induction fields with
  | nil => exact .inl (List.mem_singleton.mp h)
  | cons field fields ih =>
    obtain ⟨k, v⟩ := field
    by_cases hk : k = key
    · subst hk
      rw [insert, if_pos rfl, List.mem_cons] at h
      exact h.imp_right (List.mem_cons_of_mem _)
    · rw [insert, if_neg hk, List.mem_cons] at h
      rcases h with rfl | h
      · exact .inr List.mem_cons_self
      · exact (ih h).imp_right (List.mem_cons_of_mem _)

theorem Distinct.insert (h : Distinct fields) (key : Text) (value : α) :
    Distinct (Fields.insert key value fields) := by
  induction fields with
  | nil => exact List.nodup_singleton key
  | cons field fields ih =>
    obtain ⟨k, v⟩ := field
    rw [distinct_cons] at h
    by_cases hk : k = key
    · subst hk
      rw [Fields.insert, if_pos rfl, distinct_cons]
      exact h
    · rw [Fields.insert, if_neg hk, distinct_cons]
      refine ⟨fun p hp => ?_, ih h.2⟩
      rcases mem_insert hp with rfl | hmem
      · exact fun heq => hk heq.symm
      · exact h.1 p hmem

/-- What is among the fields of two lists that are merged. -/
theorem mem_merge {first second : List (Text × α)} {p : Text × α} (h : p ∈ merge first second) :
    p ∈ first ∨ p ∈ second := by
  induction second generalizing first with
  | nil => exact .inl h
  | cons field second ih =>
    rcases ih h with hmem | hmem
    · rcases mem_insert hmem with rfl | hfirst
      · exact .inr List.mem_cons_self
      · exact .inl hfirst
    · exact .inr (List.mem_cons_of_mem field hmem)

theorem Distinct.merge {first : List (Text × α)} (h : Distinct first)
    (second : List (Text × α)) : Distinct (merge first second) := by
  induction second generalizing first with
  | nil => exact h
  | cons field second ih => exact ih (h.insert field.1 field.2)

theorem distinct_ofList (fields : List (Text × α)) : Distinct (ofList fields) :=
  distinct_nil.merge fields

theorem mem_ofList {p : Text × α} (h : p ∈ ofList fields) : p ∈ fields :=
  (mem_merge h).resolve_left List.not_mem_nil

theorem Distinct.filter (h : Distinct fields) (keep : Text × α → Bool) :
    Distinct (fields.filter keep) :=
  List.Nodup.sublist (List.filter_sublist.map _) h

/-- Keys stay distinct when only values change. -/
theorem Distinct.map (h : Distinct fields) {f : Text × α → Text × β} (hf : ∀ p, (f p).1 = p.1) :
    Distinct (fields.map f) := by
  rw [Distinct, List.map_map, show (·.1) ∘ f = (·.1) from funext hf]
  exact h

theorem get?_cons (field : Text × α) (fields : List (Text × α)) (key : Text) :
    get? (field :: fields) key = if key = field.1 then some field.2 else get? fields key := by
  rw [get?, get?, List.lookup_cons]
  by_cases hkey : key = field.1
  · rw [if_pos hkey, beq_iff_eq.mpr hkey]
  · rw [if_neg hkey, beq_false_of_ne hkey]

/-- Values are found where they were before they changed. -/
theorem get?_map (f : α → β) (fields : List (Text × α)) (key : Text) :
    get? (fields.map fun p => (p.1, f p.2)) key = (get? fields key).map f := by
  induction fields with
  | nil => rfl
  | cons field fields ih =>
    rw [List.map_cons, get?_cons, get?_cons, ih]
    split <;> rfl

/-- A field that is found is among the fields. -/
theorem mem_of_get? (h : get? fields key = some value) : (key, value) ∈ fields := by
  induction fields with
  | nil => exact nomatch h
  | cons field fields ih =>
    rw [get?_cons] at h
    by_cases hkey : key = field.1
    · rw [if_pos hkey, Option.some.injEq] at h
      rw [hkey, ← h]
      exact List.mem_cons_self
    · rw [if_neg hkey] at h
      exact List.mem_cons_of_mem field (ih h)

/-- Among distinct keys the only field with a key is found. -/
theorem Distinct.get?_eq_some (h : Distinct fields) (hmem : (key, value) ∈ fields) :
    get? fields key = some value := by
  induction fields with
  | nil => exact absurd hmem List.not_mem_nil
  | cons field fields ih =>
    rw [distinct_cons] at h
    rw [get?_cons]
    rcases List.mem_cons.mp hmem with rfl | hmem
    · exact if_pos rfl
    · rw [if_neg (h.1 _ hmem)]
      exact ih h.2 hmem

/-- What is not among the keys is not found. -/
theorem get?_eq_none (h : ∀ p ∈ fields, p.1 ≠ key) : get? fields key = none := by
  rcases hget : get? fields key with _ | value
  · rfl
  · exact absurd rfl (h _ (mem_of_get? hget))

/-- What is found after an insertion. -/
theorem get?_insert (key other : Text) (value : α) (fields : List (Text × α)) :
    get? (insert key value fields) other = if other = key then some value else get? fields other := by
  induction fields with
  | nil => rw [insert, get?_cons]
  | cons field fields ih =>
    obtain ⟨k, v⟩ := field
    by_cases hk : k = key
    · subst hk
      rw [insert, if_pos rfl, get?_cons, get?_cons]
      by_cases hother : other = k <;> simp [hother]
    · rw [insert, if_neg hk, get?_cons, get?_cons, ih]
      by_cases hother : other = k
      · simp [hother, hk]
      · simp [hother]

/-- What is found once the fields with a key have been left out. -/
theorem get?_filter_ne (key other : Text) (fields : List (Text × α)) :
    get? (fields.filter fun (k, _) => k != key) other =
      if other = key then none else get? fields other := by
  induction fields with
  | nil => simp [get?]
  | cons field fields ih =>
    obtain ⟨k, v⟩ := field
    by_cases hk : k = key
    · subst hk
      rw [List.filter_cons_of_neg (by simp), ih, get?_cons]
      by_cases hother : other = k <;> simp [hother]
    · rw [List.filter_cons_of_pos (by simp [hk]), get?_cons, get?_cons, ih]
      by_cases hother : other = k
      · simp [hother, hk]
      · simp [hother]

theorem has_iff : has fields key = true ↔ ∃ p ∈ fields, p.1 = key := by
  rw [has, List.any_eq_true]
  simp only [beq_iff_eq]

/-- A field with a new key goes behind the others. -/
theorem insert_of_not_has (h : has fields key = false) :
    insert key value fields = fields ++ [(key, value)] := by
  induction fields with
  | nil => rfl
  | cons field fields ih =>
    obtain ⟨k, v⟩ := field
    rw [has, List.any_cons, Bool.or_eq_false_iff, beq_eq_false_iff_ne] at h
    rw [insert, if_neg h.1, ih h.2, List.cons_append]

/-- A field whose key is there already takes the place of the one with this key. -/
theorem Distinct.insert_of_has (h : Distinct fields) (hkey : has fields key = true) :
    Fields.insert key value fields =
      fields.map fun p => if p.1 = key then (p.1, value) else p := by
  induction fields with
  | nil => exact nomatch hkey
  | cons field fields ih =>
    obtain ⟨k, v⟩ := field
    rw [distinct_cons] at h
    rw [Fields.insert, List.map_cons]
    by_cases hk : k = key
    · subst hk
      have hothers : (fields.map fun p => if p.1 = k then (p.1, value) else p) = fields :=
        (List.map_congr_left fun p hp => if_neg (h.1 p hp)).trans (List.map_id fields)
      rw [if_pos rfl, if_pos rfl, hothers]
    · rw [if_neg hk, if_neg hk, ih h.2]
      simpa [has, hk] using hkey

/-- Fields are merged by putting the values of the second list in place of those of the first one
with the same keys, and the fields with new keys behind. -/
theorem Distinct.merge_eq {first second : List (Text × α)} (hfirst : Distinct first)
    (hsecond : Distinct second) :
    Fields.merge first second =
      first.map (fun p => (p.1, (get? second p.1).getD p.2)) ++
        second.filter fun p => !has first p.1 := by
  induction second generalizing first with
  | nil => simp [Fields.merge, get?]
  | cons field second ih =>
    obtain ⟨key, value⟩ := field
    rw [distinct_cons] at hsecond
    obtain ⟨hnew, hsecond⟩ := hsecond
    have hnone : get? second key = none := get?_eq_none hnew
    have hmerge : Fields.merge first ((key, value) :: second) =
        Fields.merge (Fields.insert key value first) second := rfl
    rw [hmerge, ih (hfirst.insert key value) hsecond]
    -- The field is either put in place of one of the first list, or it is new.
    cases hkey : has first key with
    | true =>
      rw [hfirst.insert_of_has hkey, List.map_map, List.filter_cons_of_neg (by simp [hkey])]
      congr 1
      · apply List.map_congr_left
        intro p _
        by_cases hp : p.1 = key
        · simp [get?_cons, hp, hnone]
        · simp [get?_cons, hp]
      · apply List.filter_congr
        intro p _
        have hkeys (q : Text × α) : (if q.1 = key then (q.1, value) else q).1 = q.1 := by
          split <;> rfl
        simp [has, List.any_map, Function.comp_def, hkeys]
    | false =>
      rw [insert_of_not_has hkey, List.map_append, List.filter_cons_of_pos (by simp [hkey]),
        List.append_assoc]
      congr 1
      · apply List.map_congr_left
        intro p hp
        have hne : p.1 ≠ key := by
          intro heq
          rw [has_iff.mpr ⟨p, hp, heq⟩] at hkey
          exact nomatch hkey
        simp [get?_cons, hne]
      · have hothers : (second.filter fun p => !has (first ++ [(key, value)]) p.1) =
            second.filter fun p => !has first p.1 := by
          apply List.filter_congr
          intro p hp
          have hne : key ≠ p.1 := (hnew p hp).symm
          simp [has, List.any_append, hne]
        simp [hnone, hothers]

/-- Fields with distinct keys are kept as they are. -/
theorem Distinct.ofList_eq (h : Distinct fields) : ofList fields = fields := by
  have hmerge : ofList fields = Fields.merge [] fields := rfl
  rw [hmerge, distinct_nil.merge_eq h]
  exact List.filter_eq_self.mpr fun _ _ => rfl

/-- The keys after an insertion. -/
theorem has_insert {other : Text} :
    has (insert key value fields) other = true ↔ key = other ∨ has fields other = true := by
  induction fields with
  | nil => simp [insert, has]
  | cons field fields ih =>
    obtain ⟨k, v⟩ := field
    by_cases hk : k = key
    · simp [insert, has, hk]
    · have hrest : has ((k, v) :: insert key value fields) other = true ↔
          k = other ∨ has (insert key value fields) other = true := by simp [has]
      rw [insert, if_neg hk, hrest, ih]
      simp [has, or_left_comm]

/-- Of two values that are put in the same place the second one stays. -/
theorem insert_insert (key : Text) (old value : α) (fields : List (Text × α)) :
    insert key value (insert key old fields) = insert key value fields := by
  induction fields with
  | nil => simp [insert]
  | cons field fields ih =>
    obtain ⟨k, v⟩ := field
    by_cases hk : k = key
    · simp [insert, hk]
    · simp [insert, hk, ih]

/-- A value that has a place already may be put there before another one or behind it. -/
theorem insert_comm {other : Text} {otherValue : α} (hkey : has fields key = true)
    (hne : other ≠ key) :
    insert key value (insert other otherValue fields) =
      insert other otherValue (insert key value fields) := by
  induction fields with
  | nil => exact nomatch hkey
  | cons field fields ih =>
    obtain ⟨k, v⟩ := field
    by_cases hk : k = key
    · simp [insert, hk, hne.symm]
    · have hrest : has fields key = true := by simpa [has, hk] using hkey
      by_cases hother : k = other
      · simp [insert, hother, hne]
      · simp [insert, hk, hother, ih hrest]

section Merging

variable {first second : List (Text × α)}

/-- A value that has a place already may be put there before fields with other keys are merged or
behind them. -/
theorem insert_merge (hkey : has first key = true) (hsecond : ∀ p ∈ second, p.1 ≠ key) :
    insert key value (merge first second) = merge (insert key value first) second := by
  induction second generalizing first with
  | nil => rfl
  | cons field second ih =>
    rw [List.forall_mem_cons] at hsecond
    calc insert key value (merge first (field :: second))
        = insert key value (merge (insert field.1 field.2 first) second) := rfl
      _ = merge (insert key value (insert field.1 field.2 first)) second :=
        ih (has_insert.mpr (.inr hkey)) hsecond.2
      _ = merge (insert field.1 field.2 (insert key value first)) second := by
        rw [insert_comm hkey hsecond.1]

/-- What is put into the second list ends up in the same place of the merged one. -/
theorem Distinct.merge_insert (hsecond : Distinct second) (first : List (Text × α)) (key : Text)
    (value : α) :
    Fields.merge first (Fields.insert key value second) =
      Fields.insert key value (Fields.merge first second) := by
  induction second generalizing first with
  | nil => rfl
  | cons field second ih =>
    obtain ⟨k, v⟩ := field
    rw [distinct_cons] at hsecond
    have hmerge (w : α) (rest : List (Text × α)) :
        Fields.merge first ((k, w) :: rest) = Fields.merge (Fields.insert k w first) rest := rfl
    by_cases hk : k = key
    · -- The old value is put there first, and none of the fields behind has the key.
      subst hk
      rw [Fields.insert, if_pos rfl, hmerge, hmerge,
        insert_merge (has_insert.mpr (.inl rfl)) hsecond.1, insert_insert]
    · rw [Fields.insert, if_neg hk, hmerge, hmerge, ih hsecond.2]

/-- Fields may be merged in any grouping: the first place of a key and its last value count. -/
theorem Distinct.merge_assoc (hsecond : Distinct second) (first third : List (Text × α)) :
    Fields.merge (Fields.merge first second) third =
      Fields.merge first (Fields.merge second third) := by
  induction third generalizing second with
  | nil => rfl
  | cons field third ih =>
    calc Fields.merge (Fields.merge first second) (field :: third)
        = Fields.merge (Fields.insert field.1 field.2 (Fields.merge first second)) third := rfl
      _ = Fields.merge (Fields.merge first (Fields.insert field.1 field.2 second)) third := by
        rw [hsecond.merge_insert]
      _ = Fields.merge first (Fields.merge (Fields.insert field.1 field.2 second) third) :=
        ih (hsecond.insert field.1 field.2)

end Merging

end Conform.Fields
