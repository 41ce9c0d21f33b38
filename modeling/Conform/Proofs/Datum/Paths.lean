import Conform.Proofs.Datum.Entries

/-!
# Paths of any keys

What stands at the end of a path through mappings, whatever its keys are. Two data that have the
same at the ends of all paths, mappings aside, differ only in the order of their entries.

## Main definitions

- `Datum.follow?`, `Datum.HasMapping` — what a path leads to
- `Datum.eq_text_of_identity` — the only key that is the same as a text
- `Datum.Alike`, `Datum.alike_of_follow?` — data that are equal but for the order of entries
-/

namespace Conform.Datum

variable {entries : Entries} {d found : Datum} {start path : List Datum}

/-- Nothing but a text is the same key as it. -/
theorem eq_text_of_identity {t : Text} (h : d.identity = (text t).identity) : d = text t := by
  have hnumber (n : Number) : numberIdentity n ≠ (text t).identity := by
    cases n with
    | int n => exact fun h => nomatch (List.cons.inj h).1
    | float x =>
      cases x with
      | nan | infinite => exact fun h => nomatch (List.cons.inj h).1
      | finite =>
        rw [numberIdentity]
        split <;> exact fun h => nomatch (List.cons.inj h).1
  cases d with
  | scalar s =>
    cases s with
    | undefined | null => exact nomatch (List.cons.inj h).1
    | bool b => exact absurd h (hnumber (Scalar.ofBool b))
    | number n => exact absurd h (hnumber n)
    | text => exact congrArg text (same_text_iff.mp (same_iff.mpr h))
  | complex real imaginary =>
    have hcomplex : (complex real imaginary).identity =
        if imaginary.isZero then numberIdentity (.float real)
        else 14 :: numberIdentity (.float real) ++ numberIdentity (.float imaginary) := by
      rw [identity]
    rw [hcomplex] at h
    split at h
    · exact absurd h (hnumber _)
    · exact nomatch (List.cons.inj h).1
  | _ => exact nomatch (List.cons.inj h).1

/-- What stands at the end of a path of keys. -/
def follow? : Datum → (path : List Datum) → Option Datum
  | d, [] => some d
  | d, key :: path =>
    (d.entries?.bind fun entries => entries.get? key).bind fun found => found.follow? path

/-- Whether a path leads to a mapping. -/
def HasMapping (d : Datum) (path : List Datum) : Prop :=
  ∃ entries, d.follow? path = some (.mapping entries)

section Following

theorem follow?_cons (entries : Entries) (key : Datum) (path : List Datum) :
    (mapping entries).follow? (key :: path) =
      (entries.get? key).bind fun found => found.follow? path := rfl

theorem follow?_append (d : Datum) (start path : List Datum) :
    d.follow? (start ++ path) = (d.follow? start).bind fun found => found.follow? path := by
  induction start generalizing d with
  | nil => rfl
  | cons key start ih => simp only [List.cons_append, follow?, Option.bind_assoc, ih]

theorem follow?_of_entries?_eq_none (h : d.entries? = none) (hpath : path ≠ []) :
    d.follow? path = none := by
  cases path with
  | nil => exact absurd rfl hpath
  | cons key path =>
    rw [follow?, h]
    rfl

theorem follow?_empty (hpath : path ≠ []) : (mapping []).follow? path = none := by
  cases path with
  | nil => exact absurd rfl hpath
  | cons key path => rfl

theorem hasMapping_nil (entries : Entries) : (mapping entries).HasMapping [] := ⟨entries, rfl⟩

theorem not_hasMapping (h : d.entries? = none) (path : List Datum) : ¬d.HasMapping path := by
  rintro ⟨entries, hfound⟩
  cases path with
  | nil =>
    obtain rfl := Option.some.inj hfound
    exact nomatch h
  | cons key path =>
    rw [follow?_of_entries?_eq_none h (List.cons_ne_nil key path)] at hfound
    exact nomatch hfound

theorem hasMapping_cons_iff {key : Datum} : (mapping entries).HasMapping (key :: path) ↔
    ∃ found, entries.get? key = some found ∧ found.HasMapping path := by
  constructor
  · rintro ⟨nested, hnested⟩
    obtain ⟨found, hfound, hrest⟩ := Option.bind_eq_some_iff.mp hnested
    exact ⟨found, hfound, nested, hrest⟩
  · rintro ⟨found, hfound, nested, hrest⟩
    exact ⟨nested, Option.bind_eq_some_iff.mpr ⟨found, hfound, hrest⟩⟩

/-- On the way to something there are mappings only. -/
theorem hasMapping_of_follow? (h : d.follow? path = some found) (hstart : start <+: path)
    (hne : start ≠ path) : d.HasMapping start := by
  obtain ⟨rest, rfl⟩ := hstart
  have hrest : rest ≠ [] := fun hnil => hne (by rw [hnil, List.append_nil])
  rw [follow?_append] at h
  obtain ⟨way, hway, hfound⟩ := Option.bind_eq_some_iff.mp h
  cases hentries : way.entries? with
  | none => exact nomatch (follow?_of_entries?_eq_none hentries hrest).symm.trans hfound
  | some entries => exact ⟨entries, eq_mapping_of_entries? hentries ▸ hway⟩

end Following

section Likeness

/-- Whether two data are equal but for the order in which mappings have their entries, mappings
within mappings too. -/
inductive Alike : Datum → Datum → Prop
  | plain {d : Datum} (no_mapping : d.entries? = none) : Alike d d
  | mapping {entries others : Entries}
      (keys : ∀ key, (entries.get? key).isSome = (others.get? key).isSome)
      (data : ∀ key d other, entries.get? key = some d → others.get? key = some other →
        Alike d other) : Alike (.mapping entries) (.mapping others)

/-- Whether the same stands at two places, where it is enough that both have mappings. -/
inductive Level : Option Datum → Option Datum → Prop
  | same (found : Option Datum) : Level found found
  | mappings (entries others : Entries) : Level (some (.mapping entries)) (some (.mapping others))

theorem Level.isSome_eq {first second : Option Datum} (h : Level first second) :
    first.isSome = second.isSome := by
  cases h <;> rfl

/-- Induction through mappings: what holds of a datum if it holds of all that stands under its keys
holds of every datum. -/
theorem below_induction {P : Datum → Prop}
    (step : ∀ d, (∀ (entries : Entries) (key found : Datum), d = mapping entries →
      entries.get? key = some found → P found) → P d) (d : Datum) : P d :=
  step d fun entries key found hd hget =>
    have hsmaller : sizeOf found < sizeOf d := by
      obtain ⟨⟨k, found⟩, hp, -, rfl⟩ := Entries.mem_of_get? hget
      have hentry : sizeOf (k, found) < sizeOf entries := List.sizeOf_lt_of_mem hp
      simp only [hd, Prod.mk.sizeOf_spec, mapping.sizeOf_spec] at hentry ⊢
      omega
    below_induction step found
termination_by sizeOf d

/-- **Data that have the same at the ends of all paths are equal** but for the order of entries. -/
theorem alike_of_follow? {d other : Datum}
    (h : ∀ path, Level (d.follow? path) (other.follow? path)) : Alike d other := by
  induction d using below_induction generalizing other with
  | step d ih =>
    have hroot : Level (some d) (some other) := h []
    cases hd : d.entries? with
    | none =>
      cases hroot with
      | same => exact .plain hd
      | mappings => exact nomatch hd
    | some entries =>
      obtain rfl := eq_mapping_of_entries? hd
      obtain ⟨others, rfl⟩ : ∃ others : Entries, other = mapping others := by
        cases hroot with
        | same => exact ⟨entries, rfl⟩
        | mappings _ others => exact ⟨others, rfl⟩
      have hbelow (key : Datum) (path : List Datum) :
          Level ((entries.get? key).bind fun found => found.follow? path)
            ((others.get? key).bind fun found => found.follow? path) := h (key :: path)
      refine .mapping (fun key => ?keys) fun key d other hget hother => ?data
      case keys =>
        simpa only [follow?, Option.bind_fun_some] using (hbelow key []).isSome_eq
      case data =>
        refine ih entries key d rfl hget fun path => ?_
        have hpath := hbelow key path
        rwa [hget, hother] at hpath

end Likeness

end Conform.Datum
