import Conform.Proofs.Config.Reading
import Conform.Proofs.Number.Layout

/-!
# Merging configurations

The layout of a configuration that was read has each option at its place, in a form that reads back.
So overrides that are merged into it change only the options they decide about, and make them what
they would be from the overrides alone.

## Main definitions

- `Config.Sound`, `Config.Reads.sound` — what holds of every configuration that was read
- `Config.at?_toEntries`, `Config.Sound.reads` — the layout has each option, and reads back
- `Config.merge_self`, `Config.merge_get` — what overrides change
-/

namespace Conform

section Written

theorem Text.ofInt_ne_nil (n : Int) : Text.ofInt n ≠ [] := by
  cases n with
  | ofNat n => exact Text.ofNat_ne_nil n
  | negSucc n => exact List.cons_ne_nil _ _

theorem Double.text_ne_nil (d : Double) : d.text ≠ [] := by
  have hdigits (x : Double.Digits) : x.text ≠ [] := by
    rw [Double.Digits.text]
    split
    · split
      · exact List.append_ne_nil_of_left_ne_nil (by decide) _
      · exact List.append_ne_nil_of_left_ne_nil
          (List.append_ne_nil_of_right_ne_nil _ (by decide)) _
    · exact List.append_ne_nil_of_right_ne_nil _ (Decimal.padded_spec _ _).2.1
  cases d with
  | nan => decide
  | infinite negative => cases negative <;> decide
  | finite negative place =>
    rw [text]
    split
    · exact List.append_ne_nil_of_right_ne_nil _ (by decide)
    · exact List.append_ne_nil_of_right_ne_nil _ (hdigits _)

/-- What counts as true is not written as an empty text. -/
theorem Datum.bare_ne_nil {d : Datum} (h : d.truthy = true) : d.bare ≠ [] := by
  cases d with
  | scalar s =>
    cases s with
    | undefined | null => exact nomatch h
    | bool b => cases b <;> decide
    | number n =>
      cases n with
      | int n => exact Text.ofInt_ne_nil n
      | float d => exact d.text_ne_nil
    | text t =>
      rintro rfl
      exact nomatch h
  | ellipsis => decide
  | complex real imaginary =>
    show complexText real imaginary ≠ []
    rw [complexText]
    split
    · exact List.append_ne_nil_of_right_ne_nil _ (by decide)
    · exact List.append_ne_nil_of_right_ne_nil _ (by decide)
  | bytes octets | list items | mapping entries => exact List.cons_ne_nil _ _
  | date d => exact List.append_ne_nil_of_right_ne_nil _ (Decimal.padded_spec _ _).2.1
  | row items =>
    show rowText (shownItems items) ≠ []
    unfold rowText
    split <;> exact List.append_ne_nil_of_right_ne_nil _ (by decide)
  | set items =>
    show setText (shownItems items) ≠ []
    unfold setText
    split
    · decide
    · exact List.append_ne_nil_of_right_ne_nil _ (by decide)

end Written

namespace Config

/-- What holds of a configuration that was read: what an empty text would leave at its standard is
not empty, and no two headers share a name. -/
structure Sound (c : Config) : Prop where
  defaultVersion : c.resolver.defaultVersion ≠ []
  urlTemplate : c.resolver.declarations.urlTemplate ≠ []
  exportPath : c.exportPath ≠ some []
  defaultHeaders : Fields.Distinct c.request.defaultHeaders

section Layout

variable {c : Config} {d : Datum} {entries : Entries} {path : List Text} {key : Text}

theorem textOf_ne_nil {t : Text} (hd : d.truthy = true) (h : textOf d = .ok t) : t ≠ [] := by
  rw [textOf, Datum.asText?] at h
  split at h
  · rename_i hshown
    split at hshown
    · exact nomatch hshown
    · rw [← Except.ok.inj h, ← Option.some.inj hshown]
      exact Datum.bare_ne_nil hd
  · exact nomatch h

theorem textOption_ne_nil {standard t : Text} (hstandard : standard ≠ [])
    (h : textOption entries key standard = .ok t) : t ≠ [] := by
  rw [textOption] at h
  split at h
  · split at h
    · exact textOf_ne_nil ‹_› h
    · exact Except.ok.inj h ▸ hstandard
  · exact Except.ok.inj h ▸ hstandard

theorem pathOption_ne_nil {t : Option Text} (h : pathOption entries key = .ok t) : t ≠ some [] := by
  rw [pathOption] at h
  split at h
  · split at h
    · obtain ⟨t, ht, h⟩ := bind_eq_ok.mp h
      obtain rfl := Except.ok.inj h
      exact fun heq => textOf_ne_nil ‹_› ht (Option.some.inj heq)
    · exact Except.ok.inj h ▸ (Option.some_ne_none _).symm
  · exact Except.ok.inj h ▸ (Option.some_ne_none _).symm

theorem Reads.sound (h : Reads d c) : Sound c where
  defaultVersion := textOption_ne_nil (by decide) h.defaultVersion
  urlTemplate := textOption_ne_nil (by decide) h.urlTemplate
  exportPath := pathOption_ne_nil h.exportPath
  defaultHeaders := by
    obtain ⟨headers, -, hlist⟩ := h.defaultHeaders
    exact hlist ▸ Fields.distinct_ofList headers

theorem below_toEntries_headers (c : Config) :
    below (.mapping c.toEntries) ["request", "default_headers"] =
      Entries.ofFields (c.request.defaultHeaders.map fun p => (p.1, .text p.2)) := by
  rw [Entries.ofFields, List.map_map]
  rfl

/-- **The layout has each option at its place.** -/
theorem at?_toEntries (c : Config) (key : Key) :
    (Datum.mapping c.toEntries).at? key.path = c.get key := by
  cases key with
  | header name =>
    rw [at?_header, below_toEntries_headers, Entries.at?_ofFields, Fields.get?_map]
    rfl
  | _ => rfl

theorem textOption_of_text {standard t : Text} (ht : t ≠ [])
    (h : d.at? (path ++ [key]) = some (.text t)) :
    textOption (below d path) key standard = .ok t := by
  rw [textOption, at?_below, h]
  cases t with
  | nil => exact absurd rfl ht
  | cons => rfl

theorem boolOption_of_bool {standard b : Bool}
    (h : d.at? (path ++ [key]) = some (.bool b)) :
    boolOption (below d path) key standard = b := by
  rw [boolOption, at?_below, h]
  cases b <;> rfl

theorem doubleOption_of_float {standard x : Double}
    (h : d.at? (path ++ [key]) = some (.float x)) :
    doubleOption (below d path) key standard = .ok x := by
  rw [doubleOption, at?_below, h]
  rfl

theorem pathOption_of_getD {t : Option Text} (ht : t ≠ some [])
    (h : d.at? (path ++ [key]) = some ((t.map Datum.text).getD .null)) :
    pathOption (below d path) key = .ok t := by
  rw [pathOption, at?_below, h]
  cases t with
  | none => rfl
  | some t =>
    cases t with
    | nil => exact absurd rfl ht
    | cons c t => rfl

theorem headersOf_texts (headers : List (Text × Text)) :
    headersOf (Entries.ofFields (headers.map fun p => (p.1, .text p.2))) = .ok headers := by
  induction headers with
  | nil => rfl
  | cons header headers ih =>
    exact headersOf_cons_eq_ok_iff.mpr ⟨header.2, headers, textOf_text _, ih, rfl⟩

/-- **The layout reads back**, option by option. -/
theorem Sound.reads (h : Sound c) : Reads (.mapping c.toEntries) c where
  defaultVersion := textOption_of_text h.defaultVersion (at?_toEntries c .defaultVersion)
  enabled := boolOption_of_bool (at?_toEntries c .enabled)
  urlTemplate := textOption_of_text h.urlTemplate (at?_toEntries c .urlTemplate)
  fetchTimeout := doubleOption_of_float (at?_toEntries c .fetchTimeout)
  timeout := doubleOption_of_float (at?_toEntries c .timeout)
  followRedirects := boolOption_of_bool (at?_toEntries c .followRedirects)
  defaultHeaders := by
    rw [below_toEntries_headers]
    exact ⟨_, headersOf_texts _, h.defaultHeaders.ofList_eq⟩
  unknownKeys := by
    have hname : c.unknownKeys.name ≠ [] := by cases c.unknownKeys <;> decide
    rw [textOption_of_text hname (at?_toEntries c .unknownKeys)]
    cases c.unknownKeys <;> rfl
  exportPath := pathOption_of_getD h.exportPath (at?_toEntries c .exportPath)

theorem Sound.wellKeyed (h : Sound c) : (Datum.mapping c.toEntries).WellKeyed := by
  have hscalar (s : Scalar) : (Datum.scalar s).WellKeyed := .plain rfl
  have hheaders : (Datum.mapping (c.request.defaultHeaders.map fun p =>
      (.text p.1, .text p.2))).WellKeyed := by
    refine .mapping ?_ fun p hp => ?_
    · exact List.pairwise_map.mpr ((List.pairwise_map.mp h.defaultHeaders).imp fun hne heq =>
        hne (Datum.same_text_iff.mp (Datum.same_iff.mpr heq)))
    · obtain ⟨q, -, rfl⟩ := List.mem_map.mp hp
      exact hscalar _
  have hexport : ((c.exportPath.map Datum.text).getD .null).WellKeyed := by
    cases c.exportPath <;> exact hscalar _
  refine Datum.wellKeyed_named ["resolver", "request", "validator", "telemetry"] rfl (by decide) ?_
  simp only [List.forall_mem_cons]
  refine ⟨?resolver, ?request, ?validator, ?telemetry, fun _ h => absurd h List.not_mem_nil⟩
  case resolver =>
    refine Datum.wellKeyed_named ["default_version", "declarations"] rfl (by decide) ?_
    simp only [List.forall_mem_cons]
    refine ⟨hscalar _, Datum.wellKeyed_named ["enabled", "url_template", "timeout"] rfl (by decide)
      ?_, fun _ h => absurd h List.not_mem_nil⟩
    simp only [List.forall_mem_cons]
    exact ⟨hscalar _, hscalar _, hscalar _, fun _ h => absurd h List.not_mem_nil⟩
  case request =>
    refine Datum.wellKeyed_named ["timeout", "follow_redirects", "default_headers"] rfl (by decide)
      ?_
    simp only [List.forall_mem_cons]
    exact ⟨hscalar _, hscalar _, hheaders, fun _ h => absurd h List.not_mem_nil⟩
  case validator =>
    exact Datum.wellKeyed_named ["unknown_keys"] rfl (by decide)
      (List.forall_mem_singleton.mpr (hscalar _))
  case telemetry =>
    exact Datum.wellKeyed_named ["export_path"] rfl (by decide)
      (List.forall_mem_singleton.mpr hexport)

theorem Sound.regular (h : Sound c) : Regular (.mapping c.toEntries) :=
  ⟨h.wellKeyed, Entries.textKeyed_iff.mpr ⟨_, below_toEntries_headers c⟩⟩

end Layout

section Merging

variable {c : Config} {e : Entries}

/-- The layout of a configuration that was read gives the configuration. -/
theorem ofEntries_toEntries (h : ofEntries e = .ok c) : ofEntries c.toEntries = .ok c :=
  ofEntries_eq_ok_iff.mpr (ofEntries_eq_ok_iff.mp h).sound.reads

/-- Merging is reading the layout with the overrides, even if there are none. -/
theorem merge_eq (h : ofEntries e = .ok c) (u : Entries) :
    c.merge u = ofEntries (c.toEntries.update u) := by
  cases u with
  | nil =>
    rw [Entries.update, ofEntries_toEntries h]
    rfl
  | cons p u => rfl

/-- **Merging a configuration with itself changes nothing.** -/
theorem merge_self (h : ofEntries e = .ok c) : c.merge c.toEntries = .ok c := by
  have hself := (ofEntries_eq_ok_iff.mp h).sound.wellKeyed.updated_self
  rw [Datum.updated_mapping] at hself
  rw [merge_eq h, Datum.mapping.inj hself, ofEntries_toEntries h]

/-- **Merging changes only what the overrides decide about**, and makes it what they alone would
make it. -/
theorem merge_get (h : ofEntries e = .ok c) :
    ofEntries c.toEntries = .ok c ∧ c.merge c.toEntries = .ok c ∧
      ∀ u m, Regular (.mapping u) → c.merge u = .ok m →
        ∃ alone, ofEntries u = .ok alone ∧ ∀ key : Key,
          (Datum.mapping c.toEntries).at? key.path = c.get key ∧
          (¬(Datum.mapping u).Settles key.path → m.get key = c.get key) ∧
          ((Datum.mapping u).Settles key.path → m.get key = alone.get key) := by
  have hc := (ofEntries_eq_ok_iff.mp h).sound
  refine ⟨ofEntries_toEntries h, merge_self h, fun u m hu hm => ?_⟩
  rw [merge_eq h] at hm
  have hread := ofEntries_eq_ok_iff.mp hm
  have hregular := hc.regular.updated hu
  have hkept (key : Key) (hkey : ¬(Datum.mapping u).Settles key.path) :
      (Datum.mapping (c.toEntries.update u)).at? key.path =
        (Datum.mapping c.toEntries).at? key.path := by
    rw [← Datum.updated_mapping]
    exact Datum.at?_updated_of_not_settles hu.keyed hkey
  have hset (key : Key) (hkey : (Datum.mapping u).Settles key.path) :
      (Datum.mapping (c.toEntries.update u)).at? key.path = (Datum.mapping u).at? key.path := by
    rw [← Datum.updated_mapping]
    refine Datum.at?_updated_of_settles hu.keyed hkey fun d hd => ?_
    rw [at?_toEntries] at hd
    exact entries?_of_get hd
  -- The overrides alone have at each place what the merged layout has there, or nothing.
  obtain ⟨alone, halone⟩ := hread.exists_of_places hu hregular fun key => by
    by_cases hkey : (Datum.mapping u).Settles key.path
    · exact .inl (hset key hkey).symm
    · exact .inr (Datum.at?_eq_none_of_not_settles hkey)
  refine ⟨alone, ofEntries_eq_ok_iff.mpr halone, fun key => ⟨at?_toEntries c key, ?_, ?_⟩⟩
  · exact fun hkey => hread.get_congr hc.reads hregular hc.regular (hkept key hkey)
  · exact fun hkey => hread.get_congr halone hregular hu (hset key hkey)

/-- A header that is added leaves the others as they are, and a section that is no mapping sets its
options back to their standards. -/
theorem merge_get_header :
    let e := Entries.named [
      ("resolver", Datum.named [("default_version", .text "3.20.0")]),
      ("request", Datum.named [
        ("timeout", .int 3), ("default_headers", Datum.named [("accept", .text "text/html")])])]
    let c : Config :=
      ⟨⟨"3.20.0", {}⟩, ⟨Double.nearestInt 3, true, [("accept", "text/html")]⟩, .strip, none⟩
    let u := Entries.named [
      ("resolver", .null),
      ("request", Datum.named [("default_headers", Datum.named [("from", .int 7)])])]
    let m : Config :=
      ⟨{}, ⟨Double.nearestInt 3, true, [("accept", "text/html"), ("from", "7")]⟩, .strip, none⟩
    ofEntries e = .ok c ∧ Regular (.mapping u) ∧ c.merge u = .ok m ∧
      m.get .timeout = c.get .timeout ∧ m.get (.header "accept") = c.get (.header "accept") ∧
      ∃ alone, ofEntries u = .ok alone ∧
        m.get (.header "from") = alone.get (.header "from") ∧
        m.get .defaultVersion = alone.get .defaultVersion := by
  intro e c u m
  have hc : ofEntries e = .ok c := by decide +kernel
  have hm : c.merge u = .ok m := by decide +kernel
  have hu : Regular (.mapping u) := by
    have hrequest : (Datum.named [("default_headers",
        Datum.named [("from", .int 7)])]).WellKeyed :=
      Datum.wellKeyed_named ["default_headers"] rfl (by decide) (List.forall_mem_singleton.mpr
        (Datum.wellKeyed_named ["from"] rfl (by decide)
          (List.forall_mem_singleton.mpr (.plain rfl))))
    refine ⟨Datum.wellKeyed_named ["resolver", "request"] rfl (by decide)
      (List.forall_mem_cons.mpr ⟨.plain rfl, List.forall_mem_singleton.mpr hrequest⟩), ?_⟩
    exact List.forall_mem_singleton.mpr ⟨_, rfl⟩
  obtain ⟨-, -, hmerge⟩ := merge_get hc
  obtain ⟨alone, halone, hkeys⟩ := hmerge u m hu hm
  exact ⟨hc, hu, hm, (hkeys .timeout).2.1 (by decide +kernel),
    (hkeys (.header "accept")).2.1 (by decide +kernel), alone, halone,
    (hkeys (.header "from")).2.2 (by decide +kernel),
    (hkeys .defaultVersion).2.2 (by decide +kernel)⟩

end Merging

end Config

end Conform
