import Conform.Config.Basic
import Conform.Proofs.Datum.Entries
import Conform.Proofs.Failing

/-!
# Reading configurations option by option

What an option of a configuration becomes depends only on what stands at its place among the
entries. A section that is no mapping has nothing at any place, and an option that has nothing there
is left at its standard.

## Main definitions

- `Config.Reads`, `Config.ofEntries_eq_ok_iff` — entries are read option by option
- `Config.LooksAt` — what is read depends only on what stands under a key
- `Config.Key`, `Config.get` — what can be configured, with its place in the layout
- `Config.Reads.get_congr` — what stands at the place of an option decides the option
- `Config.Reads.exists_of_places` — places that can be read give a configuration
-/

namespace Conform.Config

/-- The entries of the mapping at the end of a path; there are none if no mapping is there. -/
def below (d : Datum) (path : List Text) : Entries := (entriesOf? (d.at? path)).getD []

section Reading

variable {d : Datum} {entries : Entries} {key : Text}

theorem at?_singleton (entries : Entries) (key : Text) :
    (Datum.mapping entries).at? [key] = entries.at? key := Option.bind_fun_some _

theorem at?_below (d : Datum) (path : List Text) (key : Text) :
    (below d path).at? key = d.at? (path ++ [key]) := by
  rw [below, Datum.at?_append]
  cases d.at? path with
  | none => rfl
  | some found =>
    show (found.entries?.getD []).at? key = found.at? [key]
    cases hentries : found.entries? with
    | none => rw [Datum.at?_cons_of_entries?_eq_none hentries]; rfl
    | some entries => rw [Datum.eq_mapping_of_entries? hentries, at?_singleton]; rfl

theorem below_cases (d : Datum) (path : List Text) :
    below d path = [] ∨ d.at? path = some (.mapping (below d path)) := by
  rw [below]
  cases d.at? path with
  | none => exact .inl rfl
  | some found =>
    show found.entries?.getD [] = [] ∨ some found = some (.mapping (found.entries?.getD []))
    cases hentries : found.entries? with
    | none => exact .inl rfl
    | some entries => exact .inr (congrArg some (Datum.eq_mapping_of_entries? hentries))

theorem below_of_at? {path : List Text} (h : d.at? path = some (.mapping entries)) :
    below d path = entries := by
  rw [below, h]
  rfl

/-! What is read from no entries. -/

theorem at?_nil (key : Text) : Entries.at? [] key = none := rfl

theorem textOption_nil (key standard : Text) : textOption [] key standard = .ok standard := rfl

theorem boolOption_nil (key : Text) (standard : Bool) : boolOption [] key standard = standard := rfl

theorem doubleOption_nil (key : Text) (standard : Double) :
    doubleOption [] key standard = .ok standard := rfl

/-- The text under a key, if it is not empty. -/
def pathOption (entries : Entries) (key : Text) : Except ConfigFault (Option Text) :=
  match entries.at? key with
  | some d => if d.truthy then some <$> textOf d else .ok none
  | none => .ok none

theorem exportPathOption_eq (value : Option Datum) :
    exportPathOption value = pathOption ((entriesOf? value).getD []) "export_path" := by
  unfold exportPathOption pathOption
  cases entriesOf? value with
  | none => rfl
  | some entries => rfl

/-- The policy that a name stands for. -/
def policyNamed (name : Text) : Except ConfigFault Policy :=
  match Policy.ofName? name with
  | some policy => .ok policy
  | none => .error (.unknownPolicy name)

theorem policyOption_eq (value : Option Datum) :
    policyOption value =
      textOption ((entriesOf? value).getD []) "unknown_keys" Policy.strip.name >>= policyNamed := by
  unfold policyOption
  cases entriesOf? value with
  | none => rfl
  | some entries => rfl

/-! What a section gives depends only on its entries; a section that is no mapping has none. -/

theorem declarationOptions_eq_ok_iff {value : Option Datum} {o : DeclarationOptions} :
    declarationOptions value = .ok o ↔
      boolOption ((entriesOf? value).getD []) "enabled" ({} : DeclarationOptions).enabled =
        o.enabled ∧
      textOption ((entriesOf? value).getD []) "url_template"
        ({} : DeclarationOptions).urlTemplate = .ok o.urlTemplate ∧
      doubleOption ((entriesOf? value).getD []) "timeout" ({} : DeclarationOptions).timeout =
        .ok o.timeout := by
  unfold declarationOptions
  simp only [bind_eq_ok]
  constructor
  · rintro ⟨template, htemplate, timeout, htimeout, ⟨⟩⟩
    exact ⟨rfl, htemplate, htimeout⟩
  · rintro ⟨henabled, htemplate, htimeout⟩
    exact ⟨_, htemplate, _, htimeout, by rw [henabled]; rfl⟩

theorem resolverOptions_eq_ok_iff {value : Option Datum} {o : ResolverOptions} :
    resolverOptions value = .ok o ↔
      textOption ((entriesOf? value).getD []) "default_version" Version.standard.name =
        .ok o.defaultVersion ∧
      declarationOptions (((entriesOf? value).getD []).at? "declarations") =
        .ok o.declarations := by
  unfold resolverOptions
  cases entriesOf? value with
  | none =>
    have hstandard : declarationOptions none = .ok {} :=
      declarationOptions_eq_ok_iff.mpr ⟨boolOption_nil _ _, textOption_nil _ _,
        doubleOption_nil _ _⟩
    simp only [Option.getD_none, at?_nil, textOption_nil, hstandard, Except.ok.injEq]
    constructor
    · rintro ⟨⟩
      exact ⟨rfl, rfl⟩
    · rintro ⟨hversion, hdeclarations⟩
      rw [hversion, hdeclarations]
      rfl
  | some entries =>
    simp only [bind_eq_ok]
    constructor
    · rintro ⟨version, hversion, declarations, hdeclarations, ⟨⟩⟩
      exact ⟨hversion, hdeclarations⟩
    · rintro ⟨hversion, hdeclarations⟩
      exact ⟨_, hversion, _, hdeclarations, rfl⟩

theorem requestOptions_eq_ok_iff {value : Option Datum} {o : RequestOptions} :
    requestOptions value = .ok o ↔
      doubleOption ((entriesOf? value).getD []) "timeout" ({} : RequestOptions).timeout =
        .ok o.timeout ∧
      boolOption ((entriesOf? value).getD []) "follow_redirects"
        ({} : RequestOptions).followRedirects = o.followRedirects ∧
      ∃ headers, headersOf
          ((entriesOf? (((entriesOf? value).getD []).at? "default_headers")).getD []) =
          .ok headers ∧
        Fields.ofList headers = o.defaultHeaders := by
  unfold requestOptions
  cases entriesOf? value with
  | none =>
    simp -proj only [Option.getD_none, at?_nil, doubleOption_nil, boolOption_nil, entriesOf?,
      Option.bind_none, headersOf, Except.ok.injEq]
    constructor
    · intro h
      obtain rfl := Except.ok.inj h
      exact ⟨rfl, rfl, [], rfl, rfl⟩
    · obtain ⟨timeout, follow, headers⟩ := o
      rintro ⟨rfl, rfl, _, rfl, rfl⟩
      -- Both sides hold the standard timeout, which is not to be computed.
      simp only [pure, Except.pure, Fields.ofList, List.foldl_nil]
  | some entries =>
    simp only [bind_eq_ok]
    constructor
    · rintro ⟨timeout, htimeout, headers, hheaders, ⟨⟩⟩
      exact ⟨htimeout, rfl, headers, hheaders, rfl⟩
    · obtain ⟨timeout, follow, headers⟩ := o
      rintro ⟨htimeout, rfl, headers, hheaders, rfl⟩
      exact ⟨_, htimeout, _, hheaders, rfl⟩

end Reading

/-- A configuration is read from a datum option by option. -/
structure Reads (d : Datum) (c : Config) : Prop where
  defaultVersion : textOption (below d ["resolver"]) "default_version" Version.standard.name =
    .ok c.resolver.defaultVersion
  enabled : boolOption (below d ["resolver", "declarations"]) "enabled"
    ({} : DeclarationOptions).enabled = c.resolver.declarations.enabled
  urlTemplate : textOption (below d ["resolver", "declarations"]) "url_template"
    ({} : DeclarationOptions).urlTemplate = .ok c.resolver.declarations.urlTemplate
  fetchTimeout : doubleOption (below d ["resolver", "declarations"]) "timeout"
    ({} : DeclarationOptions).timeout = .ok c.resolver.declarations.timeout
  timeout : doubleOption (below d ["request"]) "timeout" ({} : RequestOptions).timeout =
    .ok c.request.timeout
  followRedirects : boolOption (below d ["request"]) "follow_redirects"
    ({} : RequestOptions).followRedirects = c.request.followRedirects
  defaultHeaders : ∃ headers, headersOf (below d ["request", "default_headers"]) = .ok headers ∧
    Fields.ofList headers = c.request.defaultHeaders
  unknownKeys : (textOption (below d ["validator"]) "unknown_keys" Policy.strip.name >>=
    policyNamed) = .ok c.unknownKeys
  exportPath : pathOption (below d ["telemetry"]) "export_path" = .ok c.exportPath

/-- Entries give a configuration exactly if each option reads from its place among them. -/
theorem ofEntries_eq_ok_iff {entries : Entries} {c : Config} :
    ofEntries entries = .ok c ↔ Reads (.mapping entries) c := by
  have hsection (key : Text) :
      (entriesOf? (entries.at? key)).getD [] = below (.mapping entries) [key] := by
    rw [below, at?_singleton]
  have hwithin (path : List Text) (key : Text) :
      (entriesOf? ((below (.mapping entries) path).at? key)).getD [] =
        below (.mapping entries) (path ++ [key]) := by
    rw [at?_below, below]
  -- The standards stay as they are written, so that they are compared and not computed.
  simp -proj only [ofEntries, bind_eq_ok, resolverOptions_eq_ok_iff, declarationOptions_eq_ok_iff,
    requestOptions_eq_ok_iff, policyOption_eq, exportPathOption_eq, hsection, hwithin]
  constructor
  · rintro ⟨resolver, ⟨hversion, henabled, htemplate, hfetch⟩, request,
      ⟨htimeout, hfollow, hheaders⟩, policy, hpolicy, path, hpath, ⟨⟩⟩
    exact ⟨hversion, henabled, htemplate, hfetch, htimeout, hfollow, hheaders,
      bind_eq_ok.mpr hpolicy, hpath⟩
  · intro h
    exact ⟨_, ⟨h.defaultVersion, h.enabled, h.urlTemplate, h.fetchTimeout⟩,
      _, ⟨h.timeout, h.followRedirects, h.defaultHeaders⟩, _, bind_eq_ok.mp h.unknownKeys,
      _, h.exportPath, rfl⟩

section Headers

variable {fields : List (Text × Datum)} {headers : List (Text × Text)}

theorem textOf_text (t : Text) : textOf (.text t) = .ok t := rfl

theorem headersOf_cons_eq_ok_iff {field : Text × Datum} :
    headersOf (Entries.ofFields (field :: fields)) = .ok headers ↔
      ∃ t rest, textOf field.2 = .ok t ∧ headersOf (Entries.ofFields fields) = .ok rest ∧
        headers = (field.1, t) :: rest := by
  show headersOf ((.text field.1, field.2) :: Entries.ofFields fields) = .ok headers ↔ _
  rw [headersOf, textOf_text]
  constructor
  · intro h
    obtain ⟨_, hname, h⟩ := bind_eq_ok.mp h
    obtain ⟨t, ht, h⟩ := bind_eq_ok.mp h
    obtain ⟨rest, hrest, h⟩ := bind_eq_ok.mp h
    obtain rfl := Except.ok.inj hname
    exact ⟨t, rest, ht, hrest, (Except.ok.inj h).symm⟩
  · rintro ⟨t, rest, ht, hrest, rfl⟩
    rw [ht, hrest]
    rfl

/-- Headers are read if each of them is. -/
theorem exists_headersOf (h : ∀ field ∈ fields, ∃ t, textOf field.2 = .ok t) :
    ∃ headers, headersOf (Entries.ofFields fields) = .ok headers := by
  induction fields with
  | nil => exact ⟨[], rfl⟩
  | cons field fields ih =>
    obtain ⟨⟨t, ht⟩, hfields⟩ := List.forall_mem_cons.mp h
    obtain ⟨rest, hrest⟩ := ih hfields
    exact ⟨_, headersOf_cons_eq_ok_iff.mpr ⟨t, rest, ht, hrest, rfl⟩⟩

/-- The names of headers stay as they are. -/
theorem map_headersOf (h : headersOf (Entries.ofFields fields) = .ok headers) :
    headers.map (·.1) = fields.map (·.1) := by
  induction fields generalizing headers with
  | nil =>
    obtain rfl := Except.ok.inj h
    rfl
  | cons field fields ih =>
    obtain ⟨t, rest, -, hrest, rfl⟩ := headersOf_cons_eq_ok_iff.mp h
    rw [List.map_cons, List.map_cons, ih hrest]

/-- The header with a name, as a text. -/
def headerOption (found : Option Datum) : Except ConfigFault (Option Text) :=
  match found with
  | some d => some <$> textOf d
  | none => .ok none

/-- A header is read from what stands under its name. -/
theorem headerOption_eq (h : headersOf (Entries.ofFields fields) = .ok headers) (name : Text) :
    headerOption ((Entries.ofFields fields).at? name) = .ok (Fields.get? headers name) := by
  rw [Entries.at?_ofFields]
  induction fields generalizing headers with
  | nil =>
    obtain rfl := Except.ok.inj h
    rfl
  | cons field fields ih =>
    obtain ⟨t, rest, ht, hrest, rfl⟩ := headersOf_cons_eq_ok_iff.mp h
    rw [Fields.get?_cons, Fields.get?_cons]
    by_cases hname : name = field.1
    · rw [if_pos hname, if_pos hname, headerOption, ht]
      rfl
    · rw [if_neg hname, if_neg hname, ih hrest]

end Headers

/-- No key occurs twice, and headers are named by texts. -/
structure Regular (d : Datum) : Prop where
  keyed : d.WellKeyed
  names : (below d ["request", "default_headers"]).TextKeyed

/-- What can be configured, each header on its own. -/
inductive Key
  | defaultVersion
  | enabled
  | urlTemplate
  | fetchTimeout
  | timeout
  | followRedirects
  | unknownKeys
  | exportPath
  | header (name : Text)

/-- Where something stands in the layout. -/
def Key.path : Key → List Text
  | .defaultVersion => ["resolver", "default_version"]
  | .enabled => ["resolver", "declarations", "enabled"]
  | .urlTemplate => ["resolver", "declarations", "url_template"]
  | .fetchTimeout => ["resolver", "declarations", "timeout"]
  | .timeout => ["request", "timeout"]
  | .followRedirects => ["request", "follow_redirects"]
  | .unknownKeys => ["validator", "unknown_keys"]
  | .exportPath => ["telemetry", "export_path"]
  | .header name => ["request", "default_headers", name]

/-- What is configured, as a datum. -/
def get (c : Config) : Key → Option Datum
  | .defaultVersion => some (.text c.resolver.defaultVersion)
  | .enabled => some (.bool c.resolver.declarations.enabled)
  | .urlTemplate => some (.text c.resolver.declarations.urlTemplate)
  | .fetchTimeout => some (.float c.resolver.declarations.timeout)
  | .timeout => some (.float c.request.timeout)
  | .followRedirects => some (.bool c.request.followRedirects)
  | .unknownKeys => some (.text c.unknownKeys.name)
  | .exportPath => some ((c.exportPath.map Datum.text).getD .null)
  | .header name => (Fields.get? c.request.defaultHeaders name).map Datum.text

theorem entries?_of_get {c : Config} {key : Key} {d : Datum} (h : c.get key = some d) :
    d.entries? = none := by
  cases key with
  | exportPath =>
    obtain rfl := Option.some.inj h
    cases c.exportPath <;> rfl
  | header name =>
    obtain ⟨t, -, rfl⟩ := Option.map_eq_some_iff.mp h
    rfl
  | _ =>
    obtain rfl := Option.some.inj h
    rfl

/-- What is read from entries depends only on what stands under a key. -/
def LooksAt {α : Type} (read : Entries → α) (key : Text) : Prop :=
  ∀ entries others : Entries, entries.at? key = others.at? key → read entries = read others

section Looking

variable {α : Type} {d d' : Datum} {path : List Text} {key : Text}

theorem looksAt_text (key standard : Text) : LooksAt (textOption · key standard) key :=
  fun entries others h => by simp only [textOption, h]

theorem looksAt_bool (key : Text) (standard : Bool) : LooksAt (boolOption · key standard) key :=
  fun entries others h => by simp only [boolOption, h]

theorem looksAt_double (key : Text) (standard : Double) :
    LooksAt (doubleOption · key standard) key :=
  fun entries others h => by simp only [doubleOption, h]

theorem looksAt_path (key : Text) : LooksAt (pathOption · key) key :=
  fun entries others h => by simp only [pathOption, h]

theorem looksAt_policy (key standard : Text) :
    LooksAt (fun entries => textOption entries key standard >>= policyNamed) key :=
  fun entries others h => congrArg (· >>= policyNamed) (looksAt_text key standard entries others h)

/-- Where two data have the same at the place of an option, the same is read from them. -/
theorem LooksAt.congr {read : Entries → α} (h : LooksAt read key)
    (hat : d.at? (path ++ [key]) = d'.at? (path ++ [key])) :
    read (below d path) = read (below d' path) :=
  h _ _ ((at?_below d path key).trans (hat.trans (at?_below d' path key).symm))

/-- Where there is nothing at the place of an option, it is read as if there were no entries. -/
theorem LooksAt.exists_ok {read : Entries → Except ConfigFault α} {a : α} (h : LooksAt read key)
    (hempty : ∃ standard, read [] = .ok standard) (h' : read (below d' path) = .ok a)
    (hplace : d.at? (path ++ [key]) = d'.at? (path ++ [key]) ∨ d.at? (path ++ [key]) = none) :
    ∃ a, read (below d path) = .ok a := by
  rcases hplace with hsame | hnone
  · exact ⟨a, (h.congr hsame).trans h'⟩
  · obtain ⟨standard, hstandard⟩ := hempty
    exact ⟨standard, (h _ [] ((at?_below d path key).trans hnone)).trans hstandard⟩

end Looking

section Places

variable {d d' : Datum} {c c' : Config}

theorem Regular.exists_fields (h : Regular d) :
    ∃ fields, below d ["request", "default_headers"] = Entries.ofFields fields ∧
      Fields.Distinct fields := by
  obtain ⟨fields, hfields⟩ := Entries.textKeyed_iff.mp h.names
  refine ⟨fields, hfields, Entries.distinct_ofFields.mp ?_⟩
  rw [← hfields]
  rcases below_cases d ["request", "default_headers"] with hnone | hat
  · rw [hnone]
    exact List.Pairwise.nil
  · exact (Datum.wellKeyed_mapping_iff.mp (h.keyed.at? hat)).1

theorem Regular.updated {entries updates : Entries} (h : Regular (.mapping entries))
    (hupdates : Regular (.mapping updates)) : Regular (.mapping (entries.update updates)) := by
  rw [← Datum.updated_mapping]
  refine ⟨hupdates.keyed.updated fun d hd => Option.some.inj hd ▸ h.keyed, fun p hp => ?_⟩
  rcases below_cases (Datum.updated (some (.mapping entries)) (.mapping updates))
    ["request", "default_headers"] with hnone | hat
  · rw [hnone] at hp
    exact absurd hp List.not_mem_nil
  · obtain ⟨headers, hheaders | hheaders, q, hq, hqp⟩ :=
      Datum.key_mem_at?_updated hupdates.keyed hat hp
    · exact hqp ▸ h.names q (below_of_at? hheaders ▸ hq)
    · exact hqp ▸ hupdates.names q (below_of_at? hheaders ▸ hq)

theorem at?_header (d : Datum) (name : Text) :
    d.at? (Key.header name).path = (below d ["request", "default_headers"]).at? name :=
  (at?_below d ["request", "default_headers"] name).symm

/-- A header is read from its own place. -/
theorem Reads.header (h : Reads d c) (hd : Regular d) (name : Text) :
    headerOption (d.at? (Key.header name).path) =
      .ok (Fields.get? c.request.defaultHeaders name) := by
  obtain ⟨fields, hfields, hdistinct⟩ := hd.exists_fields
  obtain ⟨headers, hheaders, hlist⟩ := h.defaultHeaders
  rw [hfields] at hheaders
  have hnames : Fields.Distinct headers := by
    rw [Fields.Distinct, map_headersOf hheaders]
    exact hdistinct
  rw [at?_header, hfields, headerOption_eq hheaders, ← hlist, hnames.ofList_eq]

/-- **What stands at the place of an option decides the option.** -/
theorem Reads.get_congr (h : Reads d c) (h' : Reads d' c') (hd : Regular d) (hd' : Regular d')
    {key : Key} (hat : d.at? key.path = d'.at? key.path) : c.get key = c'.get key := by
  cases key with
  | defaultVersion =>
    have heq := h.defaultVersion.symm.trans (((looksAt_text _ _).congr hat).trans h'.defaultVersion)
    exact congrArg (fun t => some (Datum.text t)) (Except.ok.inj heq)
  | enabled =>
    have heq := h.enabled.symm.trans (((looksAt_bool _ _).congr hat).trans h'.enabled)
    exact congrArg (fun b => some (Datum.bool b)) heq
  | urlTemplate =>
    have heq := h.urlTemplate.symm.trans (((looksAt_text _ _).congr hat).trans h'.urlTemplate)
    exact congrArg (fun t => some (Datum.text t)) (Except.ok.inj heq)
  | fetchTimeout =>
    have heq := h.fetchTimeout.symm.trans (((looksAt_double _ _).congr hat).trans h'.fetchTimeout)
    exact congrArg (fun x => some (Datum.float x)) (Except.ok.inj heq)
  | timeout =>
    have heq := h.timeout.symm.trans (((looksAt_double _ _).congr hat).trans h'.timeout)
    exact congrArg (fun x => some (Datum.float x)) (Except.ok.inj heq)
  | followRedirects =>
    have heq := h.followRedirects.symm.trans (((looksAt_bool _ _).congr hat).trans h'.followRedirects)
    exact congrArg (fun b => some (Datum.bool b)) heq
  | unknownKeys =>
    have heq := h.unknownKeys.symm.trans
      (((looksAt_policy _ _).congr hat).trans h'.unknownKeys)
    exact congrArg (fun policy => some (Datum.text policy.name)) (Except.ok.inj heq)
  | exportPath =>
    have heq := h.exportPath.symm.trans (((looksAt_path _).congr hat).trans h'.exportPath)
    exact congrArg (fun t => some ((t.map Datum.text).getD Datum.null)) (Except.ok.inj heq)
  | header name =>
    have heq := h'.header hd' name
    rw [← hat, h.header hd name] at heq
    exact congrArg (Option.map Datum.text) (Except.ok.inj heq)

/-- A configuration is read wherever each place has the same as one that a configuration is read
from, or nothing. -/
theorem Reads.exists_of_places (h' : Reads d' c') (hd : Regular d) (hd' : Regular d')
    (hplaces : ∀ key : Key, d.at? key.path = d'.at? key.path ∨ d.at? key.path = none) :
    ∃ c, Reads d c := by
  have hheaders : ∃ headers, headersOf (below d ["request", "default_headers"]) = .ok headers := by
    obtain ⟨fields, hfields, hdistinct⟩ := hd.exists_fields
    rw [hfields]
    refine exists_headersOf fun field hfield => ?_
    have hfound : d.at? (Key.header field.1).path = some field.2 := by
      rw [at?_header, hfields, Entries.at?_ofFields, hdistinct.get?_eq_some hfield]
    have hsame := (hplaces (.header field.1)).resolve_right (hfound ▸ Option.some_ne_none _)
    have hread := h'.header hd' field.1
    rw [← hsame, hfound] at hread
    obtain ⟨t, ht, -⟩ := bind_eq_ok.mp hread
    exact ⟨t, ht⟩
  obtain ⟨version, hversion⟩ :=
    (looksAt_text _ _).exists_ok ⟨_, rfl⟩ h'.defaultVersion (hplaces .defaultVersion)
  obtain ⟨template, htemplate⟩ :=
    (looksAt_text _ _).exists_ok ⟨_, rfl⟩ h'.urlTemplate (hplaces .urlTemplate)
  obtain ⟨fetch, hfetch⟩ :=
    (looksAt_double _ _).exists_ok ⟨_, rfl⟩ h'.fetchTimeout (hplaces .fetchTimeout)
  obtain ⟨timeout, htimeout⟩ :=
    (looksAt_double _ _).exists_ok ⟨_, rfl⟩ h'.timeout (hplaces .timeout)
  obtain ⟨headers, hheaders⟩ := hheaders
  obtain ⟨policy, hpolicy⟩ :=
    (looksAt_policy _ _).exists_ok ⟨.strip, by decide⟩ h'.unknownKeys (hplaces .unknownKeys)
  obtain ⟨path, hpath⟩ :=
    (looksAt_path _).exists_ok ⟨_, rfl⟩ h'.exportPath (hplaces .exportPath)
  exact ⟨⟨⟨version, _, template, fetch⟩, ⟨timeout, _, _⟩, policy, path⟩, hversion, rfl, htemplate,
    hfetch, htimeout, rfl, ⟨headers, hheaders, rfl⟩, hpolicy, hpath⟩

end Places

end Conform.Config
