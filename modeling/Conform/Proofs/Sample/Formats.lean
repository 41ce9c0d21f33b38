import Conform.Proofs.Pattern.Alphabets
import Conform.Proofs.Pattern.Completion
import Conform.Proofs.Sample.Addresses
import Conform.Proofs.Sample.Conformance
import Conform.Proofs.Schema.Dates

/-!
# Samples of formats

For each format there is a way to draw a text and a way to tell whether a text has it. The two are
written apart; here they are brought together, for everything that can be drawn.

## Main definitions

- `always_sampleFormat` — the formats that are given by patterns
- `StringRule.IsFormat` — the rules that are formats without options
- `Schema.sampleWith_format` — strings in a format are sampled well
-/

namespace Conform

open Drawing Regex

namespace TextFormat

variable {word w : Text} {n : Nat}

section Email

theorem spells_local_part (hne : word ≠ []) (hword : ∀ c ∈ word, c ∈ Alphabet.small) :
    (sequence [atLeast 0 (oneOfFolded (between 'A' 'Z' :: between '0' '9' :: listed "_'+-.")),
      oneOfFolded (between 'A' 'Z' :: between '0' '9' :: listed "_+-")]).Spells word := by
  have hsmall : ∀ c ∈ Alphabet.small,
      CharSet.covers ⟨false, .unicode, between 'A' 'Z' :: between '0' '9' :: listed "_+-"⟩ c =
        true := by decide +kernel
  have hlast := hsmall _ (hword _ (List.getLast_mem hne))
  refine ⟨word.dropLast, [word.getLast hne], (List.dropLast_append_getLast hne).symm, ?_,
    _, rfl, CharSet.has_of_covers hlast⟩
  exact spells_word (by decide +kernel) (fun c hc => hword c (List.dropLast_subset word hc))
    (Nat.zero_le _) fun m hm => absurd hm (Option.not_mem_none m)

theorem accepts_email (hne : word ≠ []) (hword : ∀ c ∈ word, c ∈ Alphabet.small) :
    email.accepts (word ++ "@example.com") = true := by
  refine (wholeText_isSome_iff_completes (by decide) _).mpr ?_
  have hdomain : (sequence [char '@', atLeast 1 (sequence [
      oneOfFolded [between 'A' 'Z', between '0' '9'],
      atLeast 0 (oneOfFolded (between 'A' 'Z' :: between '0' '9' :: listed "-")), char '.']),
      atLeast 2 (oneOfFolded [between 'A' 'Z'])]).Spells "@example.com" :=
    (spells_iff_matchAt? (by decide) (by decide) (by decide)).mpr (by decide +kernel)
  have hpoint : '.'.toNat ∉ word := fun h => absurd (hword _ h) (by decide)
  have hwhole : Completes _ [] (word ++ Text.ofString "@example.com") :=
    completes_of_spells (by decide)
      (spells_sequence_append.mpr ⟨word, _, rfl, spells_local_part hne hword, hdomain⟩)
  refine .ahead_not (by decide) ?_ (.ahead_not (by decide) ?_ hwhole)
  · intro u hu hspells
    obtain rfl := spells_char.mp hspells
    obtain ⟨c, word, rfl⟩ := List.exists_cons_of_ne_nil hne
    obtain ⟨rfl, -⟩ := List.cons_prefix_cons.mp hu
    exact hpoint List.mem_cons_self
  · intro u hu hspells
    -- The only point of the whole text is in the domain.
    have hcount : (word ++ Text.ofString "@example.com").count '.'.toNat = 1 := by
      rw [List.count_append, List.count_eq_zero_of_not_mem hpoint]
      decide
    obtain ⟨v, x, rfl, -, y, z, rfl, hy, hz⟩ := hspells
    obtain rfl := spells_char.mp hy
    obtain rfl := spells_char.mp hz
    have hle := hu.sublist.count_le '.'.toNat
    rw [hcount, List.count_append] at hle
    have htwo : (['.'.toNat] ++ ['.'.toNat]).count '.'.toNat = 2 := rfl
    omega

end Email

section Uuid

variable {c : CodePoint} {rs : List Regex} {before v : Text}

theorem hexDigit_spec (h : (Text.hexValue? c).isSome = true) :
    (Atom.set ⟨false, .exact, hexDigits⟩).has c = true ∧
      ClassName.word.has .unicode c = true := by
  have hall : ∀ c < 128, (Text.hexValue? c).isSome = true →
      (Atom.set ⟨false, .exact, hexDigits⟩).has c = true ∧
        ClassName.word.has .unicode c = true := by decide +kernel
  refine hall c (Nat.lt_of_not_le fun hle => ?_) h
  rw [Number.hexValue?_eq_none hle] at h
  exact Bool.noConfusion h

/-- A group of hexadecimal digits in front of a hyphen, with a word boundary between them. -/
theorem completes_group (hlength : w.length = n + 1)
    (hw : ∀ c ∈ w, (Text.hexValue? c).isSome = true)
    (h : Completes rs ('-'.toNat :: (w.reverse ++ before)) v) :
    Completes (times (n + 1) (oneOf hexDigits) :: wordBoundary :: char '-' :: rs) before
      (w ++ '-'.toNat :: v) := by
  have hgroup : (times (n + 1) (oneOf hexDigits)).Spells w :=
    spells_times_unit.mpr ⟨hlength, fun c hc => (hexDigit_spec (hw c hc)).1⟩
  have hmark : Completes (char '-' :: rs) (w.reverse ++ before) ('-'.toNat :: v) :=
    Completes.cons (u := ['-'.toNat]) rfl (spells_char.mpr rfl) h
  refine Completes.cons rfl hgroup (.anchor ?_ hmark)
  obtain ⟨c, rest, hrest⟩ := List.exists_cons_of_length_eq_add_one
    ((List.length_reverse).trans hlength)
  have hword := (hexDigit_spec (hw c (List.mem_reverse.mp (hrest ▸ List.mem_cons_self)))).2
  have hhyphen : ClassName.word.has .unicode 45 = false := by decide +kernel
  simp [Place.holds, Place.atBoundary, hrest, hword, hhyphen]

theorem accepts_uuid (random : Nat) : uuid.accepts (uuidText random) = true := by
  have hpart (shift width : Nat) : (random >>> shift) % (1 <<< width) < 1 <<< width :=
    Nat.mod_lt _ (by rw [Nat.one_shiftLeft]; exact Nat.two_pow_pos width)
  have hhex {width n : Nat} : ∀ c ∈ Text.hex width n, (Text.hexValue? c).isSome = true :=
    fun c hc => Text.hexValue?_of_mem_hex hc
  refine (wholeText_isSome_iff_completes (by decide) _).mpr ?_
  simp only [uuidText, List.append_assoc]
  refine completes_group (Text.length_hex (by decide) (hpart 96 32)) hhex ?_
  refine completes_group (Text.length_hex (by decide) (hpart 80 16)) hhex ?_
  have hthird : (Text.hex 3 ((random >>> 64) % (1 <<< 12))).length = 3 :=
    Text.length_hex (by decide) (hpart 64 12)
  have hfourth : 0x8000 + (random >>> 48) % (1 <<< 14) < 16 ^ 4 :=
    Nat.add_lt_add_left (hpart 48 14) 0x8000 |>.trans (by decide)
  refine completes_group (w := '4'.toNat :: Text.hex 3 _) (congrArg (· + 1) hthird) ?_ ?_
  · exact List.forall_mem_cons.mpr ⟨by decide, hhex⟩
  refine completes_group (Text.length_hex (by decide) hfourth) hhex ?_
  exact completes_of_spells (by decide) (spells_times_unit.mpr
    ⟨Text.length_hex (by decide) (hpart 0 48), fun c hc => (hexDigit_spec (hhex c hc)).1⟩)

end Uuid

section Base64

theorem spells_base64Digits {a b c : Nat} (ha : a < 256) (hb : b < 256) (hc : c < 256) :
    (times 4 (oneOf (between '0' '9' :: between 'a' 'z' :: between 'A' 'Z' ::
      listed "+/"))).Spells (base64Digits a b c) := by
  have hdigit : ∀ d < 64, (Alphabet.base64[d]?).getD 0 ∈ Alphabet.base64 := by decide +kernel
  refine spells_word (show ∀ c ∈ Alphabet.base64, _ by decide +kernel) ?_ le_rfl
    fun m hm => (Option.some.inj hm).le
  simp only [base64Digits, List.forall_mem_map, List.forall_mem_cons]
  refine ⟨hdigit _ ?_, hdigit _ ?_, hdigit _ ?_, hdigit _ ?_, List.forall_mem_nil _⟩ <;> omega

theorem accepts_base64 {bytes : List Nat} (h : ∀ b ∈ bytes, b < 256) :
    base64.accepts (base64Text bytes) = true := by
  have hgroups : (atLeast 0 (times 4 (oneOf (between '0' '9' :: between 'a' 'z' ::
      between 'A' 'Z' :: listed "+/")))).Spells (base64Text bytes) := by
    fun_induction base64Text bytes with
    | case1 a b c rest ih =>
      simp only [List.forall_mem_cons] at h
      exact spells_atLeast_append (spells_base64Digits h.1 h.2.1 h.2.2.1) (ih h.2.2.2)
    | case2 => exact spells_rounds_nil _ _ _
  refine wholeText_isSome_of_spells (by decide) (by decide) ?_
  exact ⟨base64Text bytes, [], (List.append_nil _).symm, hgroups, spells_rounds_nil _ _ _⟩

end Base64

theorem accepts_cuid (hlength : w.length = 24) (hw : ∀ c ∈ w, c ∈ Alphabet.smallAndDigits) :
    cuid.accepts ('c'.toNat :: w) = true := by
  have hletters : ∀ c ∈ Alphabet.smallAndDigits, (Atom.set ⟨true, .unicode,
      [.named .blank false .unicode, .one '-'.toNat]⟩).has c = true := by decide +kernel
  refine wholeText_isSome_of_spells (by decide) (by decide) ?_
  refine ⟨['c'.toNat], w, rfl, ⟨_, rfl, by decide +kernel⟩, ?_⟩
  exact spells_rounds_unit.mpr ⟨⟨by omega, fun m hm => absurd hm (Option.not_mem_none m)⟩,
    fun c hc => hletters c (hw c hc)⟩

theorem accepts_date {d : Date} (h : d.InCalendar) (hyear : d.year ≤ 9999) :
    date.accepts d.iso = true :=
  (accepts_date_iff fun _ hc => Date.mem_iso hc).mpr ⟨d, h, hyear, rfl⟩

theorem accepts_duration (hpos : 1 ≤ n) (hle : n ≤ 30) :
    duration.accepts ("P" ++ Text.ofNat n ++ "D") = true := by
  have hall : ∀ n < 31, 1 ≤ n → duration.accepts ("P" ++ Text.ofNat n ++ "D") = true := by
    decide +kernel
  exact hall n (Nat.lt_succ_of_le hle) hpos

end TextFormat

section Draws

variable {S : Type} {word : Text}

theorem always_sampleDate :
    Always (sampleDate : Sampling S Date) fun d => d.InCalendar ∧ d.year ≤ 9999 := by
  have hfirst : firstSampleDay.InCalendar := by unfold Date.InCalendar; decide
  refine (always_natBetween (by decide)).map fun days hdays => ?_
  obtain ⟨hcalendar, hyear⟩ := hfirst.addDays days
  exact ⟨hcalendar, hyear.trans (Nat.add_le_add_left hdays.2 2020 |>.trans (by decide))⟩

/-- A text that is drawn for a format with a pattern has the format. -/
theorem always_sampleFormat (format : TextFormat) (hne : word ≠ [])
    (hword : ∀ c ∈ word, c ∈ Alphabet.small) :
    Always (sampleFormat word format : Sampling S Text) fun t => format.accepts t = true := by
  cases format with
  | email => exact always_pure (TextFormat.accepts_email hne hword)
  | uuid => exact (always_bits 128).map fun random _ => TextFormat.accepts_uuid random
  | cuid =>
    refine (always_sampleWord_mem (by decide) 24).map fun w hw => ?_
    exact TextFormat.accepts_cuid hw.1 hw.2
  | cuid2 =>
    refine (always_sampleWord_mem (by decide) 24).mono fun w hw => ?_
    exact wholeText_word (by decide +kernel) hw.2 (by omega) fun m hm =>
      absurd hm (Option.not_mem_none m)
  | ulid =>
    refine (always_sampleWord_mem (by decide) 26).mono fun w hw => ?_
    exact wholeText_word (by decide +kernel) hw.2 hw.1.ge fun m hm => Option.some.inj hm ▸ hw.1.le
  | nanoid =>
    refine (always_sampleWord_mem (by decide) 21).mono fun w hw => ?_
    exact wholeText_word (by decide +kernel) hw.2 hw.1.ge fun m hm => Option.some.inj hm ▸ hw.1.le
  | emoji =>
    have hall : ∀ c ∈ Alphabet.emoji, TextFormat.emoji.accepts [c] = true := by decide +kernel
    exact (always_sampleLetter Alphabet.emoji).map fun c hc => hall c (hc (by decide))
  | base64 =>
    exact ((always_bits 8).times 9).map fun bytes hbytes => TextFormat.accepts_base64 hbytes.2
  | date => exact always_sampleDate.map fun d hd => TextFormat.accepts_date hd.1 hd.2
  | duration =>
    exact (always_natBetween (by decide)).map fun n hn => TextFormat.accepts_duration hn.1 hn.2

end Draws

/-- The rules that are formats of texts, points of time apart. -/
inductive StringRule.IsFormat : StringRule → Prop
  | format (format : TextFormat) : IsFormat (.format format)
  | url : IsFormat .url
  | ip (version : Option IpVersion) : IsFormat (.ip version)

section Rules

variable {S : Type} {rule : StringRule} {o : SampleOptions} {P : Text → Prop}

theorem StringRule.IsFormat.add_eq (h : rule.IsFormat)
    (plan : TextPlan) : (plan.add rule : Sampling S TextPlan) =
      if plan.whole.isSome then return plan else do
        return { plan with whole := ← sampleRule rule } := by
  cases h with
  | format | url | ip => rfl

/-- A text that is drawn for a format has the format. -/
theorem StringRule.IsFormat.always_sampleRule (h : rule.IsFormat) :
    Always (sampleRule rule : Sampling S (Option Text)) fun whole => ∃ t ∈ whole, rule.Holds t := by
  refine (always_sampleWord_mem (by decide) 8).bind fun word hword => ?_
  have hne : word ≠ [] := List.ne_nil_of_length_eq_add_one hword.1
  cases h with
  | format format =>
    exact (always_sampleFormat format hne hword.2).map fun t ht => ⟨t, rfl, ht⟩
  | url => exact always_pure ⟨_, rfl, Internet.isUrl_sample hword.2⟩
  | ip version =>
    have hfour : Always (do
        let a ← natBetween 0 255
        let b ← natBetween 1 254
        return some ("192.168." ++ Text.ofNat a ++ "." ++ Text.ofNat b) :
          Sampling S (Option Text)) fun whole => ∃ t ∈ whole, Internet.isV4 t = true :=
      (always_natBetween (by decide)).bind fun a ha => (always_natBetween (by decide)).map
        fun b hb => ⟨_, rfl, Internet.isV4_sample ha.2 (hb.2.trans (by decide))⟩
    cases version with
    | none => exact hfour.mono fun whole ⟨t, ht, hv4⟩ => ⟨t, ht, Bool.or_eq_true_iff.mpr (.inl hv4)⟩
    | some version =>
      cases version with
      | v4 => exact hfour
      | v6 =>
        refine (always_natBetween (by decide)).map fun n hn => ⟨_, rfl, ?_⟩
        obtain ⟨hsix, hnotFour⟩ := Internet.isV6_sample (Nat.lt_succ_of_le hn.2)
        exact Bool.and_eq_true_iff.mpr ⟨Bool.not_eq_true' _ |>.mpr hnotFour, hsix⟩

/-- A text for a single rule about the whole of it is the one that is drawn for the rule. -/
theorem always_sampleText_whole (message : Option Text)
    (hadd : ∀ plan : TextPlan, (plan.add rule : Sampling S TextPlan) =
      if plan.whole.isSome then return plan else do return { plan with whole := ← sampleRule rule })
    (h : Always (sampleRule rule : Sampling S (Option Text)) fun whole => ∃ t ∈ whole, P t) :
    Always (sampleText o [⟨rule, message⟩] : Sampling S Text) P := by
  have hplan : Always (TextPlan.add {} rule : Sampling S TextPlan)
      fun plan => ∃ t ∈ plan.whole, P t := by
    rw [hadd, if_neg (by decide)]
    exact h.map fun whole hwhole => hwhole
  have hplans : Always (TextPlan.addAll [⟨rule, message⟩] {} : Sampling S TextPlan)
      fun plan => ∃ t ∈ plan.whole, P t := hplan.bind fun plan hwhole => always_pure hwhole
  refine hplans.bind fun plan hwhole => ?_
  obtain ⟨t, ht, hP⟩ := hwhole
  rw [Option.mem_def.mp ht]
  exact always_pure hP

/-- **Formats are sampled well**: every sample of a string whose only check is a format has the
format, whatever is drawn, so the samples are a success. -/
theorem Schema.sampleWith_format (description message : Option Text) (h : rule.IsFormat)
    (o : SampleOptions) (draws : Draws S) (state : S) (policy : Option Policy) :
    ∃ texts : List Text, texts.length = o.count ∧ (∀ t ∈ texts, rule.Holds t) ∧
      (Schema.mk description (.string [⟨rule, message⟩])).sampleWith draws state o
          (policy.map Policy.name) =
        .ok (.ofValues (.mk description (.string [⟨rule, message⟩])) (policy.map Policy.name)
          (texts.map fun t => .text t)) ∧
      (SampleResult.ofValues (.mk description (.string [⟨rule, message⟩]))
        (policy.map Policy.name) (texts.map fun t => .text t)).success = true := by
  have hsample : Always (sampleText o [⟨rule, message⟩] : Sampling S Text) rule.Holds :=
    always_sampleText_whole message h.add_eq h.always_sampleRule
  obtain ⟨texts, hcount, htexts, hrun, hsuccess⟩ :=
    sampleWith_string hsample description draws state policy
  exact ⟨texts, hcount, htexts, hrun, hsuccess.mpr fun t ht => ⟨htexts t ht, trivial⟩⟩

end Rules

/-- An address of version six, and the least draws. -/
theorem Schema.sampleWith_format_address :
    (StringRule.ip (some .v6)).IsFormat ∧
      ∃ texts : List Text, texts.length = SampleOptions.standard.count ∧
        (∀ t ∈ texts, (StringRule.ip (some .v6)).Holds t) ∧
        (Schema.mk none (.string [⟨.ip (some .v6), none⟩])).sampleWith Draws.least () .standard
            (some Policy.strict.name) =
          .ok (.ofValues (.mk none (.string [⟨.ip (some .v6), none⟩])) (some Policy.strict.name)
            (texts.map fun t => .text t)) ∧
        (SampleResult.ofValues (.mk none (.string [⟨.ip (some .v6), none⟩]))
          (some Policy.strict.name) (texts.map fun t => .text t)).success = true :=
  ⟨.ip _, sampleWith_format none none (.ip _) .standard Draws.least () (some .strict)⟩

end Conform
