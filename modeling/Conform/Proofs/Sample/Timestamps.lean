import Conform.Proofs.Sample.Formats
import Conform.Proofs.Schema.Formats
import Conform.Schema.Building

/-!
# Samples of points of time

A point of time is sampled by trying: behind a fixed beginning stand fractions of no to nine zeros
and a few ends, and the first text that is accepted is taken. So a precision of up to nine digits is
met, and none beyond.

## Main definitions

- `Fraction.digits?`, `StringRule.precision?` — how many digits are asked for
- `firstAccepted_accepts_iff` — a search finds what there is
- `Fraction.exists_tried_iff` — the precisions that are tried
- `Schema.sampleWith_timestamp` — when points of time are sampled well
-/

namespace Conform

open Drawing Regex

/-- The number of digits of a fraction, if it is fixed. -/
def Fraction.digits? : Fraction → Option Nat
  | .optional => none
  | .absent => some 0
  | .digits n => some n

/-- The number of digits behind the seconds that a rule asks for. -/
def StringRule.precision? : StringRule → Option Nat
  | .datetime form => form.fraction.digits?
  | .time fraction => fraction.digits?
  | _ => none

/-- The pattern of points of time up to the fraction of the second. -/
def TimestampForm.untilFraction : List Regex :=
  [times 4 digit, char '-', times 2 digit, char '-', times 2 digit] ++
    [char 'T', times 2 digit, char ':', times 2 digit, char ':', times 2 digit]

/-- The pattern of times of day up to the fraction of the second. -/
def Fraction.untilFraction : List Regex := [
  .alt (sequence [oneOf (listed "01"), digit]) (sequence [char '2', oneOf [between '0' '3']]),
  char ':', oneOf [between '0' '5'], digit, char ':', oneOf [between '0' '5'], digit]

section Search

variable {accepts : Text → Bool} {base : Text} {tails : List Text}

/-- A search finds an accepted text if there is one among those that are tried. -/
theorem firstAccepted_accepts_iff (hne : tails ≠ []) :
    accepts (firstAccepted accepts base tails) = true ↔
      ∃ tail ∈ tails, ∃ f ∈ triedFractions, accepts (base ++ (f ++ tail)) = true := by
  obtain ⟨first, others, rfl⟩ := List.exists_cons_of_ne_nil hne
  have hmem (t : Text) : t ∈ ((first :: others).flatMap fun tail =>
      triedFractions.map fun f => base ++ f ++ tail) ↔
        ∃ tail ∈ first :: others, ∃ f ∈ triedFractions, base ++ (f ++ tail) = t := by
    simp only [List.mem_flatMap, List.mem_map, List.append_assoc]
  constructor
  · intro h
    rw [firstAccepted] at h
    cases hfind : ((first :: others).flatMap fun tail =>
        triedFractions.map fun f => base ++ f ++ tail).find? accepts with
    | some t =>
      obtain ⟨tail, htail, f, hf, rfl⟩ := (hmem t).mp (List.mem_of_find?_eq_some hfind)
      exact ⟨tail, htail, f, hf, List.find?_some hfind⟩
    | none =>
      -- What is taken then has been tried as well.
      rw [hfind] at h
      exact ⟨first, List.mem_cons_self, [], List.mem_cons_self, h⟩
  · rintro ⟨tail, htail, f, hf, haccepts⟩
    rw [firstAccepted]
    cases hfind : ((first :: others).flatMap fun tail =>
        triedFractions.map fun f => base ++ f ++ tail).find? accepts with
    | some t => exact List.find?_some hfind
    | none =>
      have hnone := List.find?_eq_none.mp hfind _ ((hmem _).mpr ⟨tail, htail, f, hf, rfl⟩)
      exact absurd haccepts hnone

end Search

section Patterns

variable {fraction : Fraction} {rs ss : List Regex} {accepts : Text → Bool} {base : Text}
  {tails : List Text}

theorem Fraction.isRegular_regex (fraction : Fraction) : fraction.regex.isRegular = true := by
  cases fraction <;> rfl

theorem TimestampForm.isRegular_zoneRegex (form : TimestampForm) :
    form.zoneRegex.isRegular = true := by
  have heach (offset isLocal : Bool) :
      (TimestampForm.zoneRegex ⟨.absent, offset, isLocal⟩).isRegular = true := by
    cases offset <;> cases isLocal <;> rfl
  exact heach form.offset form.isLocal

/-- The letter for the time without an offset ends points of time of every form. -/
theorem TimestampForm.spells_zone (form : TimestampForm) : form.zoneRegex.Spells "Z" := by
  have heach (offset isLocal : Bool) :
      (TimestampForm.zoneRegex ⟨.absent, offset, isLocal⟩).Spells "Z" := by
    refine (spells_iff_matchAt? ?_ (isRegular_zoneRegex _) (by decide)).mpr ?_
    · cases offset <;> cases isLocal <;> decide
    · cases offset <;> cases isLocal <;> decide +kernel
  exact heach form.offset form.isLocal

theorem digit_has (c : CodePoint) :
    Atom.has (.set ⟨false, .exact, [.named .digit false .unicode]⟩) c = Text.isDecimal c := by
  simp [Atom.has, CharSet.has, SetItem.has, ClassName.has, Folding.key]

/-- A fraction of so many digits at the beginning of a text. -/
theorem Fraction.length_le_of_spells {n : Nat} {t : Text}
    (h : (sequence ((Fraction.digits n).regex :: ss)).Spells t) :
    n ≤ ((t.drop 1).takeWhile Text.isDecimal).length := by
  obtain ⟨u, v, rfl, ⟨mark, w, rfl, hmark, hw⟩, -⟩ := spells_sequence_cons.mp h
  obtain rfl := spells_char.mp hmark
  obtain ⟨rfl, hdigits⟩ := spells_times_unit.mp hw
  have hdecimal : ∀ c ∈ w, Text.isDecimal c = true := fun c hc => digit_has c ▸ hdigits c hc
  show w.length ≤ ((w ++ v).takeWhile Text.isDecimal).length
  rw [List.takeWhile_append_of_pos hdecimal, List.length_append]
  exact Nat.le_add_right _ _

/-- A tried fraction with as many digits as are asked for, if these are at most nine. -/
theorem Fraction.exists_tried (hpos : fraction ≠ .digits 0)
    (h : ∀ n ∈ fraction.digits?, n ≤ 9) :
    ∃ f ∈ triedFractions, fraction.regex.Spells f := by
  cases fraction with
  | optional => exact ⟨[], List.mem_cons_self, spells_rounds_nil _ _ _⟩
  | absent => exact ⟨[], List.mem_cons_self, rfl⟩
  | digits n =>
    obtain ⟨k, rfl⟩ := Nat.exists_eq_succ_of_ne_zero fun hn => hpos (congrArg Fraction.digits hn)
    have hk : k < 9 := h _ rfl
    have hzero : Text.isDecimal '0'.toNat = true := by decide +kernel
    refine ⟨'.'.toNat :: List.replicate (k + 1) '0'.toNat, List.mem_cons_of_mem _
      (List.mem_map.mpr ⟨k, List.mem_range.mpr hk, rfl⟩), _, _, rfl, spells_char.mpr rfl,
      spells_times_unit.mpr ⟨List.length_replicate, fun c hc => ?_⟩⟩
    rw [digit_has, List.eq_of_mem_replicate hc, hzero]

/-- With the right end there is an accepted text among those that are tried exactly if at most nine
digits are asked for. -/
theorem Fraction.exists_tried_iff (hpos : fraction ≠ .digits 0) (htails : tails ⊆ triedZones)
    (htail : ∃ tail ∈ tails, (sequence ss).Spells tail) :
    (∃ tail ∈ tails, ∃ f ∈ triedFractions,
      (sequence (fraction.regex :: ss)).Spells (f ++ tail)) ↔
        ∀ n ∈ fraction.digits?, n ≤ 9 := by
  constructor
  · rintro ⟨tail, htail, f, hf, hspells⟩ n hn
    cases fraction with
    | optional => exact absurd hn (Option.not_mem_none n)
    | absent => exact (Option.some.inj hn).ge.trans (Nat.zero_le 9)
    | digits k =>
      obtain rfl := Option.some.inj hn
      -- None of the ends begins with a digit, so all digits are those of the fraction.
      have hstop : ∀ tail ∈ triedZones, ∀ f ∈ triedFractions,
          (((f ++ tail).drop 1).takeWhile Text.isDecimal).length ≤ 9 := by decide +kernel
      exact (length_le_of_spells hspells).trans (hstop tail (htails htail) f hf)
  · intro h
    obtain ⟨tail, htail, hspells⟩ := htail
    obtain ⟨f, hf, hfraction⟩ := exists_tried hpos h
    exact ⟨tail, htail, f, hf, spells_sequence_cons.mpr ⟨f, tail, rfl, hfraction, hspells⟩⟩

/-- A search behind a beginning of fixed width finds an accepted text exactly if at most nine digits
are asked for. -/
theorem Fraction.firstAccepted_iff (rs ss : List Regex) (n : Nat) (hpos : fraction ≠ .digits 0)
    (haccepts : ∀ t, accepts t = ((wholeText (rs ++ fraction.regex :: ss)).matchAt? t).isSome)
    (hplain : (wholeText (rs ++ fraction.regex :: ss)).isPlain = true)
    (hrs : rs.all isRegular = true) (hss : ss.all isRegular = true)
    (hwidth : (sequence rs).width (fun _ => ⟨0, 0⟩) = ⟨n, n⟩) (hn : n < Width.limit)
    (hbase : (sequence rs).Spells base) (hline : Text.newline ∉ base)
    (htails : tails ⊆ triedZones) (htail : ∃ tail ∈ tails, (sequence ss).Spells tail) :
    accepts (firstAccepted accepts base tails) = true ↔ ∀ n ∈ fraction.digits?, n ≤ 9 := by
  have hregular : (rs ++ fraction.regex :: ss).all isRegular = true := by
    rw [List.all_append, List.all_cons, hrs, fraction.isRegular_regex, hss]
    rfl
  have hends : ∀ tail ∈ triedZones, ∀ f ∈ triedFractions, Text.newline ∉ f ++ tail := by
    decide +kernel
  have hne : tails ≠ [] := fun hnil => by simp [hnil] at htail
  rw [firstAccepted_accepts_iff hne, ← exists_tried_iff hpos htails htail]
  refine exists_congr fun tail => and_congr_right fun hmem => exists_congr fun f =>
    and_congr_right fun hf => ?_
  rw [haccepts]
  refine wholeText_append_iff (isPlain_wholeText.symm.trans hplain) hregular hwidth hn hbase ?_
  exact not_or.mpr ⟨hline, hends tail (htails hmem) f hf⟩ ∘ List.mem_append.mp

theorem Date.spells_iso {d : Date} (hd : d.InCalendar) (hyear : d.year ≤ 9999) :
    (sequence [times 4 digit, char '-', times 2 digit, char '-', times 2 digit]).Spells d.iso := by
  have hw : ∀ c ∈ d.iso, c ∈ Text.dateCharacters := fun c hc => Date.mem_iso hc
  have hiso := Date.iso_eq d.year d.month d.day
  rw [hiso] at hw
  obtain ⟨hwyear, hwrest⟩ := List.forall_mem_append.mp hw
  have hdays := (spells_days (tells_digits (by decide)) (tells_digits (by decide))
    (List.forall_mem_append.mp hwrest).2).mpr
    ⟨d.month, hd.month_lt, d.day, hd.day_lt, rfl, trivial, trivial⟩
  have hdigits := (tells_digits (by decide) _ hwyear).mpr
    ⟨d.year, Nat.lt_succ_of_le hyear, rfl, trivial⟩
  exact ⟨_, _, hiso, hdigits, _, _, rfl, spells_char.mpr rfl, hdays⟩

/-- The point of time that is found for some day. -/
theorem TimestampForm.accepts_sample_iff {form : TimestampForm} (hpos : form.fraction ≠ .digits 0)
    {d : Date} (hd : d.InCalendar) (hyear : d.year ≤ 9999) :
    form.accepts (firstAccepted form.accepts (d.iso ++ "T10:30:00") triedZones) = true ↔
      ∀ n ∈ form.fraction.digits?, n ≤ 9 := by
  have htime : (sequence [char 'T', times 2 digit, char ':', times 2 digit, char ':',
      times 2 digit]).Spells "T10:30:00" :=
    (spells_iff_matchAt? (by decide) (by decide) (by decide)).mpr (by decide +kernel)
  have hline : Text.newline ∉ d.iso ++ Text.ofString "T10:30:00" := by
    refine not_or.mpr ⟨fun h => ?_, by decide⟩ ∘ List.mem_append.mp
    exact absurd (Date.mem_iso h) (by decide)
  exact Fraction.firstAccepted_iff untilFraction [form.zoneRegex] 19 hpos (fun t => rfl)
    (isPlain_of_isInline form.isInline_regex) (by decide)
    ((Bool.and_true _).trans form.isRegular_zoneRegex) (by decide) (by decide)
    (spells_sequence_append.mpr ⟨_, _, rfl, Date.spells_iso hd hyear, htime⟩) hline
    (List.Subset.refl _) ⟨_, List.mem_cons_self, form.spells_zone⟩

/-- The time of day that is found. -/
theorem Fraction.accepts_sample_iff (hpos : fraction ≠ .digits 0) :
    fraction.accepts (firstAccepted fraction.accepts "10:30:00" [[]]) = true ↔
      ∀ n ∈ fraction.digits?, n ≤ 9 := by
  have htime : (sequence untilFraction).Spells "10:30:00" :=
    (spells_iff_matchAt? (by decide) (by decide) (by decide)).mpr (by decide +kernel)
  exact firstAccepted_iff untilFraction [] 8 hpos (fun t => rfl)
    (isPlain_of_isInline fraction.isInline_timeRegex) (by decide) rfl (by decide) (by decide) htime
    (by decide) (by decide) ⟨[], List.mem_singleton_self _, rfl⟩

end Patterns

section Building

variable {m : StringMethod} {args : List Value} {check : Check StringRule}

theorem fractionArgument_ne {options : List (Text × Value)} {fraction : Fraction}
    (h : fractionArgument options = .ok fraction) : fraction ≠ .digits 0 := by
  rintro rfl
  rw [fractionArgument] at h
  split at h
  · cases h
  · cases h
  · obtain ⟨digits, -, h⟩ := bind_eq_ok.mp h
    split_ifs at h with hzero hlarge
    · cases h
    · exact hzero (Fraction.digits.inj (Except.ok.inj h))

/-- The rules for points of time that can be asked for. -/
theorem StringMethod.rule_timestamp (hm : m = .datetime ∨ m = .time)
    (hcheck : m.rule args = .ok check) :
    (∃ form, check.rule = .datetime form ∧ form.fraction ≠ .digits 0) ∨
      ∃ fraction, check.rule = .time fraction ∧ fraction ≠ .digits 0 := by
  rcases hm with rfl | rfl
  · obtain ⟨options, -, hcheck⟩ := bind_eq_ok.mp hcheck
    obtain ⟨fraction, hfraction, hcheck⟩ := bind_eq_ok.mp hcheck
    obtain ⟨message, -, hcheck⟩ := bind_eq_ok.mp hcheck
    cases hcheck
    exact .inl ⟨_, rfl, fractionArgument_ne hfraction⟩
  · obtain ⟨options, -, hcheck⟩ := bind_eq_ok.mp hcheck
    obtain ⟨fraction, hfraction, hcheck⟩ := bind_eq_ok.mp hcheck
    obtain ⟨message, -, hcheck⟩ := bind_eq_ok.mp hcheck
    cases hcheck
    exact .inr ⟨_, rfl, fractionArgument_ne hfraction⟩

end Building

section Samples

variable {S : Type} {m : StringMethod} {args : List Value} {check : Check StringRule}
  {o : SampleOptions}

theorem always_sampleText_timestamp (hm : m = .datetime ∨ m = .time)
    (hcheck : m.rule args = .ok check) :
    Always (sampleText o [check] : Sampling S Text) fun t =>
      (check.rule.Holds t ↔ ∀ n ∈ check.rule.precision?, n ≤ 9) := by
  obtain ⟨rule, message⟩ := check
  obtain ⟨form, rfl, hpos⟩ | ⟨fraction, rfl, hpos⟩ := StringMethod.rule_timestamp hm hcheck
  · refine always_sampleText_whole message (fun plan => rfl) ?_
    refine (always_sampleWord _ 8).bind fun word _ => always_sampleDate.map fun d hd => ?_
    exact ⟨_, rfl, TimestampForm.accepts_sample_iff hpos hd.1 hd.2⟩
  · refine always_sampleText_whole message (fun plan => rfl) ?_
    exact (always_sampleWord _ 8).map fun word _ => ⟨_, rfl, Fraction.accepts_sample_iff hpos⟩

/-- **Points of time are sampled well up to nine digits**: if the only check of a string is a point
of time or a time of day with any options that can be asked for, there are as many samples as asked
for, whatever is drawn; each of them obeys the check, and the samples are a success, exactly if the
check does not ask for more than nine digits behind the seconds. -/
theorem Schema.sampleWith_timestamp (description : Option Text) (hm : m = .datetime ∨ m = .time)
    (hcheck : m.rule args = .ok check) (o : SampleOptions) (draws : Draws S) (state : S)
    (policy : Option Policy) :
    ∃ texts : List Text, texts.length = o.count ∧
      (∀ t ∈ texts, (check.rule.Holds t ↔ ∀ n ∈ check.rule.precision?, n ≤ 9)) ∧
      (Schema.mk description (.string [check])).sampleWith draws state o
          (policy.map Policy.name) =
        .ok (.ofValues (.mk description (.string [check])) (policy.map Policy.name)
          (texts.map fun t => .text t)) ∧
      ((SampleResult.ofValues (.mk description (.string [check])) (policy.map Policy.name)
        (texts.map fun t => .text t)).success = true ↔ ∀ n ∈ check.rule.precision?, n ≤ 9) := by
  obtain ⟨texts, hcount, htexts, hrun, hsuccess⟩ :=
    sampleWith_string (always_sampleText_timestamp hm hcheck) description draws state policy
  refine ⟨texts, hcount, htexts, hrun, hsuccess.trans ⟨fun hall => ?_, fun hdigits t ht => ?_⟩⟩
  · -- There is at least one sample, which tells about all.
    obtain ⟨t, ht⟩ := List.exists_mem_of_length_pos (hcount ▸ o.count_pos)
    exact (htexts t ht).mp (hall t ht).1
  · exact ⟨(htexts t ht).mpr hdigits, trivial⟩

end Samples

/-- Nine digits and an offset, both at once. -/
theorem Schema.sampleWith_timestamp_nineDigits :
    let check : Check StringRule := ⟨.datetime ⟨.digits 9, true, false⟩, none⟩
    StringMethod.datetime.rule [.object [("precision", .int 9), ("offset", .bool true)]] =
        .ok check ∧
      ∃ texts : List Text, texts.length = SampleOptions.standard.count ∧
        (∀ t ∈ texts, (check.rule.Holds t ↔ ∀ n ∈ check.rule.precision?, n ≤ 9)) ∧
        (Schema.mk none (.string [check])).sampleWith Draws.least () .standard
            (some Policy.strict.name) =
          .ok (.ofValues (.mk none (.string [check])) (some Policy.strict.name)
            (texts.map fun t => .text t)) ∧
        ((SampleResult.ofValues (.mk none (.string [check])) (some Policy.strict.name)
          (texts.map fun t => .text t)).success = true ↔
            ∀ n ∈ check.rule.precision?, n ≤ 9) := by
  intro check
  have hcheck : StringMethod.datetime.rule
      [.object [("precision", .int 9), ("offset", .bool true)]] = .ok check := by
    set_option maxRecDepth 2000 in rfl
  exact ⟨hcheck, sampleWith_timestamp none (.inl rfl) hcheck .standard Draws.least ()
    (some .strict)⟩

/-- Ten digits can be asked for, and are not found. -/
theorem Schema.sampleWith_tenDigits :
    ∃ check, StringMethod.datetime.rule [.object [("precision", .int 10)]] = .ok check ∧
      ¬∃ r, (Schema.mk none (.string [check])).sampleWith Draws.least () .standard none = .ok r ∧
        r.success = true := by
  refine ⟨⟨.datetime ⟨.digits 10, false, false⟩, none⟩, ?_, ?_⟩
  · set_option maxRecDepth 2000 in rfl
  · exact SampleResult.not_success (by decide +kernel)

end Conform
