import Conform.Proofs.Checking.Conformance
import Conform.Proofs.Number.Layout
import Conform.Proofs.Pattern.Language

/-!
# The format of dates

The pattern of dates is the calendar. Its pieces tell numbers by their digits: the days of months,
the months of one length, and the leap years by the two halves of their digits. Only texts made of
ASCII digits and hyphens are considered; the pattern takes digits of other scripts too.

## Main definitions

- `Date.InCalendar` — the days of the proleptic Gregorian calendar
- `Regex.Tells` — the expressions that spell the numbers with a property
- `Regex.tells_leapYear` — the leap years
- `Schema.validate_date_iff` — the strings that are dates
-/

namespace Conform

/-- The days of the proleptic Gregorian calendar, which has a year zero. -/
def Date.InCalendar (d : Date) : Prop :=
  1 ≤ d.month ∧ d.month ≤ 12 ∧ 1 ≤ d.day ∧ d.day ≤ monthLength d.year d.month

theorem Date.inCalendar_leapDay_iff {year : Nat} :
    Date.InCalendar ⟨year, 2, 29⟩ ↔ isLeap year = true := by
  unfold InCalendar monthLength
  by_cases h : isLeap year = true <;> simp [h]

/-- The days that every year has. -/
theorem Date.inCalendar_always_iff {month day : Nat} :
    (∀ year, Date.InCalendar ⟨year, month, day⟩) ↔
      (month ∈ [1, 3, 5, 7, 8, 10, 12] ∧ 1 ≤ day ∧ day ≤ 31) ∨
        (month ∈ [4, 6, 9, 11] ∧ 1 ≤ day ∧ day ≤ 30) ∨ month = 2 ∧ 1 ≤ day ∧ day ≤ 28 := by
  simp only [InCalendar, monthLength, List.mem_cons, List.not_mem_nil, or_false]
  constructor
  · intro h
    have hcommon := h 1
    have hone : isLeap 1 = false := rfl
    simp only [hone, Bool.false_eq_true, if_false] at hcommon
    split_ifs at hcommon <;> omega
  · intro h year
    split_ifs <;> omega

/-- The days of a year: those of every year, and 29 February if it is a leap year. -/
theorem Date.inCalendar_iff {year month day : Nat} :
    Date.InCalendar ⟨year, month, day⟩ ↔
      (∀ year, Date.InCalendar ⟨year, month, day⟩) ∨
        month = 2 ∧ day = 29 ∧ isLeap year = true := by
  constructor
  · intro h
    by_cases hleap : month = 2 ∧ day = 29
    · obtain ⟨rfl, rfl⟩ := hleap
      exact .inr ⟨rfl, rfl, inCalendar_leapDay_iff.mp h⟩
    · refine .inl (inCalendar_always_iff.mpr ?_)
      simp only [InCalendar, monthLength] at h
      simp only [List.mem_cons, List.not_mem_nil, or_false]
      split_ifs at h <;> omega
  · rintro (h | ⟨rfl, rfl, hleap⟩)
    · exact h year
    · exact inCalendar_leapDay_iff.mpr hleap

theorem Date.InCalendar.month_lt {d : Date} (h : d.InCalendar) : d.month < 100 :=
  Nat.lt_of_le_of_lt h.2.1 (by decide)

theorem Date.InCalendar.day_lt {d : Date} (h : d.InCalendar) : d.day < 100 := by
  obtain ⟨-, -, -, hday⟩ := h
  unfold monthLength at hday
  split_ifs at hday <;> omega

theorem Date.monthLength_pos (year month : Nat) : 1 ≤ monthLength year month := by
  unfold monthLength
  split_ifs <;> decide

theorem Date.InCalendar.next {d : Date} (h : d.InCalendar) : d.next.InCalendar ∧ d.next.year ≤ d.year + 1 := by
  obtain ⟨hmonth, hlast, hday, hlength⟩ := h
  unfold Date.next
  split_ifs with hsame hyear
  · exact ⟨⟨hmonth, hlast, Nat.le_add_left 1 d.day, hsame⟩, Nat.le_succ d.year⟩
  · exact ⟨⟨Nat.le_add_left 1 d.month, hyear, le_rfl, monthLength_pos _ _⟩, Nat.le_succ d.year⟩
  · exact ⟨⟨le_rfl, (by decide : 1 ≤ 12), le_rfl, monthLength_pos _ _⟩, le_rfl⟩

/-- Days of the calendar are followed by days of the calendar. -/
theorem Date.InCalendar.addDays {d : Date} (h : d.InCalendar) (n : Nat) :
    (d.addDays n).InCalendar ∧ (d.addDays n).year ≤ d.year + n := by
  induction n generalizing d with
  | zero => exact ⟨h, le_rfl⟩
  | succ n ih =>
    obtain ⟨hnext, hyear⟩ := h.next
    obtain ⟨hlater, hle⟩ := ih hnext
    exact ⟨hlater, hle.trans (by omega)⟩

theorem Date.iso_eq (year month day : Nat) :
    iso ⟨year, month, day⟩ = Text.padded 4 year ++
      (['-'.toNat] ++ (Text.padded 2 month ++ "-" ++ Text.padded 2 day)) := by
  have hmark : Text.ofString "-" = ['-'.toNat] := rfl
  simp only [iso, hmark, List.append_assoc]

theorem Date.iso_leapDay (year : Nat) : iso ⟨year, 2, 29⟩ = Text.padded 4 year ++ "-02-29" := by
  have htail : ['-'.toNat] ++ (Text.padded 2 2 ++ "-" ++ Text.padded 2 29) =
      Text.ofString "-02-29" := by decide
  rw [iso_eq, htail]

/-- The ASCII digits and the hyphen. -/
def Text.dateCharacters : Text := "0123456789-"

theorem Date.mem_iso {d : Date} {c : CodePoint} (h : c ∈ d.iso) : c ∈ Text.dateCharacters := by
  have hdigits {width n : Nat} (hc : c ∈ Text.padded width n) : c ∈ Text.dateCharacters :=
    Text.of_isDigit (P := fun c => c ∈ Text.dateCharacters) (by decide)
      ((Decimal.padded_spec width n).1 c hc)
  have hmark (hc : c ∈ Text.ofString "-") : c ∈ Text.dateCharacters := by
    rw [List.mem_singleton.mp hc]
    decide
  simp only [iso, List.mem_append] at h
  rcases h with (((h | h) | h) | h) | h
  · exact hdigits h
  · exact hmark h
  · exact hdigits h
  · exact hmark h
  · exact hdigits h

namespace Regex

/-- Among the texts of digits and hyphens, an expression spells the numbers with a property, filled
up to so many digits. -/
def Tells (r : Regex) (width : Nat) (P : Nat → Prop) : Prop :=
  ∀ w : Text, (∀ c ∈ w, c ∈ Text.dateCharacters) →
    (r.Spells w ↔ ∃ n < 10 ^ width, w = Text.padded width n ∧ P n)

/-- The expressions that spell texts of two code points only, which the matcher decides. -/
def isPair (r : Regex) : Bool :=
  r.isPlain && r.isRegular && r.width (fun _ => ⟨0, 0⟩) == ⟨2, 2⟩

section Telling

variable {r s : Regex} {rs ss : List Regex} {m n : Nat} {P Q : Nat → Prop} {w : Text}

theorem Tells.congr (h : r.Tells n P) (hPQ : ∀ v < 10 ^ n, P v ↔ Q v) : r.Tells n Q := by
  intro w hw
  rw [h w hw]
  exact exists_congr fun v => and_congr_right fun hv => and_congr_right fun _ => hPQ v hv

theorem Tells.or (hr : r.Tells n P) (hs : s.Tells n Q) :
    (Regex.alt r s).Tells n fun v => P v ∨ Q v := by
  intro w hw
  refine (or_congr (hr w hw) (hs w hw)).trans ?_
  simp only [← exists_or, ← and_or_left]

/-- Numbers are told by their first and their last digits. -/
theorem Tells.append (hm : 0 < m) (hn : 0 < n) (hr : (sequence rs).Tells m P)
    (hs : (sequence ss).Tells n Q) :
    (sequence (rs ++ ss)).Tells (m + n) fun v => P (v / 10 ^ n) ∧ Q (v % 10 ^ n) := by
  have hpos : 0 < 10 ^ n := Nat.pow_pos (by decide)
  intro w hw
  rw [spells_sequence_append]
  constructor
  · rintro ⟨u, x, rfl, hu, hx⟩
    obtain ⟨hwu, hwx⟩ := List.forall_mem_append.mp hw
    obtain ⟨a, ha, rfl, hP⟩ := (hr u hwu).mp hu
    obtain ⟨b, hb, rfl, hQ⟩ := (hs x hwx).mp hx
    have hdiv : (a * 10 ^ n + b) / 10 ^ n = a := by
      rw [Nat.mul_comm, Nat.mul_add_div hpos, Nat.div_eq_of_lt hb, Nat.add_zero]
    have hmod : (a * 10 ^ n + b) % 10 ^ n = b := by
      rw [Nat.mul_comm, Nat.mul_add_mod, Nat.mod_eq_of_lt hb]
    refine ⟨a * 10 ^ n + b, ?_, Decimal.padded_append hm hn ha hb, ?_, ?_⟩
    · rw [Nat.pow_add, ← Nat.div_lt_iff_lt_mul hpos, hdiv]
      exact ha
    · rwa [hdiv]
    · rwa [hmod]
  · rintro ⟨v, hv, rfl, hP, hQ⟩
    have hhigh : v / 10 ^ n < 10 ^ m := by
      rwa [Nat.div_lt_iff_lt_mul hpos, ← Nat.pow_add]
    have hlow : v % 10 ^ n < 10 ^ n := Nat.mod_lt v hpos
    have hsplit : Text.padded (m + n) v =
        Text.padded m (v / 10 ^ n) ++ Text.padded n (v % 10 ^ n) := by
      rw [Decimal.padded_append hm hn hhigh hlow, Nat.div_add_mod']
    rw [hsplit] at hw ⊢
    obtain ⟨hwu, hwx⟩ := List.forall_mem_append.mp hw
    exact ⟨_, _, rfl, (hr _ hwu).mpr ⟨_, hhigh, rfl, hP⟩, (hs _ hwx).mpr ⟨_, hlow, rfl, hQ⟩⟩

/-- What two code points tell is found by going through all of them. -/
theorem tells_pair [DecidablePred P] (hpair : r.isPair = true)
    (h : ∀ c ∈ Text.dateCharacters, ∀ d ∈ Text.dateCharacters,
      ((wholeText [r]).matchAt? [c, d]).isSome =
        ([c, d].all Text.isDigit && decide (P (Text.digitsValue [c, d])))) : r.Tells 2 P := by
  simp only [isPair, Bool.and_eq_true, beq_iff_eq] at hpair
  obtain ⟨⟨hplain, hregular⟩, hwidth⟩ := hpair
  intro w hw
  rw [Decimal.exists_padded_iff (by decide)]
  by_cases hlength : w.length = 2
  · obtain ⟨c, d, rfl⟩ := List.length_eq_two.mp hlength
    have hnewline : Text.newline ∉ [c, d] := fun hmem =>
      absurd (hw _ hmem) (by decide)
    rw [spells_iff_matchAt? hplain hregular hnewline,
      h c (hw c List.mem_cons_self) d (hw d (List.mem_cons_of_mem c List.mem_cons_self)),
      Bool.and_eq_true, List.all_eq_true, decide_eq_true_iff]
    exact and_congr_left' (and_iff_left hlength).symm
  · refine iff_of_false (fun hspells => hlength ?_) fun hdigits => hlength hdigits.1.2
    have hadmits := hspells.width fun _ => ⟨0, 0⟩
    rw [hwidth] at hadmits
    exact le_antisymm (hadmits.2 (by decide)) hadmits.1

theorem tells_digits (hn : 0 < n) : (times n digit).Tells n fun _ => True := by
  intro w hw
  have hdigit : ∀ c ∈ Text.dateCharacters,
      (Atom.set ⟨false, .exact, [.named .digit false .unicode]⟩).has c = Text.isDigit c := by
    decide +kernel
  have hall : (∀ c ∈ w, (Atom.set ⟨false, .exact, [.named .digit false .unicode]⟩).has c = true) ↔
      w.AreDigits :=
    forall₂_congr fun c hc => by rw [hdigit c (hw c hc)]
  rw [Decimal.exists_padded_iff hn, and_true, ← hall, and_comm]
  exact spells_times_unit

/-- The days of some months: two numbers around a hyphen. -/
theorem spells_days (hr : r.Tells 2 P) (hs : s.Tells 2 Q)
    (hw : ∀ c ∈ w, c ∈ Text.dateCharacters) :
    (sequence [r, char '-', s]).Spells w ↔
      ∃ month < 100, ∃ day < 100,
        w = Text.padded 2 month ++ "-" ++ Text.padded 2 day ∧ P month ∧ Q day := by
  constructor
  · rintro ⟨u, v, rfl, hu, mark, x, rfl, hmark, hx⟩
    obtain rfl := spells_char.mp hmark
    obtain ⟨hwu, hwv⟩ := List.forall_mem_append.mp hw
    obtain ⟨month, hmonth, rfl, hP⟩ := (hr u hwu).mp hu
    obtain ⟨day, hday, rfl, hQ⟩ := (hs x (List.forall_mem_append.mp hwv).2).mp hx
    exact ⟨month, hmonth, day, hday, (List.append_assoc _ _ _).symm, hP, hQ⟩
  · rintro ⟨month, hmonth, day, hday, rfl, hP, hQ⟩
    obtain ⟨hwu, hwx⟩ := List.forall_mem_append.mp hw
    have hu := (hr _ (List.forall_mem_append.mp hwu).1).mpr ⟨month, hmonth, rfl, hP⟩
    have hx := (hs _ hwx).mpr ⟨day, hday, rfl, hQ⟩
    exact ⟨_, _, List.append_assoc _ _ _, hu, _, _, rfl, spells_char.mpr rfl, hx⟩

end Telling

section Calendar

variable {w : Text}

/-- The leap years are told by their last two digits or, in years that end a century, by the first
two. -/
theorem tells_leapYear : leapYearRegex.Tells 4 fun year => Date.isLeap year = true := by
  have hany : (sequence [digit, digit]).Tells 2 fun _ => True :=
    tells_pair (by decide) (by decide +kernel)
  have hzeros : (sequence [chars "00"]).Tells 2 fun v => v = 0 :=
    tells_pair (by decide) (by decide +kernel)
  have hevenTens : (sequence [oneOf (listed "02468"), oneOf (listed "048")]).Tells 2
      fun v => v % 4 = 0 ∧ v / 10 % 2 = 0 := tells_pair (by decide) (by decide +kernel)
  have hoddTens : (sequence [oneOf (listed "13579"), oneOf (listed "26")]).Tells 2
      fun v => v % 4 = 0 ∧ v / 10 % 2 = 1 := tells_pair (by decide) (by decide +kernel)
  have htwenties : (sequence [oneOf (listed "2468"), oneOf (listed "048")]).Tells 2
      fun v => v % 4 = 0 ∧ v / 10 % 2 = 0 ∧ 10 ≤ v := tells_pair (by decide) (by decide +kernel)
  have hones : (sequence [char '0', oneOf (listed "48")]).Tells 2
      fun v => v % 4 = 0 ∧ 0 < v ∧ v < 10 := tells_pair (by decide) (by decide +kernel)
  have hpos : 0 < 2 := Nat.two_pos
  have hsplit := (hany.append hpos hpos htwenties).or <| (hany.append hpos hpos hoddTens).or <|
    (hany.append hpos hpos hones).or <| (hevenTens.append hpos hpos hzeros).or
      (hoddTens.append hpos hpos hzeros)
  refine Tells.congr hsplit fun year hyear => ?_
  simp only [Date.isLeap, Bool.and_eq_true, Bool.or_eq_true, beq_iff_eq, bne_iff_ne,
    true_and, Nat.reducePow]
  omega

/-- The days that every year has. -/
theorem spells_everyYear (hw : ∀ c ∈ w, c ∈ Text.dateCharacters) :
    (choice [longMonthRegex, shortMonthRegex, februaryRegex]).Spells w ↔
      ∃ month < 100, ∃ day < 100, w = Text.padded 2 month ++ "-" ++ Text.padded 2 day ∧
        ∀ year, Date.InCalendar ⟨year, month, day⟩ := by
  have hlong : longMonthRegex.Spells w ↔ _ := spells_days
    (P := fun month => month ∈ [1, 3, 5, 7, 8, 10, 12]) (Q := fun day => 1 ≤ day ∧ day ≤ 31)
    (tells_pair (by decide) (by decide +kernel)) (tells_pair (by decide) (by decide +kernel)) hw
  have hshort : shortMonthRegex.Spells w ↔ _ := spells_days
    (P := fun month => month ∈ [4, 6, 9, 11]) (Q := fun day => 1 ≤ day ∧ day ≤ 30)
    (tells_pair (by decide) (by decide +kernel)) (tells_pair (by decide) (by decide +kernel)) hw
  have hfebruary : februaryRegex.Spells w ↔ _ := spells_days
    (P := fun month => month = 2) (Q := fun day => 1 ≤ day ∧ day ≤ 28)
    (tells_pair (by decide) (by decide +kernel)) (tells_pair (by decide) (by decide +kernel)) hw
  refine (or_congr hlong (or_congr hshort hfebruary)).trans ?_
  simp only [Date.inCalendar_always_iff, ← exists_or, ← and_or_left]

/-- The days of the calendar: leap days, and the days that every year has. -/
theorem spells_date (hw : ∀ c ∈ w, c ∈ Text.dateCharacters) :
    (Regex.alt (sequence [leapYearRegex, chars "-02-29"]) (sequence [times 4 digit, char '-',
      choice [longMonthRegex, shortMonthRegex, februaryRegex]])).Spells w ↔
      ∃ d : Date, d.InCalendar ∧ d.year ≤ 9999 ∧ w = d.iso := by
  constructor
  · rintro (⟨u, v, rfl, hu, hv⟩ | ⟨u, v, rfl, hu, mark, x, rfl, hmark, hx⟩)
    · obtain ⟨hwu, -⟩ := List.forall_mem_append.mp hw
      obtain ⟨year, hyear, rfl, hleap⟩ := (tells_leapYear u hwu).mp hu
      obtain rfl := spells_chars.mp hv
      have hcalendar := Date.inCalendar_iff.mpr (.inr ⟨rfl, rfl, hleap⟩)
      exact ⟨⟨year, 2, 29⟩, hcalendar, Nat.le_of_lt_succ hyear, (Date.iso_leapDay year).symm⟩
    · obtain ⟨hwu, hwv⟩ := List.forall_mem_append.mp hw
      obtain ⟨year, hyear, rfl, -⟩ := (tells_digits (by decide) u hwu).mp hu
      obtain rfl := spells_char.mp hmark
      obtain ⟨month, -, day, -, rfl, hdays⟩ :=
        (spells_everyYear (List.forall_mem_append.mp hwv).2).mp hx
      exact ⟨⟨year, month, day⟩, hdays year, Nat.le_of_lt_succ hyear,
        (Date.iso_eq year month day).symm⟩
  · rintro ⟨⟨year, month, day⟩, hcalendar, hyear, rfl⟩
    have hfour : year < 10 ^ 4 := Nat.lt_succ_of_le hyear
    obtain hdays | ⟨rfl, rfl, hleap⟩ := Date.inCalendar_iff.mp hcalendar
    · rw [Date.iso_eq] at hw ⊢
      obtain ⟨hwu, hwv⟩ := List.forall_mem_append.mp hw
      have hu := (tells_digits (by decide) _ hwu).mpr ⟨year, hfour, rfl, trivial⟩
      have hx := (spells_everyYear (List.forall_mem_append.mp hwv).2).mpr
        ⟨month, hcalendar.month_lt, day, hcalendar.day_lt, rfl, hdays⟩
      exact .inr ⟨_, _, rfl, hu, _, _, rfl, spells_char.mpr rfl, hx⟩
    · rw [Date.iso_leapDay] at hw ⊢
      have hu := (tells_leapYear _ (List.forall_mem_append.mp hw).1).mpr ⟨year, hfour, rfl, hleap⟩
      exact .inl ⟨_, _, rfl, hu, spells_chars.mpr rfl⟩

end Calendar

end Regex

/-- A text of digits and hyphens has the format of dates if it is a day of the calendar. -/
theorem TextFormat.accepts_date_iff {t : Text} (ht : ∀ c ∈ t, c ∈ Text.dateCharacters) :
    TextFormat.date.accepts t = true ↔
      ∃ d : Date, d.InCalendar ∧ d.year ≤ 9999 ∧ t = d.iso := by
  have hnewline : Text.newline ∉ t := fun hmem => absurd (ht _ hmem) (by decide)
  rw [← Regex.spells_date ht]
  exact (Regex.spells_iff_matchAt? (by decide) (by decide) hnewline).symm

example : TextFormat.date.accepts "1900-02-29" = false := by decide +kernel

/-- **The format of dates is the calendar**: checked against a schema of strings in the format of
dates, under any policy, a text of digits and hyphens is without a fault if and only if it has the
form `YYYY-MM-DD` and names a day of the proleptic Gregorian calendar. -/
theorem Schema.validate_date_iff (message : Option Text) (policy : Option Policy) {t : Text}
    (ht : ∀ c ∈ t, c ∈ Text.dateCharacters) :
    (Schema.plain (.string [⟨.format .date, message⟩])).validate (policy.map Policy.name)
        (.text t) = [] ↔
      ∃ d : Date, d.InCalendar ∧ d.year ≤ 9999 ∧ t = d.iso := by
  have hbuilt : (Schema.plain (.string [⟨.format .date, message⟩])).WellBuilt :=
    wellBuilt_leaf _ trivial rfl
  have hrange : (Schema.plain (.string [⟨.format .date, message⟩])).InRange :=
    .mk trivial fun s hs => absurd hs List.not_mem_nil
  rw [← TextFormat.accepts_date_iff ht, ← List.isEmpty_iff,
    isEmpty_validate_iff hbuilt hrange (.text t)]
  constructor
  · rintro ⟨u, hu, hdate, -⟩
    cases hu
    exact hdate
  · intro hdate
    exact ⟨t, rfl, hdate, trivial⟩

/-- The leap day of a year that ends a century. -/
theorem Schema.validate_date_iff_century :
    (∀ c ∈ Text.ofString "2000-02-29", c ∈ Text.dateCharacters) ∧
      (Schema.plain (.string [⟨.format .date, none⟩])).validate none
        (.text "2000-02-29") = [] := by
  have ht : ∀ c ∈ Text.ofString "2000-02-29", c ∈ Text.dateCharacters := by decide
  refine ⟨ht, (validate_date_iff none none ht).mpr ⟨⟨2000, 2, 29⟩, ?_⟩⟩
  exact ⟨by unfold Date.InCalendar; decide, by decide, by decide⟩

end Conform
