import Conform.Source.Parsing
import Mathlib.Data.List.Induction
import Mathlib.Data.List.TakeWhile
import Mathlib.Data.Nat.Digits.Defs

/-!
# How numbers are written

A number is written in decimal, with underscores between digits, or in hexadecimal. The scanner
finds a number in front of a text exactly as it is written, unless more of it follows.

## Main definitions

- `Text.IsDecimal` — decimal numbers with separators
- `Text.IsHex` — the digits of hexadecimal numbers
- `Piece.EndsDecimal`, `Piece.EndsNumber` — what follows a number
- `Piece.number_append` — the scanner finds decimal numbers as they are written
- `Piece.decimalNumber_eq`, `Piece.hexNumber_eq` — and it finds nothing else
-/

namespace Conform

section Digits

/-- What holds throughout some ranges holds of every code point in one of them. -/
theorem Text.of_inRanges {P : CodePoint → Prop} {ranges : List (Nat × Nat)} {c : CodePoint}
    (each : ∀ range ∈ ranges, ∀ i < range.2 + 1 - range.1, P (range.1 + i))
    (h : Text.inRanges ranges c = true) : P c := by
  obtain ⟨⟨low, high⟩, hrange, hin⟩ := List.any_eq_true.mp h
  obtain ⟨hlow, hhigh⟩ : low ≤ c ∧ c ≤ high := by simpa using hin
  have hfound := each _ hrange (c - low) (Nat.sub_lt_sub_right hlow (Nat.lt_succ_of_le hhigh))
  rwa [Nat.add_sub_cancel' hlow] at hfound

/-- What holds of the ten digits holds of every digit. -/
theorem Text.of_isDigit {P : CodePoint → Prop} {c : CodePoint} (each : ∀ i < 10, P (48 + i))
    (h : Text.isDigit c = true) : P c := by
  have hin : Text.inRanges [(48, 57)] c = true := by
    rw [Text.inRanges, List.any_cons, List.any_nil, Bool.or_false]
    exact h
  refine Text.of_inRanges (fun range hrange => ?_) hin
  obtain rfl := List.mem_singleton.mp hrange
  exact each

end Digits

section Decimal

/-- Digits with underscores between them. An underscore stands in front of a digit. -/
inductive Text.IsDigitRun : Text → Prop
  | nil : IsDigitRun []
  | digit {c : CodePoint} {w : Text} (digit : Text.isDigit c = true) (more : IsDigitRun w) :
      IsDigitRun (c :: w)
  | separator {c : CodePoint} {w : Text} (digit : Text.isDigit c = true)
      (more : IsDigitRun (c :: w)) : IsDigitRun ('_'.toNat :: c :: w)

/-- The decimals of a number, if it has any. -/
inductive Text.IsFraction : Text → Prop
  | none : IsFraction []
  | point {w : Text} (digits : w.IsDigitRun) : IsFraction ('.'.toNat :: w)

/-- The exponent of a number, if it has one. -/
inductive Text.IsExponent : Text → Prop
  | none : IsExponent []
  | unsigned {e c : CodePoint} {w : Text} (mark : e = 'e'.toNat ∨ e = 'E'.toNat)
      (digit : Text.isDigit c = true) (digits : Text.IsDigitRun (c :: w)) : IsExponent (e :: c :: w)
  | signed {e s c : CodePoint} {w : Text} (mark : e = 'e'.toNat ∨ e = 'E'.toNat)
      (sign : s = '+'.toNat ∨ s = '-'.toNat) (digit : Text.isDigit c = true)
      (digits : Text.IsDigitRun (c :: w)) : IsExponent (e :: s :: c :: w)

/-- A text begins as a number does: with a digit, or with a point before one. -/
def Text.StartsNumber (w : Text) : Prop :=
  ∃ c cs, Text.isDigit c = true ∧ (w = c :: cs ∨ w = '.'.toNat :: c :: cs)

/-- A decimal number. -/
structure Text.IsDecimal (w : Text) : Prop where
  starts : w.StartsNumber
  parts : ∃ whole fraction exponent, w = whole ++ fraction ++ exponent ∧
    Text.IsDigitRun whole ∧ Text.IsFraction fraction ∧ Text.IsExponent exponent

/-- A number without underscores. -/
def Text.withoutSeparators (w : Text) : Text := w.filter (· != '_'.toNat)

theorem Text.withoutSeparators_append (w v : Text) :
    (w ++ v).withoutSeparators = w.withoutSeparators ++ v.withoutSeparators :=
  List.filter_append w v

theorem Text.withoutSeparators_cons {c : CodePoint} (hc : c ≠ '_'.toNat) (w : Text) :
    Text.withoutSeparators (c :: w) = c :: w.withoutSeparators :=
  List.filter_cons_of_pos (by simpa using hc)

theorem takeWhile_append_stop {q : CodePoint → Bool} {w rest : Text} (hw : ∀ c ∈ w, q c = true)
    (hrest : ∀ c ∈ rest.head?, q c = false) : (w ++ rest).takeWhile q = w := by
  rw [List.takeWhile_append_of_pos hw]
  cases rest with
  | nil => exact List.append_nil w
  | cons c rest => rw [List.takeWhile_cons_of_neg (by simp [hrest c rfl]), List.append_nil]

theorem Text.isDigit_ne {c : CodePoint} (h : Text.isDigit c = true) : c ≠ '_'.toNat :=
  Text.of_isDigit (P := fun c => c ≠ '_'.toNat) (by decide) h

namespace Piece

variable {w t digits : Text} {n : Nat}

/-- What follows a row of digits ends it. -/
def EndsRun (rest : Text) : Prop := ∀ c ∈ rest.head?, Text.isDigit c = false ∧ c ≠ '_'.toNat

/-- What follows a number goes on neither with digits nor with a name. -/
def EndsDigits (rest : Text) : Prop :=
  ∀ c ∈ rest.head?, Text.isDigit c = false ∧ isIdentifierStart c = false

/-- What follows a decimal number ends it. A point does so only behind a number that has a point or
an exponent. -/
structure EndsDecimal (w rest : Text) : Prop where
  digits : EndsDigits rest
  point : w.IsDigitRun → ∀ c ∈ rest.head?, c ≠ '.'.toNat

/-- What follows a number ends it, whatever number it is. -/
def EndsNumber (rest : Text) : Prop :=
  ∀ c ∈ rest.head?, Text.isDigit c = false ∧ c ≠ '.'.toNat ∧ isIdentifierStart c = false

theorem EndsNumber.decimal {rest : Text} (h : EndsNumber rest) (w : Text) : EndsDecimal w rest :=
  ⟨fun c hc => ⟨(h c hc).1, (h c hc).2.2⟩, fun _ c hc => (h c hc).2.1⟩

theorem EndsDigits.ne {rest : Text} (h : EndsDigits rest) {c d : CodePoint}
    (hd : isIdentifierStart d = true) (hc : c ∈ rest.head?) : c ≠ d := by
  rintro rfl
  exact absurd ((h c hc).2.symm.trans hd) (by decide)

theorem EndsDigits.endsRun {rest : Text} (h : EndsDigits rest) : EndsRun rest :=
  fun c hc => ⟨(h c hc).1, h.ne (by decide) hc⟩

/-- The row of digits in front of a text, and what is left of it. -/
theorem digitRun_eq (h : digitRun t = (digits, n)) :
    ∃ w rest, t = w ++ rest ∧ w.length = n ∧ w.IsDigitRun ∧ digits = w.withoutSeparators ∧
      ∀ c ∈ rest.head?, Text.isDigit c = false := by
  fun_induction digitRun generalizing digits n with
  | case1 =>
    cases h
    exact ⟨[], [], rfl, rfl, .nil, rfl, by simp⟩
  | case2 c cs hdigit found length hfound ih =>
    cases h
    obtain ⟨w, rest, rfl, rfl, hrun, rfl, hrest⟩ := ih hfound
    refine ⟨c :: w, rest, rfl, rfl, .digit hdigit hrun, ?_, hrest⟩
    rw [Text.withoutSeparators_cons (Text.isDigit_ne hdigit)]
  | case3 c cs hdigit hseparator found length hfound ih =>
    cases h
    obtain ⟨rfl, hnext⟩ := hseparator
    obtain ⟨w, rest, rfl, rfl, hrun, rfl, hrest⟩ := ih hfound
    cases w with
    | nil =>
      -- The digit behind the underscore has not been left.
      cases rest with
      | nil => exact absurd hnext (by decide)
      | cons d rest => exact absurd (hnext.symm.trans (hrest d rfl)) (by decide)
    | cons d w => exact ⟨_, rest, rfl, rfl, .separator hnext hrun, rfl, hrest⟩
  | case4 c cs hdigit hseparator =>
    cases h
    refine ⟨[], c :: cs, rfl, rfl, .nil, rfl, fun d hd => ?_⟩
    obtain rfl := Option.some.inj hd
    exact Bool.eq_false_iff.mpr hdigit

/-- A row of digits is found in front of what ends it. -/
theorem digitRun_append (h : w.IsDigitRun) {rest : Text} (hrest : EndsRun rest) :
    digitRun (w ++ rest) = (w.withoutSeparators, w.length) := by
  induction h with
  | nil =>
    cases rest with
    | nil => rfl
    | cons c rest =>
      obtain ⟨hdigit, hseparator⟩ := hrest c rfl
      rw [List.nil_append, digitRun, if_neg (by simp [hdigit]), if_neg (fun h => hseparator h.1)]
      rfl
  | digit hdigit more ih =>
    rw [List.cons_append, digitRun, if_pos hdigit, ih,
      Text.withoutSeparators_cons (Text.isDigit_ne hdigit)]
    rfl
  | @separator c w hdigit more ih =>
    have hnext : '_'.toNat = '_'.toNat ∧
        (((c :: w) ++ rest).head?.map Text.isDigit).getD false = true := ⟨rfl, hdigit⟩
    rw [List.cons_append, digitRun, if_neg (by decide), if_pos hnext, ih]
    rfl

/-- A digit in front of a text is the first one of its row. -/
theorem digitRun_cons_eq {c : CodePoint} {cs : Text} (hc : Text.isDigit c = true)
    (h : digitRun (c :: cs) = (digits, n)) :
    ∃ w rest, cs = w ++ rest ∧ w.length + 1 = n ∧ Text.IsDigitRun (c :: w) ∧
      digits = Text.withoutSeparators (c :: w) ∧ ∀ d ∈ rest.head?, Text.isDigit d = false := by
  obtain ⟨w, rest, hsplit, rfl, hrun, rfl, hrest⟩ := digitRun_eq h
  cases w with
  | nil =>
    obtain rfl : c :: cs = rest := hsplit
    exact absurd (hc.symm.trans (hrest c rfl)) (by decide)
  | cons d w =>
    obtain ⟨rfl, rfl⟩ := List.cons.inj hsplit
    exact ⟨w, rest, rfl, rfl, hrun, rfl, hrest⟩

/-- What stands in a row of digits. -/
theorem mem_digitRun {c : CodePoint} (h : w.IsDigitRun) (hc : c ∈ w) :
    Text.isDigit c = true ∨ c = '_'.toNat := by
  induction h with
  | nil => exact absurd hc List.not_mem_nil
  | digit hdigit more ih =>
    rcases List.mem_cons.mp hc with rfl | hc
    · exact .inl hdigit
    · exact ih hc
  | separator hdigit more ih =>
    rcases List.mem_cons.mp hc with rfl | hc
    · exact .inr rfl
    · exact ih hc

/-- The decimals in front of a text that does not begin with a digit. A digit behind the point is
one of them, and a point in front is theirs. -/
theorem fractionRun_eq (ht : ∀ c ∈ t.head?, Text.isDigit c = false)
    (h : fractionRun t = (digits, n)) :
    ∃ w rest, t = w ++ rest ∧ w.length = n ∧ w.IsFraction ∧ digits = w.withoutSeparators ∧
      (∀ c cs, t = '.'.toNat :: c :: cs → Text.isDigit c = true →
        ∃ more, w = '.'.toNat :: c :: more) ∧
      (w = [] → ∀ c ∈ rest.head?, c ≠ '.'.toNat) ∧ ∀ c ∈ rest.head?, Text.isDigit c = false := by
  unfold fractionRun at h
  split at h
  · split at h
    · rename_i c cs hpoint
      subst hpoint
      rcases hrun : digitRun cs with ⟨found, length⟩
      rw [hrun] at h
      cases h
      obtain ⟨w, rest, rfl, rfl, hdigits, rfl, hrest⟩ := digitRun_eq hrun
      refine ⟨'.'.toNat :: w, rest, rfl, rfl, .point hdigits, rfl, fun c cs hsplit hc => ?_,
        nofun, hrest⟩
      obtain ⟨-, htext⟩ := List.cons.inj hsplit
      cases w with
      | nil =>
        obtain rfl : rest = c :: cs := htext
        exact absurd (hc.symm.trans (hrest c rfl)) (by decide)
      | cons d w =>
        obtain ⟨rfl, -⟩ := List.cons.inj htext
        exact ⟨w, rfl⟩
    · rename_i c cs hpoint
      cases h
      refine ⟨[], _, rfl, rfl, .none, rfl, fun d ds hsplit _ => ?_, fun _ d hd => ?_, ht⟩
      · exact absurd (List.cons.inj hsplit).1 hpoint
      · obtain rfl := Option.some.inj hd
        exact hpoint
  · cases h
    exact ⟨[], [], rfl, rfl, .none, rfl, nofun, nofun, ht⟩

theorem exponentMark_ne {e : CodePoint} (h : e = 'e'.toNat ∨ e = 'E'.toNat) :
    e ≠ '_'.toNat := by
  rcases h with rfl | rfl <;> decide

/-- The exponent in front of a text that does not begin with a digit. -/
theorem exponentRun_eq (ht : ∀ c ∈ t.head?, Text.isDigit c = false)
    (h : exponentRun t = (digits, n)) :
    ∃ w rest, t = w ++ rest ∧ w.length = n ∧ w.IsExponent ∧ digits = w.withoutSeparators ∧
      ∀ c ∈ rest.head?, Text.isDigit c = false := by
  have hnone (h : (([], 0) : Text × Nat) = (digits, n)) :
      ∃ w rest, t = w ++ rest ∧ w.length = n ∧ w.IsExponent ∧ digits = w.withoutSeparators ∧
        ∀ c ∈ rest.head?, Text.isDigit c = false := by
    cases h
    exact ⟨[], t, rfl, rfl, .none, rfl, ht⟩
  unfold exponentRun at h
  split at h
  · rename_i e cs
    split at h
    · rename_i hmark
      split at h
      · exact hnone h
      · rename_i c rest
        split at h
        · rename_i hdigit
          rcases hrun : digitRun (c :: rest) with ⟨found, length⟩
          rw [hrun] at h
          cases h
          obtain ⟨w, rest, rfl, rfl, hdigits, rfl, hrest⟩ := digitRun_cons_eq hdigit hrun
          refine ⟨e :: c :: w, rest, rfl, rfl, .unsigned hmark hdigit hdigits, ?_, hrest⟩
          rw [Text.withoutSeparators_cons (exponentMark_ne hmark)]
        · split at h
          · rename_i hsigned
            obtain ⟨hsign, hnext⟩ := hsigned
            rcases hrun : digitRun rest with ⟨found, length⟩
            rw [hrun] at h
            cases h
            cases rest with
            | nil => exact absurd hnext (by decide)
            | cons d rest =>
              obtain ⟨w, rest, rfl, rfl, hdigits, rfl, hrest⟩ := digitRun_cons_eq hnext hrun
              refine ⟨e :: c :: d :: w, rest, rfl, rfl, .signed hmark hsign hnext hdigits, ?_,
                hrest⟩
              have hne : c ≠ '_'.toNat := by rcases hsign with rfl | rfl <;> decide
              rw [Text.withoutSeparators_cons (exponentMark_ne hmark),
                Text.withoutSeparators_cons hne]
          · exact hnone h
    · exact hnone h
  · exact hnone h

/-- A number that is a row of digits has neither decimals nor an exponent. -/
theorem digits_only {v u : Text} (hv : v.IsFraction) (hu : u.IsExponent)
    (h : (w ++ v ++ u).IsDigitRun) : v = [] ∧ u = [] := by
  have hnot {c : CodePoint} (hc : ¬(Text.isDigit c = true ∨ c = '_'.toNat)) : c ∉ w ++ v ++ u :=
    fun hin => hc (mem_digitRun h hin)
  have hmark {e : CodePoint} (he : e = 'e'.toNat ∨ e = 'E'.toNat) : e ∉ w ++ v ++ u := by
    rcases he with rfl | rfl <;> exact hnot (by decide)
  constructor
  · cases hv with
    | none => rfl
    | point => exact absurd (by simp) (hnot (c := '.'.toNat) (by decide))
  · cases hu with
    | none => rfl
    | unsigned mark | signed mark => exact absurd (by simp) (hmark mark)

/-- The decimal number in front of a text that begins as one, and what ends it. -/
theorem decimalNumber_eq {kind : TokenKind} {value : Text} (hstarts : t.StartsNumber)
    (h : decimalNumber t = .ok (.token kind value n)) :
    ∃ w rest, t = w ++ rest ∧ w.length - 1 = n ∧ kind = .number ∧ value = w.withoutSeparators ∧
      w.IsDecimal ∧ EndsDecimal w rest := by
  unfold decimalNumber at h
  rcases hwhole : digitRun t with ⟨whole, i⟩
  rcases hfraction : fractionRun (t.drop i) with ⟨fraction, j⟩
  rcases hexponent : exponentRun (t.drop (i + j)) with ⟨exponent, k⟩
  simp only [hwhole, hfraction, hexponent] at h
  obtain ⟨w, rest, rfl, rfl, hw, rfl, hrest⟩ := digitRun_eq hwhole
  rw [List.drop_left] at hfraction
  obtain ⟨v, rest, rfl, rfl, hv, rfl, hbehind, hpoint, hfree⟩ := fractionRun_eq hrest hfraction
  rw [← List.append_assoc, List.drop_left' List.length_append] at hexponent
  obtain ⟨u, rest, rfl, rfl, hu, rfl, hdigit⟩ := exponentRun_eq hfree hexponent
  have hend : (w ++ (v ++ (u ++ rest))).drop (w.length + v.length + u.length) = rest := by
    rw [← List.append_assoc, ← List.append_assoc]
    exact List.drop_left' (by simp [Nat.add_assoc])
  rw [hend] at h
  have hok : (∀ c ∈ rest.head?, isIdentifierStart c = false) ∧ kind = .number ∧
      value = w.withoutSeparators ++ v.withoutSeparators ++ u.withoutSeparators ∧
      w.length + v.length + u.length - 1 = n := by
    split at h
    · split at h
      · exact nomatch h
      · rename_i hstart
        cases h
        exact ⟨by simpa using hstart, rfl, rfl, rfl⟩
    · cases h
      exact ⟨nofun, rfl, rfl, rfl⟩
  obtain ⟨hstart, rfl, rfl, rfl⟩ := hok
  have hbegins : (w ++ v ++ u).StartsNumber := by
    obtain ⟨c, cs, hc, htext | htext⟩ := hstarts
    · cases w with
      | nil =>
        rw [List.nil_append] at htext
        rw [htext] at hrest
        exact absurd (hc.symm.trans (hrest c rfl)) (by decide)
      | cons d w =>
        obtain ⟨rfl, -⟩ := List.cons.inj htext
        exact ⟨d, w ++ v ++ u, hc, .inl rfl⟩
    · cases w with
      | nil =>
        obtain ⟨more, rfl⟩ := hbehind c cs htext hc
        exact ⟨c, more ++ u, hc, .inr rfl⟩
      | cons d w =>
        -- No row of digits begins with a point.
        obtain ⟨rfl, -⟩ := List.cons.inj htext
        exact absurd (mem_digitRun hw List.mem_cons_self) (by decide)
  refine ⟨w ++ v ++ u, rest, by simp, by simp [Nat.add_assoc], rfl, ?_,
    ⟨hbegins, w, v, u, rfl, hw, hv, hu⟩, fun c hc => ⟨hdigit c hc, hstart c hc⟩, fun hrun => ?_⟩
  · rw [Text.withoutSeparators_append, Text.withoutSeparators_append]
  · obtain ⟨rfl, rfl⟩ := digits_only hv hu hrun
    exact hpoint rfl

/-- No letter of a hexadecimal mark stands in a decimal number. -/
theorem ne_hexMark {whole fraction exponent : Text} {c : CodePoint} (hwhole : whole.IsDigitRun)
    (hfraction : fraction.IsFraction) (hexponent : exponent.IsExponent)
    (hc : c ∈ whole ++ fraction ++ exponent) : ¬(c = 'x'.toNat ∨ c = 'X'.toNat) := by
  have hrun {w : Text} (hw : w.IsDigitRun) (hc : c ∈ w) : ¬(c = 'x'.toNat ∨ c = 'X'.toNat) := by
    rcases mem_digitRun hw hc with hdigit | rfl
    · exact Text.of_isDigit (P := fun c => ¬(c = 'x'.toNat ∨ c = 'X'.toNat)) (by decide) hdigit
    · decide
  rcases List.mem_append.mp hc with hc | hc
  · rcases List.mem_append.mp hc with hc | hc
    · exact hrun hwhole hc
    · cases hfraction with
      | none => exact absurd hc List.not_mem_nil
      | point digits =>
        rcases List.mem_cons.mp hc with rfl | hc
        · decide
        · exact hrun digits hc
  · cases hexponent with
    | none => exact absurd hc List.not_mem_nil
    | unsigned mark digit digits =>
      rcases List.mem_cons.mp hc with rfl | hc
      · rcases mark with rfl | rfl <;> decide
      · exact hrun digits hc
    | signed mark sign digit digits =>
      rcases List.mem_cons.mp hc with rfl | hc
      · rcases mark with rfl | rfl <;> decide
      · rcases List.mem_cons.mp hc with rfl | hc
        · rcases sign with rfl | rfl <;> decide
        · exact hrun digits hc

theorem endsRun_exponent (h : w.IsExponent) {rest : Text} (hrest : EndsDigits rest) :
    EndsRun (w ++ rest) ∧ (w ≠ [] → ∀ c ∈ (w ++ rest).head?, c ≠ '.'.toNat) := by
  have hmark {e : CodePoint} (he : e = 'e'.toNat ∨ e = 'E'.toNat) (more : Text) :
      EndsRun (e :: more) ∧ ∀ c ∈ (e :: more).head?, c ≠ '.'.toNat := by
    refine ⟨fun c hc => ?_, fun c hc => ?_⟩
    all_goals
      obtain rfl := Option.some.inj hc
      rcases he with rfl | rfl <;> decide
  cases h with
  | none => exact ⟨hrest.endsRun, fun h => absurd rfl h⟩
  | unsigned mark => exact (hmark mark _).imp_right fun h _ => h
  | signed mark => exact (hmark mark _).imp_right fun h _ => h

theorem endsRun_fraction {v rest : Text} (hv : v.IsFraction) (hends : EndsRun rest) :
    EndsRun (v ++ rest) := by
  cases hv with
  | none => exact hends
  | point digits =>
    intro c hc
    obtain rfl := Option.some.inj hc
    decide

/-- Decimals are found in front of what ends them. -/
theorem fractionRun_append {v rest : Text} (hv : v.IsFraction) (hends : EndsRun rest)
    (hpoint : v = [] → ∀ c ∈ rest.head?, c ≠ '.'.toNat) :
    fractionRun (v ++ rest) = (v.withoutSeparators, v.length) := by
  cases hv with
  | none =>
    cases rest with
    | nil => rfl
    | cons c rest => exact if_neg (hpoint rfl c rfl)
  | point digits =>
    rw [List.cons_append, fractionRun, if_pos rfl, digitRun_append digits hends]
    rfl

/-- An exponent is found in front of what ends the number. -/
theorem exponentRun_append (h : w.IsExponent) {rest : Text} (hrest : EndsDigits rest) :
    exponentRun (w ++ rest) = (w.withoutSeparators, w.length) := by
  cases h with
  | none =>
    cases rest with
    | nil => rfl
    | cons c rest =>
      refine if_neg (not_or.mpr ⟨?_, ?_⟩)
      · exact hrest.ne (by decide) rfl
      · exact hrest.ne (by decide) rfl
  | @unsigned e c w mark digit digits =>
    have hrun := digitRun_append digits hrest.endsRun
    rw [List.cons_append] at hrun
    rw [List.cons_append, List.cons_append, exponentRun, if_pos mark, if_pos digit, hrun,
      Text.withoutSeparators_cons (exponentMark_ne mark)]
    rfl
  | @signed e s c w mark sign digit digits =>
    have hsign : ¬Text.isDigit s = true ∧ s ≠ '_'.toNat := by rcases sign with rfl | rfl <;> decide
    have hnext : (((c :: (w ++ rest)).head?).map Text.isDigit).getD false = true := digit
    have hrun := digitRun_append digits hrest.endsRun
    rw [List.cons_append] at hrun
    rw [List.cons_append, List.cons_append, List.cons_append, exponentRun, if_pos mark,
      if_neg hsign.1, if_pos ⟨sign, hnext⟩, hrun,
      Text.withoutSeparators_cons (exponentMark_ne mark), Text.withoutSeparators_cons hsign.2]
    rfl

/-- A number with a fraction and an exponent is read part by part. -/
theorem decimalNumber_append {whole fraction exponent rest : Text} (hwhole : whole.IsDigitRun)
    (hfraction : fraction.IsFraction) (hexponent : exponent.IsExponent)
    (hrest : EndsDecimal (whole ++ fraction ++ exponent) rest) :
    decimalNumber (whole ++ (fraction ++ (exponent ++ rest))) =
      .ok (.token .number (Text.withoutSeparators (whole ++ fraction ++ exponent))
        ((whole ++ fraction ++ exponent).length - 1)) := by
  obtain ⟨hends, hmark⟩ := endsRun_exponent hexponent hrest.digits
  -- Digits alone go on with a point, so there is none behind them.
  have hpoint : fraction = [] → ∀ c ∈ (exponent ++ rest).head?, c ≠ '.'.toNat := by
    rintro rfl
    by_cases hnil : exponent = []
    · subst hnil
      exact hrest.point (by simpa using hwhole)
    · exact hmark hnil
  have hdrop : (whole ++ (fraction ++ (exponent ++ rest))).drop (whole.length + fraction.length) =
      exponent ++ rest := by
    rw [← List.append_assoc]
    exact List.drop_left' List.length_append
  have hend : (whole ++ (fraction ++ (exponent ++ rest))).drop
      (whole.length + fraction.length + exponent.length) = rest := by
    rw [← List.append_assoc, ← List.append_assoc]
    exact List.drop_left' (by simp [Nat.add_assoc])
  unfold decimalNumber
  rw [digitRun_append hwhole (endsRun_fraction hfraction hends)]
  dsimp only
  rw [List.drop_left, fractionRun_append hfraction hends hpoint]
  dsimp only
  rw [hdrop, exponentRun_append hexponent hrest.digits]
  dsimp only
  rw [hend, Text.withoutSeparators_append, Text.withoutSeparators_append, List.length_append,
    List.length_append]
  cases rest with
  | nil => rfl
  | cons c rest => exact if_neg (by simp [(hrest.digits c rfl).2])

/-- A decimal number is found as it is written. -/
theorem number_append (h : w.IsDecimal) {rest : Text} (hrest : EndsDecimal w rest) :
    number (w ++ rest) = .ok (.token .number w.withoutSeparators (w.length - 1)) := by
  obtain ⟨hstarts, whole, fraction, exponent, rfl, hwhole, hfraction, hexponent⟩ := h
  rw [← decimalNumber_append hwhole hfraction hexponent hrest, ← List.append_assoc,
    ← List.append_assoc]
  unfold number
  split
  · rename_i z x more htext
    refine if_neg fun hmark => ?_
    -- The second code point belongs to the number or ends it.
    have hx : x ∈ whole ++ fraction ++ exponent ∨ x ∈ rest.head? := by
      clear hrest
      generalize whole ++ fraction ++ exponent = w at hstarts htext
      match w with
      | [] =>
        obtain ⟨c, cs, -, hnil | hnil⟩ := hstarts <;> cases hnil
      | [_] =>
        obtain ⟨-, rfl⟩ := List.cons.inj htext
        exact .inr rfl
      | _ :: d :: ds =>
        obtain ⟨rfl, -⟩ := List.cons.inj (List.cons.inj htext).2
        exact .inl (List.mem_cons_of_mem _ List.mem_cons_self)
    rcases hx with hx | hx
    · exact ne_hexMark hwhole hfraction hexponent hx hmark.2
    · rcases hmark.2 with rfl | rfl
      · exact hrest.digits.ne (by decide) hx rfl
      · exact hrest.digits.ne (by decide) hx rfl
  · rfl

end Piece

end Decimal

section Hexadecimal

/-- The integer that hexadecimal digits denote. -/
def Text.hexInteger (digits : Text) : Nat :=
  Nat.ofDigits 16 (digits.reverse.map fun c => (Text.hexValue? c).getD 0)

theorem Text.foldl_hexValue (digits : Text) :
    digits.foldl (fun n c => 16 * n + (Text.hexValue? c).getD 0) 0 = digits.hexInteger := by
  induction digits using List.reverseRecOn with
  | nil => rfl
  | append_singleton digits c ih =>
    rw [List.foldl_append, ih, hexInteger, hexInteger, List.reverse_append, List.reverse_singleton,
      List.singleton_append, List.map_cons, Nat.ofDigits_cons, Nat.add_comm]
    rfl

/-- The digits of a hexadecimal number whose integer can be written in decimal. -/
structure Text.IsHex (digits : Text) : Prop where
  ne_nil : digits ≠ []
  each : ∀ c ∈ digits, (Text.hexValue? c).isSome = true
  short : digits.hexInteger < Nat.pow 10 Number.digitLimit

namespace Piece

theorem hexNumber_eq {t value : Text} {kind : TokenKind} {n : Nat}
    (h : hexNumber t = .ok (.token kind value n)) :
    ∃ digits rest, t = digits ++ rest ∧ digits.length + 1 = n ∧ digits.IsHex ∧
      kind = .number ∧ value = Text.ofNat digits.hexInteger ∧
      ∀ c ∈ rest.head?, Text.hexValue? c = none := by
  unfold hexNumber at h
  dsimp only at h
  rw [Text.foldl_hexValue] at h
  split at h
  · exact nomatch h
  · rename_i hne
    split at h
    · exact nomatch h
    · rename_i hshort
      cases h
      refine ⟨_, _, List.takeWhile_append_dropWhile.symm, rfl, ⟨?_, ?_, Nat.lt_of_not_ge hshort⟩,
        rfl, rfl, fun c hc => ?_⟩
      · exact fun hnil => hne (List.isEmpty_iff.mpr hnil)
      · exact fun c hc => List.mem_takeWhile_imp (p := fun c => (Text.hexValue? c).isSome) hc
      · have hnot := List.head?_dropWhile_not (fun c => (Text.hexValue? c).isSome) t
        rw [hc] at hnot
        simpa using hnot

/-- Hexadecimal digits are found as they are written, in front of what is no such digit. -/
theorem hexNumber_append {digits rest : Text} (h : digits.IsHex)
    (hrest : ∀ c ∈ rest.head?, Text.hexValue? c = none) :
    hexNumber (digits ++ rest) =
      .ok (.token .number (Text.ofNat digits.hexInteger) (digits.length + 1)) := by
  have htake : (digits ++ rest).takeWhile (fun c => (Text.hexValue? c).isSome) = digits :=
    takeWhile_append_stop h.each fun c hc => by simp [hrest c hc]
  unfold hexNumber
  dsimp only
  rw [htake, Text.foldl_hexValue, if_neg (mt List.isEmpty_iff.mp h.ne_nil),
    if_neg (Nat.not_le_of_lt h.short)]

end Piece

end Hexadecimal

end Conform
