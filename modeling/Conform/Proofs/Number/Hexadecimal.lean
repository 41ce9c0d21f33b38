import Conform.Number.Reading
import Conform.Proofs.Source.Numerals

/-!
# Written hexadecimal integers

How an integer may be written to be read in base sixteen. The reading is lenient: blanks may stand
around the number, a sign and a mark of the base in front of its digits, single underscores between
them, and decimal digits may be of any script.

## Main definitions

- `Number.hexDigit?` — the value of a digit
- `Number.HexRun` — digits with underscores between them
- `Number.Hexadecimal` — written integers
- `Number.anyInteger?_eq_some_iff` — these are read, and nothing else is
- `Text.hexValue?_of_mem_hex`, `Text.length_hex` — numbers filled up with zeros
-/

namespace Conform

section Stripping

variable {p : CodePoint → Bool}

/-- A text without what is dropped from its two ends. -/
theorem Text.exists_dropped (p : CodePoint → Bool) (t : Text) :
    ∃ before behind, t = before ++ Text.dropRightWhile p (t.dropWhile p) ++ behind ∧
      (∀ c ∈ before, p c = true) ∧ ∀ c ∈ behind, p c = true := by
  refine ⟨t.takeWhile p, ((t.dropWhile p).reverse.takeWhile p).reverse, ?_,
    fun c hc => List.mem_takeWhile_imp hc,
    fun c hc => List.mem_takeWhile_imp (List.mem_reverse.mp hc)⟩
  rw [List.append_assoc, dropRightWhile, ← List.reverse_append, List.takeWhile_append_dropWhile,
    List.reverse_reverse, List.takeWhile_append_dropWhile]

/-- What is dropped from the two ends of a text is nothing that does not belong to it. -/
theorem Text.dropped_append {before core behind : Text} (hbefore : ∀ c ∈ before, p c = true)
    (hbehind : ∀ c ∈ behind, p c = true) (hhead : ∀ c ∈ core.head?, p c = false)
    (hlast : ∀ c ∈ core.getLast?, p c = false) (hne : core ≠ []) :
    Text.dropRightWhile p ((before ++ core ++ behind).dropWhile p) = core := by
  have hdrop {w v : Text} (hw : ∀ c ∈ w, p c = true) (hv : ∀ c ∈ v.head?, p c = false) :
      (w ++ v).dropWhile p = v := by
    rw [List.dropWhile_append_of_pos hw]
    cases v with
    | nil => rfl
    | cons c v => exact List.dropWhile_cons_of_neg (by simp [hv c rfl])
  have hfront : (before ++ core ++ behind).dropWhile p = core ++ behind := by
    rw [List.append_assoc]
    refine hdrop hbefore fun c hc => hhead c ?_
    obtain ⟨d, core, rfl⟩ := List.exists_cons_of_ne_nil hne
    exact hc
  rw [hfront, dropRightWhile, List.reverse_append, hdrop, List.reverse_reverse]
  · exact fun c hc => hbehind c (List.mem_reverse.mp hc)
  · rwa [List.head?_reverse]

end Stripping

namespace Number

/-- The value of a digit of a hexadecimal number. Decimal digits may be of any script. -/
def hexDigit? (c : CodePoint) : Option Nat :=
  if c < 128 then Text.hexValue? c else Text.decimalValue? c

/-- Digits with single underscores between them; `fresh` tells that a digit comes first. -/
inductive HexRun : (fresh : Bool) → Text → (digits : List Nat) → Prop
  | nil : HexRun false [] []
  | digit {fresh : Bool} {c : CodePoint} {d : Nat} {w : Text} {ds : List Nat}
      (digit : hexDigit? c = some d) (more : HexRun false w ds) : HexRun fresh (c :: w) (d :: ds)
  | separator {w : Text} {ds : List Nat} (more : HexRun true w ds) :
      HexRun false ('_'.toNat :: w) ds

/-- The mark of the base, if there is one. An underscore may stand behind it. -/
inductive HexMark : Text → Prop
  | none : HexMark []
  | marked {z x : CodePoint} (zero : hexDigit? z = some 0)
      (letter : x = 'x'.toNat ∨ x = 'X'.toNat) : HexMark [z, x]
  | separated {z x : CodePoint} (zero : hexDigit? z = some 0)
      (letter : x = 'x'.toNat ∨ x = 'X'.toNat) : HexMark [z, x, '_'.toNat]

/-- A sign, if there is one. -/
inductive Sign : Text → (negative : Bool) → Prop
  | none : Sign [] false
  | plus : Sign ['+'.toNat] false
  | minus : Sign ['-'.toNat] true

/-- An integer with a sign. -/
def signed (negative : Bool) (n : Nat) : Int := if negative then -(Int.ofNat n) else Int.ofNat n

/-- An integer as it may be written to be read in base sixteen. -/
inductive Hexadecimal : Text → Int → Prop
  | mk {before sign mark digits behind : Text} {negative : Bool} {ds : List Nat}
      (before_blank : ∀ c ∈ before, isOuterBlank c = true) (is_sign : Sign sign negative)
      (is_mark : HexMark mark) (run : HexRun true digits ds)
      (behind_blank : ∀ c ∈ behind, isOuterBlank c = true) :
      Hexadecimal (before ++ (sign ++ mark ++ digits) ++ behind)
        (signed negative (Nat.ofDigits 16 ds.reverse))

/-- The form of a code point of a number that stands for it in all scripts. -/
def plainOne (c : CodePoint) : CodePoint :=
  if c < 128 then c
  else match Text.decimalValue? c with
    | some d => 48 + d
    | none => if Text.isBlank c then 32 else c

theorem plain_eq (t : Text) :
    plain t = (Text.dropRightWhile isOuterBlank (t.dropWhile isOuterBlank)).map plainOne := rfl

section Digits

variable {c d m : Nat}

theorem decimalValue?_lt (h : Text.decimalValue? c = some d) : d < 10 := by
  obtain ⟨range, -, rfl⟩ := Option.map_eq_some_iff.mp h
  exact Nat.mod_lt _ (by decide)

theorem hexValue?_eq (c : Nat) :
    Text.hexValue? c =
      if 48 ≤ c ∧ c ≤ 57 then some (c - 48)
      else if 65 ≤ c ∧ c ≤ 70 then some (c - 55)
      else if 97 ≤ c ∧ c ≤ 102 then some (c - 87)
      else none := rfl

theorem hexValue?_decimal (h : d < 10) : Text.hexValue? (48 + d) = some d := by
  rw [hexValue?_eq, if_pos (by omega), Nat.add_sub_cancel_left]

theorem hexValue?_eq_none (h : 128 ≤ c) : Text.hexValue? c = none := by
  rw [hexValue?_eq, if_neg (by omega), if_neg (by omega), if_neg (by omega)]

/-- The three rows of digits. -/
theorem hexValue?_cases (h : Text.hexValue? c = some d) :
    (48 ≤ c ∧ c ≤ 57 ∧ d = c - 48) ∨ (65 ≤ c ∧ c ≤ 70 ∧ d = c - 55) ∨
      (97 ≤ c ∧ c ≤ 102 ∧ d = c - 87) := by
  rw [hexValue?_eq] at h
  split_ifs at h with hdecimal hupper hlower
  · exact .inl ⟨hdecimal.1, hdecimal.2, (Option.some.inj h).symm⟩
  · exact .inr (.inl ⟨hupper.1, hupper.2, (Option.some.inj h).symm⟩)
  · exact .inr (.inr ⟨hlower.1, hlower.2, (Option.some.inj h).symm⟩)

theorem hexValue?_lt (h : Text.hexValue? c = some d) : d < 16 := by
  have hrows := hexValue?_cases h
  omega

theorem eq_of_hexValue?_zero (h : Text.hexValue? c = some 0) : c = '0'.toNat := by
  have hrows := hexValue?_cases h
  change c = 48
  omega

theorem hexDigit?_of_hexValue? (h : Text.hexValue? c = some d) : hexDigit? c = some d := by
  have hrows := hexValue?_cases h
  have hc : c < 128 := by omega
  rw [hexDigit?, if_pos hc, h]

theorem hexDigit?_lt (h : hexDigit? c = some d) : d < 16 := by
  unfold hexDigit? at h
  split at h
  · exact hexValue?_lt h
  · exact (decimalValue?_lt h).trans (by decide)

/-- A code point beyond ASCII becomes a digit, a blank or stays. -/
theorem plainOne_cases (hc : 128 ≤ c) :
    (∃ d < 10, plainOne c = 48 + d ∧ Text.decimalValue? c = some d) ∨
      (plainOne c = 32 ∨ plainOne c = c) ∧ Text.decimalValue? c = none := by
  rw [plainOne, if_neg (Nat.not_lt.mpr hc)]
  cases hd : Text.decimalValue? c with
  | some d => exact .inl ⟨d, decimalValue?_lt hd, rfl, rfl⟩
  | none =>
    refine .inr ⟨?_, rfl⟩
    dsimp only
    split
    · exact .inl rfl
    · exact .inr rfl

theorem hexValue?_plainOne (c : Nat) : Text.hexValue? (plainOne c) = hexDigit? c := by
  by_cases hc : c < 128
  · rw [plainOne, hexDigit?, if_pos hc, if_pos hc]
  · rw [hexDigit?, if_neg hc]
    rcases plainOne_cases (Nat.le_of_not_lt hc) with ⟨d, hd, hplain, hvalue⟩ | ⟨hplain, hvalue⟩
    · rw [hplain, hvalue, hexValue?_decimal hd]
    · rw [hvalue]
      rcases hplain with hplain | hplain
      · rw [hplain]
        rfl
      · rw [hplain, hexValue?_eq_none (Nat.le_of_not_lt hc)]

/-- What is neither a digit nor a blank has one written form. -/
theorem plainOne_eq_iff (hm : m < 128) (hdigit : Text.isDigit m = false) (hblank : m ≠ 32) :
    plainOne c = m ↔ c = m := by
  by_cases hc : c < 128
  · rw [plainOne, if_pos hc]
  · have hne : c ≠ m := fun h => hc (h ▸ hm)
    refine iff_of_false ?_ hne
    rcases plainOne_cases (Nat.le_of_not_lt hc) with ⟨d, hd, hplain, -⟩ | ⟨hplain | hplain, -⟩
    · have heach : ∀ i < 10, Text.isDigit (48 + i) = true := by decide
      rw [hplain]
      rintro rfl
      exact Bool.false_ne_true (hdigit.symm.trans (heach d hd))
    · rw [hplain]
      exact Ne.symm hblank
    · rwa [hplain]

theorem plainOne_zero_iff : plainOne c = '0'.toNat ↔ hexDigit? c = some 0 := by
  rw [← hexValue?_plainOne]
  constructor
  · intro h
    rw [h]
    rfl
  · exact eq_of_hexValue?_zero

/-- A digit is no blank around a number. -/
theorem not_isOuterBlank_of_hexDigit? (h : hexDigit? c = some d) : isOuterBlank c = false := by
  by_cases hc : c < 128
  · have heach : ∀ c < 128, (hexDigit? c).isSome = true → isOuterBlank c = false := by
      decide +kernel
    exact heach c hc (by rw [h]; rfl)
  · rw [hexDigit?, if_neg hc] at h
    obtain ⟨range, hfind, -⟩ := Option.map_eq_some_iff.mp h
    have hin : Text.inRanges Text.decimalRanges c = true :=
      List.any_eq_true.mpr ⟨range, List.mem_of_find?_eq_some hfind,
        List.find?_some (p := fun range : Nat × Nat => range.1 ≤ c && c ≤ range.2) hfind⟩
    exact Text.of_inRanges (P := fun c => isOuterBlank c = false) (by decide +kernel) hin

theorem not_isOuterBlank_of_sign (h : c = '+'.toNat ∨ c = '-'.toNat) : isOuterBlank c = false := by
  rcases h with rfl | rfl <;> decide

end Digits

/-- The number that digits denote, from the first one on. -/
theorem ofDigits_reverse (ds : List Nat) :
    Nat.ofDigits 16 ds.reverse = ds.foldl (fun n d => 16 * n + d) 0 := by
  rw [Nat.ofDigits_eq_foldr, List.foldr_reverse]
  exact congrArg (fun f => ds.foldl f 0) (funext₂ fun n d => Nat.add_comm d (16 * n))

section Runs

variable {fresh : Bool} {w digits : Text} {ds : List Nat} {c : CodePoint}

/-- A row of digits is read as it is written. -/
theorem digitRow?_eq_some_iff {total n : Nat} :
    digitRow? 16 fresh total (w.map plainOne) = some n ↔
      ∃ ds, HexRun fresh w ds ∧ ds.foldl (fun n d => 16 * n + d) total = n := by
  have hmark {c : Nat} : plainOne c = '_'.toNat ↔ c = '_'.toNat :=
    plainOne_eq_iff (by decide) (by decide) (by decide)
  induction w generalizing fresh total with
  | nil =>
    cases fresh with
    | true => exact iff_of_false nofun fun ⟨ds, h, _⟩ => nomatch h
    | false =>
      refine Option.some_inj.trans ⟨fun h => ⟨[], .nil, h⟩, ?_⟩
      rintro ⟨ds, h, hn⟩
      cases h
      exact hn
  | cons c w ih =>
    rw [List.map_cons, digitRow?]
    by_cases hc : c = '_'.toNat
    · rw [if_pos (hmark.mpr hc), hc]
      have hnone : hexDigit? '_'.toNat = none := by decide
      cases fresh with
      | true =>
        refine iff_of_false nofun ?_
        rintro ⟨ds, h, -⟩
        cases h with
        | digit digit => cases hnone.symm.trans digit
      | false =>
        refine ih.trans (exists_congr fun ds => and_congr_left fun _ => ⟨.separator, fun h => ?_⟩)
        cases h with
        | digit digit => cases hnone.symm.trans digit
        | separator more => exact more
    · rw [if_neg (mt hmark.mp hc), hexValue?_plainOne]
      cases hdigit : hexDigit? c with
      | none =>
        refine iff_of_false nofun ?_
        rintro ⟨ds, h, -⟩
        cases h with
        | digit digit => cases hdigit.symm.trans digit
        | separator => exact hc rfl
      | some d =>
        dsimp only
        rw [if_pos (hexDigit?_lt hdigit)]
        refine ih.trans ⟨?_, ?_⟩
        · rintro ⟨ds, h, hn⟩
          exact ⟨d :: ds, .digit hdigit h, hn⟩
        · rintro ⟨ds, h, hn⟩
          cases h with
          | digit digit more =>
            obtain rfl := Option.some.inj (digit.symm.trans hdigit)
            exact ⟨_, more, hn⟩
          | separator => exact (hc rfl).elim

/-- A row of digits begins with one of them. -/
theorem HexRun.exists_cons (h : HexRun true w ds) :
    ∃ c d v es, w = c :: v ∧ hexDigit? c = some d ∧ HexRun false v es := by
  cases h with
  | digit digit more => exact ⟨_, _, _, _, rfl, digit, more⟩

/-- A row of digits ends with one of them. -/
theorem HexRun.getLast? (h : HexRun fresh w ds) (hc : c ∈ w.getLast?) :
    ∃ d, hexDigit? c = some d := by
  induction h with
  | nil => cases hc
  | @digit fresh b d w ds digit more ih =>
    cases w with
    | nil =>
      obtain rfl := Option.some.inj hc
      exact ⟨d, digit⟩
    | cons b' w => exact ih (by rwa [List.getLast?_cons_cons] at hc)
  | @separator w ds more ih =>
    obtain ⟨b, d, v, es, rfl, -, -⟩ := more.exists_cons
    exact ih (by rwa [List.getLast?_cons_cons] at hc)

end Runs

section Fronts

variable {w sign mark digits t : Text} {negative : Bool} {ds : List Nat} {c d : Nat}

theorem not_sign_of_hexDigit? (h : hexDigit? c = some d) : ¬(c = '+'.toNat ∨ c = '-'.toNat) := by
  rintro (rfl | rfl) <;> cases h

theorem not_letter_of_hexDigit? (h : hexDigit? c = some d) :
    ¬(c = 'x'.toNat ∨ c = 'X'.toNat ∨ c = '_'.toNat) := by
  rintro (rfl | rfl | rfl) <;> cases h

/-- What stands in front of a number is split off. -/
theorem splitSign_plain (w : Text) : ∃ sign rest negative, w = sign ++ rest ∧ Sign sign negative ∧
    splitSign (w.map plainOne) = (negative, rest.map plainOne) := by
  have hminus {c : Nat} : plainOne c = '-'.toNat ↔ c = '-'.toNat :=
    plainOne_eq_iff (by decide) (by decide) (by decide)
  have hplus {c : Nat} : plainOne c = '+'.toNat ↔ c = '+'.toNat :=
    plainOne_eq_iff (by decide) (by decide) (by decide)
  cases w with
  | nil => exact ⟨[], [], false, rfl, .none, rfl⟩
  | cons c w =>
    rw [List.map_cons, splitSign]
    split
    · rename_i hc
      obtain rfl := hminus.mp hc
      exact ⟨['-'.toNat], w, true, rfl, .minus, rfl⟩
    · split
      · rename_i hc
        obtain rfl := hplus.mp hc
        exact ⟨['+'.toNat], w, false, rfl, .plus, rfl⟩
      · exact ⟨[], c :: w, false, rfl, .none, rfl⟩

theorem splitSign_append (hsign : Sign sign negative)
    (hw : ∀ c ∈ w.head?, ¬(c = '+'.toNat ∨ c = '-'.toNat)) :
    splitSign ((sign ++ w).map plainOne) = (negative, w.map plainOne) := by
  have hminus {c : Nat} : plainOne c = '-'.toNat ↔ c = '-'.toNat :=
    plainOne_eq_iff (by decide) (by decide) (by decide)
  have hplus {c : Nat} : plainOne c = '+'.toNat ↔ c = '+'.toNat :=
    plainOne_eq_iff (by decide) (by decide) (by decide)
  cases hsign with
  | plus | minus => rfl
  | none =>
    cases w with
    | nil => rfl
    | cons c w =>
      have hc := hw c rfl
      rw [List.nil_append, List.map_cons, splitSign, if_neg fun h => hc (.inr (hminus.mp h)),
        if_neg fun h => hc (.inl (hplus.mp h))]

/-- Drops an underscore in front of a text. -/
def dropSeparator : Text → Text
  | [] => []
  | c :: cs => if c = '_'.toNat then cs else c :: cs

theorem dropSeparator_plain (w : Text) :
    dropSeparator (w.map plainOne) = (dropSeparator w).map plainOne := by
  have hseparator {c : Nat} : plainOne c = '_'.toNat ↔ c = '_'.toNat :=
    plainOne_eq_iff (by decide) (by decide) (by decide)
  cases w with
  | nil => rfl
  | cons c w =>
    rw [List.map_cons, dropSeparator, dropSeparator, apply_ite (List.map plainOne)]
    exact if_congr hseparator rfl rfl

theorem dropBaseMark_eq (z x : CodePoint) (rest : Text) :
    dropBaseMark 16 (z :: x :: rest) =
      if z = '0'.toNat ∧ (x = 'x'.toNat ∨ x = 'X'.toNat) then dropSeparator rest
      else z :: x :: rest := by
  cases rest <;> exact if_congr (and_iff_right rfl) rfl rfl

theorem dropBaseMark_cons (z x : Nat) (rest : Text) :
    dropBaseMark 16 ((z :: x :: rest).map plainOne) =
      if hexDigit? z = some 0 ∧ (x = 'x'.toNat ∨ x = 'X'.toNat) then
        (dropSeparator rest).map plainOne
      else (z :: x :: rest).map plainOne := by
  have hletter {m c : Nat} (hm : m = 'x'.toNat ∨ m = 'X'.toNat) : plainOne c = m ↔ c = m := by
    rcases hm with rfl | rfl <;> exact plainOne_eq_iff (by decide) (by decide) (by decide)
  rw [List.map_cons, List.map_cons, dropBaseMark_eq, dropSeparator_plain]
  refine if_congr ?_ rfl rfl
  rw [plainOne_zero_iff, hletter (.inl rfl), hletter (.inr rfl)]

/-- The mark of the base is dropped. -/
theorem dropBaseMark_plain (w : Text) : ∃ mark digits, w = mark ++ digits ∧ HexMark mark ∧
    dropBaseMark 16 (w.map plainOne) = digits.map plainOne := by
  match w with
  | [] => exact ⟨[], [], rfl, .none, rfl⟩
  | [c] => exact ⟨[], [c], rfl, .none, rfl⟩
  | z :: x :: rest =>
    rw [dropBaseMark_cons]
    split
    · rename_i hmark
      cases rest with
      | nil => exact ⟨[z, x], [], rfl, .marked hmark.1 hmark.2, rfl⟩
      | cons c cs =>
        rw [dropSeparator]
        split
        · rename_i hc
          obtain rfl := hc
          exact ⟨[z, x, '_'.toNat], cs, rfl, .separated hmark.1 hmark.2, rfl⟩
        · exact ⟨[z, x], c :: cs, rfl, .marked hmark.1 hmark.2, rfl⟩
    · exact ⟨[], z :: x :: rest, rfl, .none, rfl⟩

theorem dropBaseMark_append (hmark : HexMark mark) (hrun : HexRun true digits ds) :
    dropBaseMark 16 ((mark ++ digits).map plainOne) = digits.map plainOne := by
  obtain ⟨c, d, w, es, rfl, hc, hrest⟩ := hrun.exists_cons
  have hletter := not_letter_of_hexDigit? hc
  cases hmark with
  | none =>
    cases hrest with
    | nil => rfl
    | @digit _ x _ _ _ digit =>
      have hx := not_letter_of_hexDigit? digit
      rw [List.nil_append, dropBaseMark_cons, if_neg]
      exact fun h => hx (h.2.imp id .inl)
    | separator =>
      rw [List.nil_append, dropBaseMark_cons, if_neg fun h => absurd h.2 (by decide)]
  | marked zero letter =>
    rw [List.cons_append, List.singleton_append, dropBaseMark_cons, if_pos ⟨zero, letter⟩,
      dropSeparator, if_neg fun h => hletter (.inr (.inr h))]
  | separated zero letter =>
    rw [List.cons_append, List.cons_append, List.singleton_append, dropBaseMark_cons,
      if_pos ⟨zero, letter⟩, dropSeparator, if_pos rfl]

end Fronts

/-- The reading, step by step. -/
theorem anyInteger?_of_split {t u digits : Text} {negative : Bool}
    (hsign : splitSign (plain t) = (negative, u))
    (hmark : dropBaseMark 16 u = digits.map plainOne) :
    anyInteger? 16 t = (digitRow? 16 true 0 (digits.map plainOne)).map (signed negative) := by
  rw [anyInteger?, hsign]
  dsimp only
  rw [hmark]
  rfl

/-- A code point that a written integer can begin with, behind the blanks. -/
def IsHexStart (c : CodePoint) : Prop :=
  (c = '+'.toNat ∨ c = '-'.toNat) ∨ ∃ d, hexDigit? c = some d

theorem IsHexStart.not_blank {c : CodePoint} (h : IsHexStart c) : isOuterBlank c = false := by
  rcases h with hsign | ⟨d, hd⟩
  · exact not_isOuterBlank_of_sign hsign
  · exact not_isOuterBlank_of_hexDigit? hd

section Integers

variable {sign mark digits : Text} {negative : Bool} {ds : List Nat} {c : CodePoint}

/-- An integer begins with a digit, behind its sign. -/
theorem exists_hexDigit?_of_head (hmark : HexMark mark) (hrun : HexRun true digits ds)
    (hc : c ∈ (mark ++ digits).head?) : ∃ d, hexDigit? c = some d := by
  obtain ⟨b, d, w, es, rfl, hb, -⟩ := hrun.exists_cons
  cases hmark with
  | none =>
    obtain rfl := Option.some.inj hc
    exact ⟨d, hb⟩
  | marked zero | separated zero =>
    obtain rfl := Option.some.inj hc
    exact ⟨0, zero⟩

theorem isHexStart_of_head (hsign : Sign sign negative) (hmark : HexMark mark)
    (hrun : HexRun true digits ds) (hc : c ∈ (sign ++ mark ++ digits).head?) : IsHexStart c := by
  cases hsign with
  | none => exact .inr (exists_hexDigit?_of_head hmark hrun hc)
  | plus =>
    obtain rfl := Option.some.inj hc
    exact .inl (.inl rfl)
  | minus =>
    obtain rfl := Option.some.inj hc
    exact .inl (.inr rfl)

/-- An integer ends with a digit, before the blanks behind it. -/
theorem exists_hexDigit?_of_getLast? {front : Text} (hrun : HexRun true digits ds)
    (hc : c ∈ (front ++ digits).getLast?) : ∃ d, hexDigit? c = some d := by
  obtain ⟨b, d, w, es, rfl, -, -⟩ := hrun.exists_cons
  refine hrun.getLast? ?_
  rwa [List.getLast?_append, List.getLast?_cons, Option.some_or, ← List.getLast?_cons] at hc

theorem HexRun.ne_nil (h : HexRun true digits ds) : digits ≠ [] := by
  obtain ⟨b, d, w, es, rfl, -, -⟩ := h.exists_cons
  exact List.cons_ne_nil b w

end Integers

/-- **What is read in base sixteen**: the written integers, and nothing else. -/
theorem anyInteger?_eq_some_iff {t : Text} {i : Int} :
    anyInteger? 16 t = some i ↔ Hexadecimal t i := by
  constructor
  · intro h
    obtain ⟨before, behind, ht, hbefore, hbehind⟩ := Text.exists_dropped isOuterBlank t
    obtain ⟨sign, rest, negative, hrest, hsign, hsplit⟩ :=
      splitSign_plain (Text.dropRightWhile isOuterBlank (t.dropWhile isOuterBlank))
    obtain ⟨mark, digits, rfl, hmark, hdropped⟩ := dropBaseMark_plain rest
    rw [anyInteger?_of_split ((congrArg splitSign (plain_eq t)).trans hsplit) hdropped] at h
    obtain ⟨n, hn, rfl⟩ := Option.map_eq_some_iff.mp h
    obtain ⟨ds, hrun, rfl⟩ := digitRow?_eq_some_iff.mp hn
    rw [ht, hrest, ← List.append_assoc sign, ← ofDigits_reverse]
    exact .mk hbefore hsign hmark hrun hbehind
  · rintro ⟨hbefore, hsign, hmark, hrun, hbehind⟩
    rename_i before sign mark digits behind negative ds
    have hhead : ∀ c ∈ (sign ++ mark ++ digits).head?, isOuterBlank c = false := fun c hc =>
      (isHexStart_of_head hsign hmark hrun hc).not_blank
    have hlast : ∀ c ∈ (sign ++ mark ++ digits).getLast?, isOuterBlank c = false := by
      intro c hc
      obtain ⟨d, hd⟩ := exists_hexDigit?_of_getLast? hrun hc
      exact not_isOuterBlank_of_hexDigit? hd
    have hdigit : ∀ c ∈ (mark ++ digits).head?, ¬(c = '+'.toNat ∨ c = '-'.toNat) := by
      intro c hc
      obtain ⟨d, hd⟩ := exists_hexDigit?_of_head hmark hrun hc
      exact not_sign_of_hexDigit? hd
    have hne : sign ++ mark ++ digits ≠ [] := List.append_ne_nil_of_right_ne_nil _ hrun.ne_nil
    have hplain : plain (before ++ (sign ++ mark ++ digits) ++ behind) =
        (sign ++ (mark ++ digits)).map plainOne := by
      rw [plain_eq, Text.dropped_append hbefore hbehind hhead hlast hne, List.append_assoc]
    have hsplit := splitSign_append hsign hdigit
    have hread : digitRow? 16 true 0 (digits.map plainOne) =
        some (ds.foldl (fun n d => 16 * n + d) 0) := digitRow?_eq_some_iff.mpr ⟨ds, hrun, rfl⟩
    rw [anyInteger?_of_split ((congrArg splitSign hplain).trans hsplit)
      (dropBaseMark_append hmark hrun), ofDigits_reverse, hread]
    rfl

/-- A written integer begins with a blank, a sign or a digit. -/
theorem Hexadecimal.head {t : Text} {i : Int} {c : CodePoint} (h : Hexadecimal t i)
    (hc : c ∈ t.head?) : isOuterBlank c = true ∨ IsHexStart c := by
  obtain ⟨hbefore, hsign, hmark, hrun, -⟩ := h
  rename_i before sign mark digits behind negative ds
  cases before with
  | nil =>
    have hne : sign ++ mark ++ digits ≠ [] := List.append_ne_nil_of_right_ne_nil _ hrun.ne_nil
    obtain ⟨b, core, hcore⟩ := List.exists_cons_of_ne_nil hne
    refine .inr (isHexStart_of_head hsign hmark hrun ?_)
    rw [hcore] at hc ⊢
    exact hc
  | cons b before =>
    obtain rfl := Option.some.inj hc
    exact .inl (hbefore b List.mem_cons_self)

/-- What is written stands for one integer. -/
theorem Hexadecimal.unique {t : Text} {i j : Int} (h : Hexadecimal t i) (h' : Hexadecimal t j) :
    i = j :=
  Option.some.inj ((anyInteger?_eq_some_iff.mpr h).symm.trans (anyInteger?_eq_some_iff.mpr h'))

end Number

namespace Text

variable {width n : Nat} {c : CodePoint}

theorem hexValue?_of_mem_toDigits {d : Char} (h : d ∈ Nat.toDigits 16 n) :
    (hexValue? d.toNat).isSome = true := by
  have hdigit : ∀ m < 16, (hexValue? (Nat.digitChar m).toNat).isSome = true := by decide
  -- The last digit is the remainder, and the ones before it are those of the quotient.
  induction n using Nat.strong_induction_on with
  | _ n ih =>
    rw [Nat.toDigits_eq_if (by decide)] at h
    split at h
    · rename_i hn
      rw [List.mem_singleton.mp h]
      exact hdigit n hn
    · rename_i hn
      rcases List.mem_append.mp h with h | h
      · exact ih _ (Nat.div_lt_self (by omega) (by decide)) h
      · rw [List.mem_singleton.mp h]
        exact hdigit _ (Nat.mod_lt n (by decide))

/-- A number in hexadecimal is a row of hexadecimal digits. -/
theorem hexValue?_of_mem_hex (h : c ∈ hex width n) : (hexValue? c).isSome = true := by
  rcases List.mem_append.mp h with h | h
  · rw [List.eq_of_mem_replicate h]
    rfl
  · obtain ⟨d, hd, rfl⟩ := List.mem_map.mp h
    exact hexValue?_of_mem_toDigits hd

theorem hex_ne_nil (width n : Nat) : hex width n ≠ [] := by
  simp [hex, Nat.toDigits_ne_nil]

theorem length_hex_le {limit : Nat} (hlimit : 0 < limit) (hwidth : width ≤ limit)
    (h : n < 16 ^ limit) : width ≤ (hex width n).length ∧ (hex width n).length ≤ limit := by
  have hshort := (Nat.length_toDigits_le_iff (by decide) hlimit).mpr h
  rw [hex, List.length_append, List.length_replicate, List.length_map]
  omega

/-- A number that has so many hexadecimal digits at most is filled up to as many. -/
theorem length_hex (hwidth : 0 < width) (h : n < 16 ^ width) : (hex width n).length = width :=
  let ⟨hlow, hhigh⟩ := length_hex_le hwidth le_rfl h
  le_antisymm hhigh hlow

end Text

end Conform
