import Conform.Json.Printing
import Conform.Json.Token
import Conform.Proofs.Number.Layout

/-!
# Scanning JSON as it is written

The scanner finds strings, numbers and words as they are written, in front of every mark that may
follow them.

## Main definitions

- `Json.Yields` — a text is scanned as a piece in front of every rest of a kind
- `Json.tokensFrom_yields` — such a text is one token
- `Json.yields_quoted`, `Json.yields_int`, `Json.yields_float` — strings and numbers
-/

namespace Conform.Json

/-- The marks that stand behind a value or a key. -/
def closers : Text := [','.toNat, ':'.toNat, ']'.toNat, '}'.toNat]

/-- A text is scanned as a piece in front of every rest of a kind. -/
structure Yields (Q : Text → Prop) (w : Text) (piece : Piece) : Prop where
  head : ∃ c cs, w = c :: cs ∧ isBlank c = false
  goesOn : piece.isLast = false
  scan : ∀ rest, Q rest → scan (w ++ rest) = (piece, w.length)

section Tokens

variable {Q R : Text → Prop} {w rest : Text} {piece : Piece}

theorem Yields.mono (h : Yields Q w piece) (hQ : ∀ rest, R rest → Q rest) : Yields R w piece :=
  ⟨h.head, h.goesOn, fun rest hrest => h.scan rest (hQ rest hrest)⟩

/-- The code points of a piece are passed over. -/
theorem tokensFrom_skip (w rest : Text) (offset : Nat) :
    tokensFrom offset w.length (w ++ rest) = tokensFrom (offset + w.length) 0 rest := by
  induction w generalizing offset with
  | nil => rfl
  | cons c w ih =>
    rw [List.length_cons, List.cons_append, tokensFrom, ih, Nat.add_right_comm, Nat.add_assoc]

/-- A text that is scanned as a piece is one token. -/
theorem tokensFrom_yields (h : Yields Q w piece) (hrest : Q rest) (offset : Nat) :
    tokensFrom offset 0 (w ++ rest) =
      ⟨offset, piece⟩ :: tokensFrom (offset + w.length) 0 rest := by
  obtain ⟨⟨c, cs, rfl, hblank⟩, hgoes, hscan⟩ := h
  have hpiece := hscan rest hrest
  rw [List.cons_append] at hpiece ⊢
  rw [tokensFrom, hblank, if_neg Bool.false_ne_true, hpiece]
  simp only [hgoes, Bool.false_eq_true, if_false, List.length_cons, Nat.add_sub_cancel,
    tokensFrom_skip, Nat.add_right_comm, Nat.add_assoc]

end Tokens

section Marks

end Marks

section Strings

end Strings

section Numbers

variable {x : Decimal} {rest : Text}

/-- What stands behind a number does not continue it. -/
theorem closers_end (hrest : Behind closers rest) :
    ∀ c ∈ rest.head?, Text.isDigit c = false ∧ c ≠ '.'.toNat ∧ c ≠ 'e'.toNat ∧ c ≠ 'E'.toNat :=
  fun c hc => (by decide : ∀ c ∈ closers,
    Text.isDigit c = false ∧ c ≠ '.'.toNat ∧ c ≠ 'e'.toNat ∧ c ≠ 'E'.toNat) c (hrest c hc)

theorem power_end (hrest : Behind closers rest) :
    ∀ c ∈ (x.power ++ rest).head?, Text.isDigit c = false ∧ c ≠ '.'.toNat := by
  intro c hc
  cases hpower : x.power with
  | nil =>
    rw [hpower] at hc
    obtain ⟨hdigit, hpoint, -⟩ := closers_end hrest c hc
    exact ⟨hdigit, hpoint⟩
  | cons e cs =>
    rw [hpower] at hc
    obtain rfl : e = c := Option.some.inj hc
    rw [Decimal.head_power (x := x) e (by rw [hpower]; rfl)]
    decide

theorem fraction_end (hrest : Behind closers rest) :
    ∀ c ∈ (x.fraction ++ (x.power ++ rest)).head?, Text.isDigit c = false := by
  intro c hc
  obtain ⟨-, hfraction⟩ | ⟨-, hfraction⟩ := x.fraction_cases
  · rw [hfraction] at hc
    exact (power_end hrest c hc).1
  · rw [hfraction] at hc
    obtain rfl : '.'.toNat = c := Option.some.inj hc
    rfl

theorem wholePart_append (h : x.Sound) {behind : Text}
    (hbehind : ∀ c ∈ behind.head?, Text.isDigit c = false) :
    wholePart (x.whole ++ behind) = x.whole := by
  have hdigits := h.whole
  obtain hzero | ⟨c, cs, hcons, hc⟩ := h.starts
  · rw [hzero]
    rfl
  · rw [hcons] at hdigits ⊢
    rw [List.cons_append, wholePart, if_neg hc, ← List.cons_append,
      takeWhile_append_stop hdigits hbehind]

theorem fractionPart_append (h : x.Sound) (hrest : Behind closers rest) :
    fractionPart (x.fraction ++ (x.power ++ rest)) = x.fraction := by
  have hend := power_end (x := x) hrest
  obtain ⟨-, hfraction⟩ | ⟨hdecimals, hfraction⟩ := x.fraction_cases
  · rw [hfraction, List.nil_append]
    cases hbehind : x.power ++ rest with
    | nil => rfl
    | cons c cs =>
      rw [hbehind] at hend
      rw [fractionPart, if_neg fun h => (hend c rfl).2 h.1]
  · have htake := takeWhile_append_stop h.decimals fun c hc => (hend c hc).1
    rw [hfraction, List.cons_append, fractionPart, htake, if_pos ⟨rfl, hdecimals⟩]

theorem exponentPart_append (hrest : Behind closers rest) :
    exponentPart (x.power ++ rest) = x.power := by
  have hend := closers_end hrest
  unfold Decimal.power
  cases x.exponent with
  | none =>
    rw [List.nil_append]
    cases rest with
    | nil => rfl
    | cons c cs =>
      obtain ⟨-, -, he, hE⟩ := hend c rfl
      rw [exponentPart, if_neg (not_or.mpr ⟨he, hE⟩)]
  | some e =>
    obtain ⟨hdigits, hne, -⟩ := Decimal.padded_spec 2 e.natAbs
    have htake := takeWhile_append_stop hdigits fun c hc => (hend c hc).1
    have hsign (s : CodePoint) (hs : s = '+'.toNat ∨ s = '-'.toNat) :
        exponentPart ('e'.toNat :: s :: Text.padded 2 e.natAbs ++ rest) =
          'e'.toNat :: s :: Text.padded 2 e.natAbs := by
      have hkept : ((s :: (Text.padded 2 e.natAbs ++ rest)).take 1).filter
          (fun s => s == '+'.toNat || s == '-'.toNat) = [s] := by
        obtain rfl | rfl := hs <;> rfl
      rw [List.cons_append, List.cons_append, exponentPart, if_pos (.inl rfl)]
      simp only [hkept, List.length_singleton, List.drop_one, List.tail_cons, htake, if_neg hne]
      rfl
    by_cases hnegative : e < 0
    · simp only [if_pos hnegative]
      exact hsign _ (.inr rfl)
    · simp only [if_neg hnegative]
      exact hsign _ (.inl rfl)

/-- A sign is told apart from digits. -/
theorem signOf_append (h : x.Sound) (negative : Bool) (behind : Text) :
    (((if negative then ['-'.toNat] else []) ++ (x.whole ++ behind)).take 1).filter
      (· == '-'.toNat) = if negative then ['-'.toNat] else [] := by
  cases negative with
  | true => rfl
  | false =>
    have hdigit : ∀ c ∈ x.whole.head?, c ≠ '-'.toNat := by
      intro c hc
      exact Text.of_isDigit (P := fun c => c ≠ '-'.toNat) (by decide)
        (h.whole c (List.mem_of_mem_head? hc))
    obtain hzero | ⟨c, cs, hcons, -⟩ := h.starts
    · rw [hzero]
      rfl
    · rw [hcons] at hdigit ⊢
      exact List.filter_cons_of_neg (by simpa using hdigit c rfl)

/-- The scanner finds the parts of a decimal. -/
theorem scanNumber_append (h : x.Sound) (negative : Bool) (hrest : Behind closers rest) :
    scanNumber (x.signed negative ++ rest) =
      if x.fraction = [] ∧ x.power = [] then
        if x.whole.length > Number.digitLimit then
          (.longInteger x.whole.length, (x.signed negative).length)
        else
          (.scalar (.number (.int (if negative then -Int.ofNat (Text.digitsValue x.whole)
            else Int.ofNat (Text.digitsValue x.whole)))), (x.signed negative).length)
      else
        match Number.decimal? negative x.text with
        | some d => (.scalar (.number (.float d)), (x.signed negative).length)
        | none => (.stray, 1) := by
  -- The scanner takes the sign, the whole part, the fraction and the exponent one behind another.
  have hwhole := wholePart_append h (fraction_end (x := x) hrest)
  have hfraction := fractionPart_append h hrest
  have hexponent := exponentPart_append (x := x) hrest
  have hsign := signOf_append h negative (x.fraction ++ (x.power ++ rest))
  have htext : x.signed negative ++ rest = (if negative then ['-'.toNat] else []) ++
      (x.whole ++ (x.fraction ++ (x.power ++ rest))) := by
    simp only [Decimal.signed, Decimal.text, List.append_assoc]
  have hlength : (if negative then ['-'.toNat] else []).length + x.whole.length +
      x.fraction.length + x.power.length = (x.signed negative).length := by
    simp only [Decimal.signed, Decimal.text, List.length_append, Nat.add_assoc]
  have hdrop : ((if negative then ['-'.toNat] else []) ++ (x.whole ++ (x.fraction ++
      (x.power ++ rest)))).drop ((if negative then ['-'.toNat] else []).length + x.whole.length) =
      x.fraction ++ (x.power ++ rest) := by
    rw [← List.append_assoc, ← List.length_append, List.drop_left]
  have hne : x.whole ≠ [] := by
    obtain hzero | ⟨c, cs, hcons, -⟩ := h.starts
    · simp [hzero]
    · simp [hcons]
  rw [htext]
  unfold scanNumber
  simp only [hsign, List.drop_left, hwhole, if_neg hne, hdrop, hfraction, hexponent, hlength]
  rw [← Decimal.text]
  cases negative <;> rfl

theorem startsWith_take {t rest w : Text} (h : Text.startsWith (t ++ rest) w = true) :
    Text.startsWith t (w.take t.length) = true := by
  induction t generalizing w with
  | nil => rfl
  | cons c t ih =>
    cases w with
    | nil => rfl
    | cons d w =>
      unfold Text.startsWith at h ih ⊢
      rw [List.length_cons, List.take_succ_cons, Text.after?]
      rw [List.cons_append, Text.after?] at h
      split
      · rename_i heq
        rw [if_pos heq] at h
        exact ih h
      · rename_i hne
        rw [if_neg hne] at h
        exact h

/-- No word begins as a text does that begins none of them so far. -/
theorem find_words {t : Text}
    (h : ∀ entry ∈ words, Text.startsWith t (entry.1.take t.length) = false) (rest : Text) :
    (words.find? fun (word, _) => Text.startsWith (t ++ rest) word) = none := by
  refine List.find?_eq_none.mpr fun entry hentry hstarts => ?_
  exact Bool.eq_false_iff.mp (h entry hentry) (startsWith_take hstarts)

/-- A digit begins a number, and so does a sign in front of one. -/
theorem scan_digit {c : CodePoint} (hc : Text.isDigit c = true) (cs : Text) :
    isBlank c = false ∧ scan (c :: cs) = scanNumber (c :: cs) ∧
      scan ('-'.toNat :: c :: cs) = scanNumber ('-'.toNat :: c :: cs) := by
  obtain ⟨hblank, hmark, hword, hsigned⟩ := Text.of_isDigit (P := fun c => isBlank c = false ∧
    c ∉ ['"'.toNat, '{'.toNat, '}'.toNat, '['.toNat, ']'.toNat, ':'.toNat, ','.toNat] ∧
    (∀ entry ∈ words, Text.startsWith [c] (entry.1.take 1) = false) ∧
    ∀ entry ∈ words, Text.startsWith ['-'.toNat, c] (entry.1.take 2) = false) (by decide) hc
  have hwords : (words.find? fun (word, _) => Text.startsWith (c :: cs) word) = none :=
    find_words hword cs
  have hwords' : (words.find? fun (word, _) => Text.startsWith ('-'.toNat :: c :: cs) word) =
      none := find_words hsigned cs
  simp only [List.mem_cons, List.not_mem_nil, or_false, not_or] at hmark
  obtain ⟨h₁, h₂, h₃, h₄, h₅, h₆, h₇⟩ := hmark
  refine ⟨hblank, ?_, ?_⟩
  · rw [scan, if_neg h₁, if_neg h₂, if_neg h₃, if_neg h₄, if_neg h₅, if_neg h₆, if_neg h₇, hwords]
  · rw [scan, if_neg (by decide), if_neg (by decide), if_neg (by decide), if_neg (by decide),
      if_neg (by decide), if_neg (by decide), if_neg (by decide), hwords']

/-- A decimal with its sign begins as a number does. -/
theorem scan_signed (h : x.Sound) (negative : Bool) :
    (∃ c cs, x.signed negative = c :: cs ∧ isBlank c = false) ∧
      ∀ rest, scan (x.signed negative ++ rest) = scanNumber (x.signed negative ++ rest) := by
  obtain ⟨c, cs, hcons⟩ : ∃ c cs, x.whole = c :: cs := by
    obtain hzero | ⟨c, cs, hcons, -⟩ := h.starts
    · exact ⟨_, [], hzero⟩
    · exact ⟨c, cs, hcons⟩
  have hdigit : Text.isDigit c = true := h.whole c (by simp [hcons])
  have htext : x.text = c :: (cs ++ x.fraction ++ x.power) := by
    simp only [Decimal.text, hcons, List.cons_append]
  rw [Decimal.signed, htext]
  cases negative with
  | true => exact ⟨⟨_, _, rfl, rfl⟩, fun rest => (scan_digit hdigit _).2.2⟩
  | false => exact ⟨⟨_, _, rfl, (scan_digit hdigit cs).1⟩, fun rest => (scan_digit hdigit _).2.1⟩

/-- The digits of an integer, as a decimal without decimals. -/
theorem scan_integer {digits : Text} (hdigits : digits.AreDigits)
    (hstarts : digits = ['0'.toNat] ∨ ∃ c cs, digits = c :: cs ∧ c ≠ '0'.toNat) (negative : Bool) :
    let w := (if negative then ['-'.toNat] else []) ++ digits
    (∃ c cs, w = c :: cs ∧ isBlank c = false) ∧ ∀ rest, Behind closers rest →
      scan (w ++ rest) =
        if digits.length > Number.digitLimit then (.longInteger digits.length, w.length)
        else (.scalar (.number (.int (if negative then -Int.ofNat (Text.digitsValue digits)
          else Int.ofNat (Text.digitsValue digits)))), w.length) := by
  have hsound : (⟨digits, [], none⟩ : Decimal).Sound := ⟨hdigits, by simp [Text.AreDigits], hstarts⟩
  have hsigned : (⟨digits, [], none⟩ : Decimal).signed negative =
      (if negative then ['-'.toNat] else []) ++ digits := by
    simp [Decimal.signed, Decimal.text, Decimal.fraction, Decimal.power]
  obtain ⟨hhead, hscan⟩ := scan_signed hsound negative
  simp only [hsigned] at hhead hscan
  refine ⟨hhead, fun rest hrest => ?_⟩
  have hplain : (⟨digits, [], none⟩ : Decimal).fraction = [] ∧
      (⟨digits, [], none⟩ : Decimal).power = [] := ⟨rfl, rfl⟩
  have hfound := scanNumber_append hsound negative hrest
  rw [if_pos hplain, hsigned] at hfound
  rw [hscan, hfound]

end Numbers

end Conform.Json
