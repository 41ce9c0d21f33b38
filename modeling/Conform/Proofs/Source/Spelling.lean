import Conform.Proofs.Checking.Refinement
import Conform.Proofs.Source.Scanning

/-!
# What tokens stand for

A token stands for a value that the text under it determines. Names and marks stand for their own
text, a number for its digits, a regular expression for its body and flags, and a string literal for
the code points that it quotes or escapes. The relation is told without the scanner: what the
scanner finds is written so, and what is written so is found by the scanner.

## Main definitions

- `Regex.IsBody` — bodies of regular expressions
- `Token.Written` — what a text stands for as a token
- `Token.Ends` — what follows a token
- `Piece.scan_written` — the scanner finds tokens as they are written
- `Token.Written.unique` — a text stands for one value at most
-/

namespace Conform

/-- What a text stands for as a token of a kind. -/
inductive Token.Written : TokenKind → (text value : Text) → Prop
  | name {w : Text} (name : w.IsIdentifier) : Written .identifier w w
  | decimal {w : Text} (decimal : w.IsDecimal) : Written .number w w.withoutSeparators
  | hexadecimal {x : CodePoint} {digits : Text} (mark : x = 'x'.toNat ∨ x = 'X'.toNat)
      (hex : digits.IsHex) :
      Written .number ('0'.toNat :: x :: digits) (Text.ofNat digits.hexInteger)
  | string {quote : CodePoint} {body value : Text}
      (opens : quote = '"'.toNat ∨ quote = '\''.toNat ∨ quote = '`'.toNat)
      (quoted : Text.Quotes quote body value) : Written .string (quote :: (body ++ [quote])) value
  | regex {body flags : Text} (nonempty : body ≠ []) (uncommented : body.head? ≠ some '*'.toNat)
      (isBody : Regex.IsBody false body) (areFlags : Regex.AreFlags flags) :
      Written .regex (Regex.written body flags) (body ++ '/'.toNat :: flags)
  | arrow : Written .fatArrow "=>" "=>"
  | spread : Written .spread "..." "..."
  | mark {c : CodePoint} {kind : TokenKind} (mark : Piece.punctuation? c = some kind) :
      Written kind [c] [c]

/-- What follows a token does not go on with it. -/
def Token.Ends (kind : TokenKind) (w rest : Text) : Prop :=
  match kind with
  | .identifier => ∀ c ∈ rest.head?, Piece.isIdentifierPart c = false
  | .number =>
    (w.IsDecimal → Piece.EndsDecimal w rest) ∧
      (¬w.IsDecimal → ∀ c ∈ rest.head?, Text.hexValue? c = none)
  | .regex => ∀ c ∈ rest.head?, Text.isLetter c = false
  | .operator => w = ['='.toNat] → ∀ c ∈ rest.head?, c ≠ '>'.toNat
  | .dot => ¬['.'.toNat, '.'.toNat] <+: rest ∧ ∀ c ∈ rest.head?, Text.isDigit c = false
  | _ => True

/-- The mark of a hexadecimal number stands in no decimal one. -/
theorem Text.not_isDecimal_hex {z x : CodePoint} {w : Text}
    (h : x = 'x'.toNat ∨ x = 'X'.toNat) : ¬Text.IsDecimal (z :: x :: w) := by
  rintro ⟨-, whole, fraction, exponent, hparts, hwhole, hfraction, hexponent⟩
  have hmem : x ∈ whole ++ fraction ++ exponent :=
    hparts ▸ List.mem_cons_of_mem z List.mem_cons_self
  exact Piece.ne_hexMark hwhole hfraction hexponent hmem h

namespace Piece

variable {c : CodePoint} {cs value : Text} {kind : TokenKind} {n : Nat}

theorem number_written (hstarts : Text.StartsNumber (c :: cs))
    (h : number (c :: cs) = .ok (.token kind value n)) :
    ∃ w rest, cs = w ++ rest ∧ w.length = n ∧ Token.Written kind (c :: w) value ∧
      Token.Ends kind (c :: w) rest := by
  have hdecimal (h : decimalNumber (c :: cs) = .ok (.token kind value n)) :
      ∃ w rest, cs = w ++ rest ∧ w.length = n ∧ Token.Written kind (c :: w) value ∧
        Token.Ends kind (c :: w) rest := by
    obtain ⟨w, rest, hsplit, rfl, rfl, rfl, hw, hends⟩ := decimalNumber_eq hstarts h
    cases w with
    | nil =>
      obtain ⟨_, _, _, hnil | hnil⟩ := hw.starts <;> exact nomatch hnil
    | cons d w =>
      obtain ⟨rfl, rfl⟩ := List.cons.inj hsplit
      exact ⟨w, rest, rfl, rfl, .decimal hw, fun _ => hends, fun hnot => absurd hw hnot⟩
  unfold number at h
  split at h
  · rename_i z x more htext
    obtain ⟨rfl, rfl⟩ := List.cons.inj htext
    split at h
    · rename_i hmark
      obtain ⟨rfl, hx⟩ := hmark
      obtain ⟨digits, rest, rfl, rfl, hhex, rfl, rfl, hends⟩ := hexNumber_eq h
      exact ⟨x :: digits, rest, rfl, rfl, .hexadecimal hx hhex,
        fun hdecimal => absurd hdecimal (Text.not_isDecimal_hex hx), fun _ => hends⟩
    · exact hdecimal h
  · exact hdecimal h

/-- The marks that are tokens of their own. -/
def marks : Text := "(){}[]:,;.-+=<>!&|?*%^~@#"

theorem mem_marks (h : punctuation? c = some kind) : c ∈ marks := by
  have hite {P : Prop} [Decidable P] {a b : Option TokenKind} (ha : P → c ∈ marks)
      (hb : b = some kind → c ∈ marks) (hab : (if P then a else b) = some kind) : c ∈ marks := by
    split at hab
    · exact ha (by assumption)
    · exact hb hab
  revert h
  unfold punctuation?
  iterate 12
    refine hite (fun hc => ?_) ?_
    · rw [hc]
      decide
  refine hite (fun hc => ?_) nofun
  exact (by decide : ∀ c ∈ Text.ofString "=<>!&|?*%^~@#", c ∈ marks) c hc

theorem mark_written (hpoint : c = '.'.toNat → ∀ d ∈ cs.head?, Text.isDigit d = false)
    (h : mark c cs = .ok (.token kind value n)) :
    ∃ w rest, cs = w ++ rest ∧ w.length = n ∧ Token.Written kind (c :: w) value ∧
      Token.Ends kind (c :: w) rest := by
  unfold mark at h
  split at h
  · rename_i harrow
    obtain ⟨rfl, hnext⟩ := harrow
    obtain ⟨rest, rfl⟩ := (Text.startsWith_iff _ _).mp hnext
    cases h
    exact ⟨['>'.toNat], rest, rfl, rfl, .arrow, trivial⟩
  rename_i hequal
  split at h
  · rename_i hspread
    obtain ⟨rfl, hnext⟩ := hspread
    obtain ⟨rest, rfl⟩ := (Text.startsWith_iff _ _).mp hnext
    cases h
    exact ⟨['.'.toNat, '.'.toNat], rest, rfl, rfl, .spread, trivial⟩
  rename_i hspread
  split at h
  · rename_i found hfound
    cases h
    refine ⟨[], cs, rfl, rfl, .mark hfound, ?_⟩
    obtain ⟨hname, hnumber, hregex, hdot⟩ := (by decide : ∀ c ∈ marks,
      punctuation? c ≠ some .identifier ∧ punctuation? c ≠ some .number ∧
        punctuation? c ≠ some .regex ∧ (punctuation? c = some .dot → c = '.'.toNat))
      c (mem_marks hfound)
    cases kind with
    | identifier => exact absurd hfound hname
    | number => exact absurd hfound hnumber
    | regex => exact absurd hfound hregex
    | operator =>
      intro hc d hd hmark
      obtain ⟨rest, rfl⟩ := List.head?_eq_some_iff.mp hd
      subst hmark
      exact hequal ⟨List.head_eq_of_cons_eq hc, (Text.startsWith_iff _ _).mpr ⟨rest, rfl⟩⟩
    | dot =>
      obtain rfl := hdot hfound
      exact ⟨fun hnext => hspread ⟨rfl, (Text.startsWith_iff _ _).mpr hnext⟩, hpoint rfl⟩
    | _ => trivial
  · exact nomatch h

theorem regex_written (hline : ¬Text.startsWith cs "/" = true)
    (hblock : ¬Text.startsWith cs "*" = true) (h : regex cs = .ok (.token kind value n)) :
    ∃ w rest, cs = w ++ rest ∧ w.length = n ∧ Token.Written kind ('/'.toNat :: w) value ∧
      Token.Ends kind ('/'.toNat :: w) rest := by
  obtain ⟨body, flags, rest, rfl, rfl, rfl, rfl, hbody, hflags, hends⟩ := regex_eq_ok h
  refine ⟨body ++ '/'.toNat :: flags, rest, by simp, rfl, .regex ?_ ?_ hbody hflags, hends⟩
  · rintro rfl
    exact hline (startsWith_cons _ _ _)
  · intro hhead
    obtain ⟨more, rfl⟩ := List.head?_eq_some_iff.mp hhead
    exact hblock (startsWith_cons _ _ _)

/-- What the scanner finds is written as such, in front of a rest that does not go on with it. -/
theorem scan_written (h : scan c cs = .ok (.token kind value n)) :
    ∃ w rest, cs = w ++ rest ∧ w.length = n ∧ Token.Written kind (c :: w) value ∧
      Token.Ends kind (c :: w) rest := by
  unfold scan at h
  split at h
  · cases h
  split at h
  · cases h
  split at h
  · split at h <;> cases h
  split at h
  · rename_i hstart
    cases h
    refine ⟨_, _, List.takeWhile_append_dropWhile.symm, rfl, .name ⟨hstart, fun d hd => ?_⟩,
      fun d hd => ?_⟩
    · exact List.mem_takeWhile_imp hd
    · have hnot := List.head?_dropWhile_not isIdentifierPart cs
      rw [hd] at hnot
      exact hnot
  split at h
  · rename_i hdigit
    refine number_written ?_ h
    rcases Bool.or_eq_true_iff.mp hdigit with hc | hpoint
    · exact ⟨c, cs, hc, .inl rfl⟩
    · obtain ⟨hc, hnext⟩ := Bool.and_eq_true_iff.mp hpoint
      obtain rfl := beq_iff_eq.mp hc
      cases cs with
      | nil => exact nomatch hnext
      | cons d cs => exact ⟨d, cs, hnext, .inr rfl⟩
  rename_i hdigit
  split at h
  · rename_i hquote
    obtain ⟨body, part, rest, rfl, hlength, rfl, rfl, hquotes⟩ := stringRest_eq h
    refine ⟨body ++ [c], rest, by simp, ?_, .string hquote hquotes, trivial⟩
    rw [List.length_append, List.length_singleton]
    omega
  split at h
  · rename_i hline hblock _ _ hslash
    subst hslash
    exact regex_written (fun hs => hline ⟨rfl, hs⟩) (fun hs => hblock ⟨rfl, hs⟩) h
  · refine mark_written (fun hc d hd => ?_) h
    subst hc
    rw [hd] at hdigit
    exact ((by simpa using hdigit : Text.isDigit '.'.toNat = false ∧ Text.isDigit d = false)).2

/-- A mark is found as such, unless it goes on as an arrow, a spread or a number. -/
theorem scan_mark (h : punctuation? c = some kind)
    (hequal : c = '='.toNat → ∀ d ∈ cs.head?, d ≠ '>'.toNat)
    (hpoint : c = '.'.toNat →
      ¬['.'.toNat, '.'.toNat] <+: cs ∧ ∀ d ∈ cs.head?, Text.isDigit d = false) :
    scan c cs = .ok (.token kind [c] 0) := by
  obtain ⟨hblank, hslash, hstart, hdigit, hquote⟩ :=
    (by decide : ∀ c ∈ marks, Text.isBlank c = false ∧ c ≠ '/'.toNat ∧
      isIdentifierStart c = false ∧ Text.isDigit c = false ∧
      ¬(c = '"'.toNat ∨ c = '\''.toNat ∨ c = '`'.toNat)) c (mem_marks h)
  have hnumber : ¬(Text.isDigit c || (c == '.'.toNat &&
      (cs.head?.map Text.isDigit).getD false)) = true := by
    rw [hdigit, Bool.false_or, Bool.and_eq_true, beq_iff_eq]
    rintro ⟨hc, hnext⟩
    cases cs with
    | nil => exact nomatch hnext
    | cons d cs => exact absurd (hnext.symm.trans ((hpoint hc).2 d rfl)) (by decide)
  have harrow : ¬(c = '='.toNat ∧ Text.startsWith cs ">" = true) := by
    rintro ⟨hc, hnext⟩
    obtain ⟨rest, rfl⟩ := (Text.startsWith_iff _ _).mp hnext
    exact hequal hc '>'.toNat rfl rfl
  have hspread : ¬(c = '.'.toNat ∧ Text.startsWith cs ".." = true) :=
    fun hnext => (hpoint hnext.1).1 ((Text.startsWith_iff _ _).mp hnext.2)
  rw [scan, if_neg (by simp [hblank]), if_neg fun h => hslash h.1, if_neg fun h => hslash h.1,
    if_neg (by simp [hstart]), if_neg hnumber, if_neg hquote, if_neg hslash, mark,
    if_neg harrow, if_neg hspread, h]

theorem punctuation_equal : punctuation? '='.toNat = some .operator := rfl

theorem punctuation_point : punctuation? '.'.toNat = some .dot := rfl

end Piece

/-- What is written as a token is found by the scanner in front of what does not go on with it. -/
theorem Token.Written.scan_append {kind : TokenKind} {w value rest : Text}
    (h : Written kind w value) (hends : Ends kind w rest) :
    ∃ c cs, w = c :: cs ∧ Piece.scan c (cs ++ rest) = .ok (.token kind value cs.length) := by
  cases h with
  | @name w name =>
    cases w with
    | nil => exact name.elim
    | cons c cs => exact ⟨c, cs, rfl, Piece.scan_name name hends⟩
  | @decimal w decimal =>
    have hnumber := Piece.number_append decimal (hends.1 decimal)
    obtain ⟨c, cs, hc, rfl | rfl⟩ := decimal.starts
    · exact ⟨c, cs, rfl, (Piece.scan_digit hc _).trans hnumber⟩
    · have hscan : Piece.scan '.'.toNat (c :: cs ++ rest) =
          Piece.number ('.'.toNat :: c :: cs ++ rest) := by
        rw [Piece.scan, if_neg (by decide), if_neg fun h => absurd h.1 (by decide),
          if_neg fun h => absurd h.1 (by decide), if_neg (by decide), if_pos (by simp [hc])]
        rfl
      exact ⟨'.'.toNat, c :: cs, rfl, hscan.trans hnumber⟩
  | @hexadecimal x digits mark hex =>
    refine ⟨'0'.toNat, x :: digits, rfl, ?_⟩
    rw [Piece.scan_digit (by decide), List.cons_append, Piece.number, if_pos ⟨rfl, mark⟩,
      Piece.hexNumber_append hex (hends.2 (Text.not_isDecimal_hex mark))]
    rfl
  | @string quote body value opens quoted =>
    refine ⟨quote, body ++ [quote], rfl, ?_⟩
    have hscan : Piece.scan quote (body ++ [quote] ++ rest) =
        Piece.stringRest quote 0 1 [] (body ++ quote :: rest) := by
      rw [List.append_assoc, List.singleton_append]
      rcases opens with rfl | rfl | rfl <;> rfl
    have hquote : quote ≠ '\\'.toNat ∧ quote ≠ 0x7B := by
      rcases opens with rfl | rfl | rfl <;> decide
    rw [hscan, Piece.stringRest_append hquote quoted, List.length_append, List.length_singleton,
      Nat.add_comm]
    rfl
  | @regex body flags nonempty uncommented isBody areFlags =>
    refine ⟨'/'.toNat, body ++ '/'.toNat :: flags, rfl, ?_⟩
    obtain ⟨c, more, rfl⟩ := List.exists_cons_of_ne_nil nonempty
    have hline : ¬Text.startsWith (c :: more ++ '/'.toNat :: flags ++ rest) "/" = true := by
      intro hslash
      obtain rfl := of_decide_eq_true ((startsWith_cons c '/'.toNat _).symm.trans hslash)
      cases isBody with
      | plain _ _ inside => exact absurd (inside rfl) (by decide)
    have hblock : ¬Text.startsWith (c :: more ++ '/'.toNat :: flags ++ rest) "*" = true := by
      intro hstar
      obtain rfl := of_decide_eq_true ((startsWith_cons c '*'.toNat _).symm.trans hstar)
      exact uncommented rfl
    have hregex := Piece.regex_append isBody areFlags hends
    rw [Piece.scan_regex hline hblock, ← hregex, List.append_assoc, List.cons_append]
    rfl
  | arrow => exact ⟨_, _, rfl, rfl⟩
  | spread => exact ⟨_, _, rfl, rfl⟩
  | @mark c kind mark =>
    refine ⟨c, [], rfl, Piece.scan_mark mark ?_ ?_⟩
    · rintro rfl
      cases Piece.punctuation_equal.symm.trans mark
      exact hends rfl
    · rintro rfl
      cases Piece.punctuation_point.symm.trans mark
      exact hends

theorem Token.ends_nil (kind : TokenKind) (w : Text) : Ends kind w [] := by
  have hnumber : Piece.EndsNumber [] := nofun
  cases kind with
  | number => exact ⟨fun _ => hnumber.decimal w, fun _ => nofun⟩
  | _ => simp [Ends]

/-- What is written as a token is found by the scanner where nothing follows it. -/
theorem Token.Written.scan {kind : TokenKind} {w value : Text} (h : Written kind w value) :
    ∃ c cs, w = c :: cs ∧ Piece.scan c cs = .ok (.token kind value cs.length) := by
  obtain ⟨c, cs, rfl, hscan⟩ := h.scan_append (ends_nil kind w)
  rw [List.append_nil] at hscan
  exact ⟨c, cs, rfl, hscan⟩

/-- A text is a token of one kind at most, and stands for one value. -/
theorem Token.Written.unique {kind kind' : TokenKind} {w value value' : Text}
    (h : Written kind w value) (h' : Written kind' w value') : kind = kind' ∧ value = value' := by
  obtain ⟨c, cs, rfl, hscan⟩ := h.scan
  obtain ⟨d, ds, htext, hscan'⟩ := h'.scan
  obtain ⟨rfl, rfl⟩ := List.cons.inj htext
  cases hscan.symm.trans hscan'
  exact ⟨rfl, rfl⟩

end Conform
