import Conform.Proofs.Number.Hexadecimal
import Conform.Proofs.Source.Partition

/-!
# Numeric escapes

Behind `\x` and `\u` a string literal has the digits of a code point. The digits are read as any
integer in base sixteen is, so a sign, blanks, a mark of the base and underscores may stand among
them. At the end of the source there may be too few of them, and then the literal is not closed.

## Main definitions

- `Text.ExactEscape` — numeric escapes that consist of digits
- `Text.LooseEscape` — other numeric escapes that are read
- `Token.Passed` — what is read of a source before a place in it
- `Token.NumericEscapeAt` — a numeric escape is reached in a source
- `Token.ofSource_numericEscape` — what becomes of it
-/

namespace Conform

section Writing

/-- How numeric escapes are written: their letter, what follows it, and the digits in that. -/
inductive Text.NumericEscape : (letter : CodePoint) → (written digits : Text) → Prop
  | short {digits : Text} (two : digits.length = 2) : NumericEscape 'x'.toNat digits digits
  | long {digits : Text} (four : digits.length = 4) (unbraced : digits.head? ≠ some 0x7B) :
      NumericEscape 'u'.toNat digits digits
  | braced {digits : Text} (unclosed : 0x7D ∉ digits) :
      NumericEscape 'u'.toNat (0x7B :: (digits ++ [0x7D])) digits

/-- Hexadecimal digits, and at least one. -/
def Text.AreHexDigits (digits : Text) : Prop :=
  digits ≠ [] ∧ ∀ c ∈ digits, (Text.hexValue? c).isSome = true

/-- Numeric escapes that consist of the digits of a code point. -/
def Text.ExactEscape (letter : CodePoint) (written : Text) (c : CodePoint) : Prop :=
  ∃ digits, NumericEscape letter written digits ∧ AreHexDigits digits ∧
    digits.hexInteger = c ∧ c ≤ 0x10FFFF

/-- Numeric escapes in which a code point is written as an integer may be, but not in digits
alone. -/
def Text.LooseEscape (letter : CodePoint) (written : Text) (c : CodePoint) : Prop :=
  ∃ digits, NumericEscape letter written digits ∧ ¬AreHexDigits digits ∧
    Number.Hexadecimal digits (Int.ofNat c) ∧ c ≤ 0x10FFFF

/-- Numeric escapes that are read. -/
def Text.ReadEscape (letter : CodePoint) (written : Text) (c : CodePoint) : Prop :=
  ExactEscape letter written c ∨ LooseEscape letter written c

/-- The source ends before a numeric escape has all of its digits, and those that it has are an
integer. -/
def Text.BrokenOff (letter : CodePoint) (rest : Text) : Prop :=
  rest.length < Piece.escapeWidth letter ∧
    ∃ c, Number.Hexadecimal rest (Int.ofNat c) ∧ c ≤ 0x10FFFF

end Writing

section Reading

variable {letter c : CodePoint} {digits written rest : Text}

theorem Piece.codePointOf?_eq_some_iff :
    codePointOf? digits = some c ↔ Number.Hexadecimal digits (Int.ofNat c) ∧ c ≤ 0x10FFFF := by
  rw [← Number.anyInteger?_eq_some_iff]
  unfold codePointOf?
  constructor
  · intro h
    split at h
    · rename_i n hn
      split at h
      · rename_i hsmall
        obtain rfl := Option.some.inj h
        exact ⟨hn, hsmall⟩
      · cases h
    · cases h
  · rintro ⟨hc, hsmall⟩
    rw [hc]
    exact if_pos hsmall

/-- Digits are an integer without anything around it. -/
theorem Text.AreHexDigits.hexadecimal (h : AreHexDigits digits) :
    Number.Hexadecimal digits (Int.ofNat digits.hexInteger) := by
  have hrun {fresh : Bool} {w : Text} (hw : ∀ c ∈ w, (Text.hexValue? c).isSome = true)
      (hfresh : fresh = true → w ≠ []) :
      Number.HexRun fresh w (w.map fun c => (Text.hexValue? c).getD 0) := by
    induction w generalizing fresh with
    | nil =>
      cases fresh with
      | true => exact (hfresh rfl rfl).elim
      | false => exact .nil
    | cons c w ih =>
      obtain ⟨hc, hw⟩ := List.forall_mem_cons.mp hw
      obtain ⟨d, hd⟩ := Option.isSome_iff_exists.mp hc
      rw [List.map_cons, hd]
      exact .digit (Number.hexDigit?_of_hexValue? hd) (ih hw nofun)
  have hfound := Number.Hexadecimal.mk (List.forall_mem_nil _) .none .none
    (hrun h.2 fun _ => h.1) (List.forall_mem_nil _)
  rw [List.nil_append, List.nil_append, List.nil_append, List.append_nil,
    ← List.map_reverse] at hfound
  exact hfound

theorem Text.readEscape_iff : ReadEscape letter written c ↔
    ∃ digits, NumericEscape letter written digits ∧ Piece.codePointOf? digits = some c := by
  constructor
  · rintro (⟨digits, hwritten, hdigits, rfl, hsmall⟩ | ⟨digits, hwritten, -, hdigits, hsmall⟩)
    · exact ⟨digits, hwritten, Piece.codePointOf?_eq_some_iff.mpr ⟨hdigits.hexadecimal, hsmall⟩⟩
    · exact ⟨digits, hwritten, Piece.codePointOf?_eq_some_iff.mpr ⟨hdigits, hsmall⟩⟩
  · rintro ⟨digits, hwritten, hnumber⟩
    obtain ⟨hdigits, hsmall⟩ := Piece.codePointOf?_eq_some_iff.mp hnumber
    by_cases hexact : digits.AreHexDigits
    · refine .inl ⟨digits, hwritten, hexact, ?_, hsmall⟩
      exact Int.ofNat.inj (hexact.hexadecimal.unique hdigits)
    · exact .inr ⟨digits, hwritten, hexact, hdigits, hsmall⟩

theorem Text.ReadEscape.escapes (h : ReadEscape letter written c) :
    Escapes (letter :: written) [c] := by
  obtain ⟨digits, hwritten, hnumber⟩ := readEscape_iff.mp h
  cases hwritten with
  | short two => exact .short two hnumber
  | long four unbraced => exact .long four unbraced hnumber
  | braced unclosed => exact .braced unclosed hnumber

theorem Text.head_ne_brace {n : Int} (h : Number.Hexadecimal rest n) : rest.head? ≠ some 0x7B := by
  intro hbrace
  rcases h.head hbrace with hblank | (hplus | hminus) | ⟨d, hd⟩
  · cases hblank
  · cases hplus
  · cases hminus
  · cases hd

/-- What is neither read nor broken off is refused. -/
theorem Piece.numericEscape_refused (hletter : letter = 'x'.toNat ∨ letter = 'u'.toNat)
    (hread : ∀ written tail c, rest = written ++ tail → ¬Text.ReadEscape letter written c)
    (hwhole : ¬Text.BrokenOff letter rest) :
    numericEscape letter rest = .error (escapeFault letter) := by
  by_cases hbraced : letter = 'u'.toNat ∧ rest.head? = some 0x7B
  · obtain ⟨rfl, hhead⟩ := hbraced
    obtain ⟨cs, rfl⟩ := List.head?_eq_some_iff.mp hhead
    unfold numericEscape
    rw [if_pos ⟨rfl, rfl⟩, List.drop_one, List.tail_cons]
    split
    · rfl
    · rename_i digits tail hsplit
      obtain ⟨rfl, hclosed⟩ := Text.splitFirst?_eq_some hsplit
      cases hnumber : codePointOf? digits with
      | none => rfl
      | some c =>
        refine absurd (Text.readEscape_iff.mpr ⟨digits, .braced hclosed, hnumber⟩)
          (hread _ tail c ?_)
        simp
  · rw [numericEscape_unbraced hbraced]
    cases hnumber : codePointOf? (rest.take (escapeWidth letter)) with
    | none => rfl
    | some c =>
      exfalso
      by_cases hshort : rest.length < escapeWidth letter
      · rw [List.take_of_length_le (Nat.le_of_lt hshort)] at hnumber
        exact hwhole ⟨hshort, c, codePointOf?_eq_some_iff.mp hnumber⟩
      · have hlength : (rest.take (escapeWidth letter)).length = escapeWidth letter :=
          List.length_take_of_le (Nat.le_of_not_lt hshort)
        refine hread _ (rest.drop (escapeWidth letter)) c (List.take_append_drop _ _).symm
          (Text.readEscape_iff.mpr ⟨_, ?_, hnumber⟩)
        rcases hletter with rfl | rfl
        · exact .short hlength
        · refine .long hlength fun hhead => hbraced ⟨rfl, ?_⟩
          rwa [List.head?_take, if_neg (by decide)] at hhead

theorem Piece.numericEscape_brokenOff (h : Text.BrokenOff letter rest) :
    ∃ c, numericEscape letter rest = .ok ([c], rest.length) := by
  obtain ⟨hshort, c, hnumber⟩ := h
  have hbraced : ¬(letter = 'u'.toNat ∧ rest.head? = some 0x7B) := fun hbrace =>
    Text.head_ne_brace hnumber.1 hbrace.2
  refine ⟨c, ?_⟩
  rw [numericEscape_unbraced hbraced, List.take_of_length_le (Nat.le_of_lt hshort),
    codePointOf?_eq_some_iff.mpr hnumber]

end Reading

/-- An escape that reaches the end of the source closes no literal. -/
theorem Piece.stringRest_end {quote : CodePoint} (offset : Nat) (value w : Text) :
    stringRest quote w.length offset value w = .error ⟨.unterminatedString, 0⟩ := by
  have hskip : stringRest quote w.length offset value (w ++ []) =
      stringRest quote 0 (offset + w.length) value [] := stringRest_skip offset value w []
  rwa [List.append_nil] at hskip

section Literals

variable {quote letter : CodePoint} {body value more part rest : Text}

/-- What is written between quotes is put together from pieces. -/
theorem Text.Quotes.append (h : Quotes quote body value) (h' : Quotes quote more part)
    (hmore : more.head? ≠ some 0x7B) : Quotes quote (body ++ more) (value ++ part) := by
  induction h with
  | nil => exact h'
  | @plain c body value inside plain inline literal _ ih =>
    refine .plain inside plain inline (fun hbrace => ?_) ih
    cases body with
    | nil => exact hmore hbrace.2.2
    | cons d body => exact literal hbrace
  | @escape escaped found body value escape _ ih =>
    rw [List.cons_append, List.append_assoc, List.append_assoc]
    exact .escape escape ih

/-- The quotes of string literals. -/
def IsQuote (quote : CodePoint) : Prop :=
  quote = '"'.toNat ∨ quote = '\''.toNat ∨ quote = '`'.toNat

theorem IsQuote.scan (h : IsQuote quote) (cs : Text) :
    Piece.scan quote cs = Piece.stringRest quote 0 1 [] cs := by
  rcases h with rfl | rfl | rfl <;> rfl

theorem IsQuote.ne (h : IsQuote quote) : quote ≠ '\\'.toNat := by
  rcases h with rfl | rfl | rfl <;> decide

/-- The scanner comes to a backslash in a literal. -/
theorem IsQuote.scan_backslash (hquote : IsQuote quote) (h : Text.Quotes quote body value)
    (cs : Text) :
    Piece.scan quote (body ++ '\\'.toNat :: cs) =
      Piece.stringRest quote 0 (1 + body.length) value.reverse ('\\'.toNat :: cs) := by
  rw [hquote.scan, Piece.stringRest_quotes hquote.ne h (by simp), List.append_nil]

theorem Piece.stringRest_backslash {fault : LexicalFault} {cs : Text} (hquote : IsQuote quote)
    (h : escape cs = .error fault) (offset : Nat) (seen : Text) :
    stringRest quote 0 offset seen ('\\'.toNat :: cs) = .error ⟨fault, offset⟩ := by
  rw [stringRest, if_neg (Ne.symm hquote.ne), if_neg fun h => absurd h.1 (by decide),
    if_neg fun h => absurd h.2.1 (by decide), if_pos rfl, h]

theorem Piece.stringRest_escape {length : Nat} {cs : Text} (hquote : IsQuote quote)
    (h : escape cs = .ok (part, length)) (offset : Nat) (seen : Text) :
    stringRest quote 0 offset seen ('\\'.toNat :: cs) =
      stringRest quote length (offset + 1) (part.reverse ++ seen) cs := by
  rw [stringRest, if_neg (Ne.symm hquote.ne), if_neg fun h => absurd h.1 (by decide),
    if_neg fun h => absurd h.2.1 (by decide), if_pos rfl, h]

end Literals

/-- What has been read of a source before a place in it: trivia and tokens that what follows them
does not go on with. -/
inductive Token.Passed : (p : Position) → (front rest : Text) → List Token → Prop
  | nil {p : Position} {rest : Text} : Passed p [] rest []
  | trivia {p : Position} {w front rest : Text} {tokens : List Token}
      (piece : TriviaPiece w (front ++ rest)) (more : Passed (p.after w) front rest tokens) :
      Passed p (w ++ front) rest tokens
  | token {p : Position} {kind : TokenKind} {w value front rest : Text} {tokens : List Token}
      (written : Written kind w value) (ends : Ends kind w (front ++ rest))
      (more : Passed (p.after w) front rest tokens) :
      Passed p (w ++ front) rest (⟨kind, value, ⟨p, p.after w⟩⟩ :: tokens)

/-- The scanner goes on at the place. -/
theorem Token.Passed.listFrom {p : Position} {front rest : Text} {tokens : List Token}
    (h : Passed p front rest tokens) :
    Token.listFrom 0 p (front ++ rest) =
      (Token.listFrom 0 (p.after front) rest).map (tokens ++ ·) := by
  induction h with
  | @nil p rest =>
    change Token.listFrom 0 p rest = (Token.listFrom 0 p rest).map ([] ++ ·)
    cases Token.listFrom 0 p rest <;> rfl
  | @trivia p w front rest tokens piece more ih =>
    rw [List.append_assoc, piece.listFrom, ih, Position.after_append]
  | @token p kind w value front rest tokens written ends more ih =>
    rw [List.append_assoc, written.listFrom ends, ih, Position.after_append]
    cases Token.listFrom 0 ((p.after w).after front) rest <;> rfl

/-- A literal opens behind what has been passed of a source, and a numeric escape is reached
in it. -/
structure Token.NumericEscapeAt (front : Text) (found : List Token) (quote : CodePoint)
    (body value : Text) (letter : CodePoint) (rest : Text) : Prop where
  passed : Passed .start front (quote :: (body ++ '\\'.toNat :: letter :: rest)) found
  opens : IsQuote quote
  quoted : Text.Quotes quote body value
  numeric : letter = 'x'.toNat ∨ letter = 'u'.toNat

section Outcome

variable {front : Text} {found : List Token} {quote letter : CodePoint} {body value rest : Text}

namespace Token.NumericEscapeAt

/-- A fault in the literal is the fault of the source. -/
theorem fails {flaw : Flaw} (h : NumericEscapeAt front found quote body value letter rest)
    (hflaw : Piece.scan quote (body ++ '\\'.toNat :: letter :: rest) = .error flaw) :
    let literal := quote :: (body ++ '\\'.toNat :: letter :: rest)
    Token.ofSource (front ++ literal) =
      .error ⟨flaw.fault, (Position.start.after front).after (literal.take flaw.offset)⟩ := by
  intro literal
  rw [Token.ofSource, h.passed.listFrom, Token.listFrom, hflaw]
  rfl

theorem escape_eq (h : NumericEscapeAt front found quote body value letter rest) :
    Piece.escape (letter :: rest) = (Piece.numericEscape letter rest).map
      fun (value, length) => (value, length + 1) := Piece.escape_numeric h.numeric rest

/-- An escape that is read, in a literal that is closed. -/
theorem read {written more part behind : Text} {c : CodePoint}
    (h : NumericEscapeAt front found quote body value letter rest)
    (hrest : rest = written ++ (more ++ quote :: behind))
    (hread : Text.ReadEscape letter written c) (hmore : Text.Quotes quote more part) :
    let literal := quote :: (body ++ '\\'.toNat :: letter :: (written ++ (more ++ [quote])))
    let opening := Position.start.after front
    let closing := Position.start.after (front ++ literal)
    Token.ofSource (front ++ quote :: (body ++ '\\'.toNat :: letter :: rest)) =
      (Token.listFrom 0 closing behind).map
        (found ++ ⟨.string, value ++ c :: part, ⟨opening, closing⟩⟩ :: ·) := by
  intro literal opening closing
  have hbody : Text.Quotes quote (body ++ '\\'.toNat :: (letter :: written ++ more))
      (value ++ c :: part) := h.quoted.append (.escape hread.escapes hmore) (by simp)
  have hwritten : Token.Written .string literal (value ++ c :: part) := by
    have hsame : literal =
        quote :: ((body ++ '\\'.toNat :: (letter :: written ++ more)) ++ [quote]) := by
      simp [literal]
    rw [hsame]
    exact .string h.opens hbody
  have hsplit : quote :: (body ++ '\\'.toNat :: letter :: rest) = literal ++ behind := by
    simp [literal, hrest]
  rw [Token.ofSource, h.passed.listFrom, hsplit, hwritten.listFrom trivial,
    ← Position.after_append]
  cases Token.listFrom 0 closing behind <;> rfl

/-- The source ends within an escape. -/
theorem brokenOff (h : NumericEscapeAt front found quote body value letter rest)
    (hbroken : Text.BrokenOff letter rest) :
    let source := front ++ quote :: (body ++ '\\'.toNat :: letter :: rest)
    Token.ofSource source =
      .error ⟨.unterminatedString, Position.ofOffset source front.length⟩ := by
  intro source
  obtain ⟨c, hnumeric⟩ := Piece.numericEscape_brokenOff hbroken
  have hscan : Piece.scan quote (body ++ '\\'.toNat :: letter :: rest) =
      .error ⟨.unterminatedString, 0⟩ := by
    have hescape : Piece.escape (letter :: rest) = .ok ([c], rest.length + 1) := by
      rw [h.escape_eq, hnumeric]
      rfl
    rw [h.opens.scan_backslash h.quoted, Piece.stringRest_escape h.opens hescape]
    exact Piece.stringRest_end _ _ (letter :: rest)
  have hplace : Position.ofOffset source front.length = Position.start.after front :=
    Position.ofOffset_length front _
  rw [h.fails hscan, hplace]
  rfl

/-- An escape that is neither read nor broken off. -/
theorem refused (h : NumericEscapeAt front found quote body value letter rest)
    (hread : ∀ written tail c, rest = written ++ tail → ¬Text.ReadEscape letter written c)
    (hwhole : ¬Text.BrokenOff letter rest) :
    let source := front ++ quote :: (body ++ '\\'.toNat :: letter :: rest)
    Token.ofSource source =
      .error ⟨Piece.escapeFault letter,
        Position.ofOffset source (front.length + 1 + body.length)⟩ := by
  intro source
  have hscan : Piece.scan quote (body ++ '\\'.toNat :: letter :: rest) =
      .error ⟨Piece.escapeFault letter, 1 + body.length⟩ := by
    have hescape : Piece.escape (letter :: rest) = .error (Piece.escapeFault letter) := by
      rw [h.escape_eq, Piece.numericEscape_refused h.numeric hread hwhole]
      rfl
    rw [h.opens.scan_backslash h.quoted, Piece.stringRest_backslash h.opens hescape]
  have hplace : Position.ofOffset source (front.length + 1 + body.length) =
      (Position.start.after front).after (quote :: body) := by
    have hsource : source = (front ++ quote :: body) ++ '\\'.toNat :: letter :: rest := by
      simp [source]
    have hlength : front.length + 1 + body.length = (front ++ quote :: body).length := by
      simp only [List.length_append, List.length_cons]
      omega
    rw [hsource, hlength, Position.ofOffset_length, Position.after_append]
  have htake : (quote :: (body ++ '\\'.toNat :: letter :: rest)).take (1 + body.length) =
      quote :: body := by
    rw [← List.cons_append]
    exact List.take_left' (Nat.add_comm _ _)
  rw [h.fails hscan, hplace, htake]

end Token.NumericEscapeAt

/-- **What becomes of a numeric escape** that is reached in a literal. If it is read, and the
literal is closed behind it, then it stands for one code point there. If the source ends with too
few digits, but with some that are an integer, then the literal is not closed, which is reported at
its quote. Any other escape is refused at its backslash. -/
theorem Token.ofSource_numericEscape
    (h : NumericEscapeAt front found quote body value letter rest) :
    let source := front ++ quote :: (body ++ '\\'.toNat :: letter :: rest)
    (∀ written c more part behind, rest = written ++ (more ++ quote :: behind) →
      Text.ReadEscape letter written c → Text.Quotes quote more part →
      let literal := quote :: (body ++ '\\'.toNat :: letter :: (written ++ (more ++ [quote])))
      let opening := Position.start.after front
      let closing := Position.start.after (front ++ literal)
      Token.ofSource source = (Token.listFrom 0 closing behind).map
        (found ++ ⟨.string, value ++ c :: part, ⟨opening, closing⟩⟩ :: ·)) ∧
    (Text.BrokenOff letter rest →
      Token.ofSource source =
        .error ⟨.unterminatedString, Position.ofOffset source front.length⟩) ∧
    ((∀ written tail c, rest = written ++ tail → ¬Text.ReadEscape letter written c) →
      ¬Text.BrokenOff letter rest →
      Token.ofSource source =
        .error ⟨Piece.escapeFault letter,
          Position.ofOffset source (front.length + 1 + body.length)⟩) :=
  ⟨fun _ _ _ _ _ hrest hread hmore => h.read hrest hread hmore, h.brokenOff, h.refused⟩

/-- A letter is written in a list as an escape. -/
theorem Token.ofSource_numericEscape_letter :
    let source : Text := "[\"a\\x41\"]"
    NumericEscapeAt "[" [⟨.leftBracket, "[", ⟨⟨1, 1⟩, ⟨1, 2⟩⟩⟩] '"'.toNat "a" "a" 'x'.toNat
        "41\"]" ∧
      Text.ExactEscape 'x'.toNat "41" 'A'.toNat ∧
      Token.ofSource source = .ok
        [⟨.leftBracket, "[", ⟨⟨1, 1⟩, ⟨1, 2⟩⟩⟩, ⟨.string, "aA", ⟨⟨1, 2⟩, ⟨1, 9⟩⟩⟩,
          ⟨.rightBracket, "]", ⟨⟨1, 9⟩, ⟨1, 10⟩⟩⟩, ⟨.endOfSource, [], ⟨⟨1, 10⟩, ⟨1, 10⟩⟩⟩] := by
  intro source
  have hreached : NumericEscapeAt "[" [⟨.leftBracket, "[", ⟨⟨1, 1⟩, ⟨1, 2⟩⟩⟩] '"'.toNat "a" "a"
      'x'.toNat "41\"]" := by
    refine ⟨.token (.mark rfl) trivial .nil, .inl rfl, ?_, .inl rfl⟩
    exact .plain (by decide) (by decide) (by decide) (by decide) .nil
  have hexact : Text.ExactEscape 'x'.toNat "41" 'A'.toNat :=
    ⟨"41", .short rfl, ⟨by decide, by decide⟩, rfl, by decide⟩
  refine ⟨hreached, hexact, ?_⟩
  have hread := (ofSource_numericEscape hreached).1 "41" 'A'.toNat [] [] "]" rfl (.inl hexact)
    .nil
  exact hread.trans (by with_unfolding_all rfl)

/-- A sign is no digit, and yet the escape is read. -/
theorem Token.ofSource_looseEscape :
    NumericEscapeAt [] [] '"'.toNat [] [] 'x'.toNat "+1\"" ∧
      (∀ written tail c, ("+1\"" : Text) = written ++ tail →
        ¬Text.ExactEscape 'x'.toNat written c) ∧
      Token.ofSource "\"\\x+1\"" = .ok
        [⟨.string, [1], ⟨⟨1, 1⟩, ⟨1, 7⟩⟩⟩, ⟨.endOfSource, [], ⟨⟨1, 7⟩, ⟨1, 7⟩⟩⟩] := by
  refine ⟨⟨.nil, .inl rfl, .nil, .inl rfl⟩, ?_, by with_unfolding_all rfl⟩
  rintro written tail c hsplit ⟨digits, hwritten, ⟨-, hdigits⟩, -⟩
  generalize hletter : 'x'.toNat = letter at hwritten
  cases hwritten with
  | short two =>
    have hplus : '+'.toNat ∈ written := by
      obtain ⟨c, cs, rfl⟩ := List.exists_cons_of_ne_nil (List.ne_nil_of_length_eq_add_one two)
      obtain ⟨rfl, -⟩ := List.cons.inj hsplit
      exact List.mem_cons_self
    exact absurd (hdigits _ hplus) (by decide)
  | long | braced => exact absurd hletter (by decide)

end Outcome

end Conform
