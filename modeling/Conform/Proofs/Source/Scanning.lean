import Conform.Proofs.Source.Numerals
import Conform.Proofs.Source.Quoting

/-!
# Scanning single tokens

A piece of source is found by looking past its end, so what stands behind a token decides whether
the token is scanned as it is written. A text scans as some tokens if it does so in front of every
rest of a kind; one text may stand behind another if it begins a rest of the kind that the other one
allows.

## Main definitions

- `Scans` — a text is scanned as some tokens
- `Behind` — what follows begins with one of some marks
- `Text.IsIdentifier`, `Text.doubleQuoted`, `Regex.written` — how tokens are written
- `Regex.Delivered` — some source has a regular expression with this body and these flags
- `scans_name`, `scans_doubleQuoted`, `scans_ofNat`, `scans_regex` — each is scanned as written
-/

namespace Conform

section Tables

theorem Piece.isBlank_of_isIdentifierStart {c : CodePoint} (h : isIdentifierStart c = true) :
    Text.isBlank c = false := by
  cases hblank : Text.isBlank c with
  | false => rfl
  | true =>
    have hnone : isIdentifierStart c = false :=
      Text.of_inRanges (P := fun c => isIdentifierStart c = false) (by decide +kernel) hblank
    exact absurd (h.symm.trans hnone) (by decide)

end Tables

section Sequences

/-- A text is scanned as some tokens at a position, in front of every rest of a kind. -/
def Scans (Q : Text → Prop) (p : Position) (w : Text) (tokens : List Token) : Prop :=
  ∀ rest, Q rest →
    Token.listFrom 0 p (w ++ rest) =
      (Token.listFrom 0 (p.after w) rest).map fun more => tokens ++ more

variable {Q R : Text → Prop} {p : Position} {w v : Text} {tokens more : List Token}

theorem Position.after_append (p : Position) (w v : Text) :
    p.after (w ++ v) = (p.after w).after v := List.foldl_append

/-- The code points of a piece are passed over. -/
theorem listFrom_skip (w rest : Text) (p : Position) :
    Token.listFrom w.length p (w ++ rest) = Token.listFrom 0 (p.after w) rest := by
  induction w generalizing p with
  | nil => rfl
  | cons c w ih =>
    rw [List.length_cons, List.cons_append, Token.listFrom]
    exact ih (p.next c)

/-- A token that is scanned alike in front of all rests of a kind. -/
theorem scans_token {c : CodePoint} {kind : TokenKind} {value : Text}
    (h : ∀ rest, Q rest → Piece.scan c (w ++ rest) = .ok (.token kind value w.length)) :
    Scans Q p (c :: w) [⟨kind, value, ⟨p, p.after (c :: w)⟩⟩] := by
  intro rest hrest
  have htake : (c :: (w ++ rest)).take (w.length + 1) = c :: w := by simp
  rw [List.cons_append, Token.listFrom, h rest hrest]
  dsimp only
  rw [listFrom_skip, htake]
  change _ = Except.map _ (Token.listFrom 0 ((p.next c).after w) rest)
  cases Token.listFrom 0 ((p.next c).after w) rest <;> rfl

theorem scans_nil (Q : Text → Prop) (p : Position) : Scans Q p [] [] := by
  intro rest _
  change Token.listFrom 0 p rest = Except.map _ (Token.listFrom 0 p rest)
  cases Token.listFrom 0 p rest <;> rfl

theorem Scans.mono (h : Scans Q p w tokens) (hR : ∀ rest, R rest → Q rest) : Scans R p w tokens :=
  fun rest hrest => h rest (hR rest hrest)

/-- One text behind another. -/
theorem Scans.append (h : Scans Q p w tokens) (h' : Scans R (p.after w) v more)
    (hQ : ∀ rest, R rest → Q (v ++ rest)) : Scans R p (w ++ v) (tokens ++ more) := by
  intro rest hrest
  rw [List.append_assoc, h _ (hQ rest hrest), h' rest hrest, Position.after_append]
  cases Token.listFrom 0 ((p.after w).after v) rest with
  | error e => rfl
  | ok found => exact congrArg Except.ok (List.append_assoc tokens more found).symm

/-- A text that scans is a source with these tokens and the end of the source behind them. -/
theorem Scans.ofSource (h : Scans Q Position.start w tokens) (hQ : Q []) :
    ∃ last : Token, last.kind = .endOfSource ∧ Token.ofSource w = .ok (tokens ++ [last]) := by
  have hscan := h [] hQ
  rw [List.append_nil] at hscan
  exact ⟨_, rfl, hscan⟩

/-- What follows is the end, or begins with one of some marks. -/
def Behind (marks : Text) (rest : Text) : Prop := ∀ c ∈ rest.head?, c ∈ marks

/-- The marks that close an expression. -/
def closers : Text := [','.toNat, ')'.toNat, ']'.toNat, 0x7D]

/-- The marks that close an expression, continue one, or stand behind a key. -/
def followers : Text := closers ++ ['.'.toNat, '('.toNat, ':'.toNat]

theorem Behind.of_closers {rest : Text} (h : Behind closers rest) : Behind followers rest :=
  fun c hc => List.mem_append_left _ (h c hc)

theorem behind_cons {marks : Text} {c : CodePoint} (h : c ∈ marks) (rest : Text) :
    Behind marks (c :: rest) := by
  intro d hd
  obtain rfl : c = d := Option.some.inj hd
  exact h

end Sequences

section Names

/-- A lexically valid name. -/
def Text.IsIdentifier : Text → Prop
  | [] => False
  | c :: cs => Piece.isIdentifierStart c = true ∧ ∀ d ∈ cs, Piece.isIdentifierPart d = true

instance : DecidablePred Text.IsIdentifier
  | [] => inferInstanceAs (Decidable False)
  | c :: _ => inferInstanceAs (Decidable (Piece.isIdentifierStart c = true ∧ _))

variable {p : Position} {w rest : Text}

/-- A mark that is a token whatever follows it. -/
theorem scans_mark {c : CodePoint} {kind : TokenKind}
    (h : ∀ rest, Piece.scan c rest = .ok (.token kind [c] 0)) :
    Scans (fun _ => True) p [c] [⟨kind, [c], ⟨p, p.after [c]⟩⟩] :=
  scans_token fun rest _ => h rest

/-- A point is scanned as such in front of a name. -/
theorem scans_dot :
    Scans (fun rest => ∃ c ∈ rest.head?, Piece.isIdentifierStart c = true) p ['.'.toNat]
      [⟨.dot, ['.'.toNat], ⟨p, p.after ['.'.toNat]⟩⟩] := by
  refine scans_token fun rest hrest => ?_
  obtain ⟨c, hc, hstart⟩ := hrest
  obtain ⟨more, rfl⟩ := List.head?_eq_some_iff.mp hc
  have hdigit : Text.isDigit c = false := by
    cases h : Text.isDigit c with
    | false => rfl
    | true =>
      have hnone : Piece.isIdentifierStart c = false :=
        Text.of_isDigit (P := fun c => Piece.isIdentifierStart c = false) (by decide) h
      exact absurd (hstart.symm.trans hnone) (by decide)
  have hdot : c ≠ '.'.toNat := by
    rintro rfl
    exact absurd hstart (by decide)
  have hspread : Text.startsWith (c :: more) ".." = false := by
    change ((if '.'.toNat = c then Text.after? ['.'.toNat] more else none).isSome) = false
    rw [if_neg (Ne.symm hdot)]
    rfl
  change (if (Text.isDigit '.'.toNat || (true && Text.isDigit c)) = true then _ else
    Piece.mark '.'.toNat (c :: more)) = _
  rw [hdigit, if_neg (by decide)]
  change (if '.'.toNat = '.'.toNat ∧ Text.startsWith (c :: more) ".." = true then _ else _) = _
  rw [hspread, if_neg (by simp)]
  rfl

/-- A name is found in front of everything that cannot stand inside one. -/
theorem Piece.scan_name {c : CodePoint} {cs : Text} (h : Text.IsIdentifier (c :: cs))
    (hrest : ∀ d ∈ rest.head?, isIdentifierPart d = false) :
    scan c (cs ++ rest) = .ok (.token .identifier (c :: cs) cs.length) := by
  have hslash : c ≠ '/'.toNat := by
    intro hc
    rw [hc] at h
    exact absurd h.1 (by decide)
  rw [scan, if_neg (by simp [isBlank_of_isIdentifierStart h.1]), if_neg (fun hc => hslash hc.1),
    if_neg (fun hc => hslash hc.1), if_pos h.1, takeWhile_append_stop h.2 hrest]

/-- A name is scanned as such in front of a mark. -/
theorem scans_name (h : w.IsIdentifier) :
    Scans (Behind followers) p w [⟨.identifier, w, ⟨p, p.after w⟩⟩] := by
  cases w with
  | nil => exact h.elim
  | cons c cs =>
    exact scans_token fun rest hrest => Piece.scan_name h fun d hd =>
      (by decide : ∀ d ∈ followers, Piece.isIdentifierPart d = false) d (hrest d hd)

end Names

section Strings

/-- A code point as it stands between double quotes. -/
def Text.escaped (c : CodePoint) : Text :=
  if c = '\\'.toNat then ['\\'.toNat, '\\'.toNat]
  else if c = '"'.toNat then ['\\'.toNat, '"'.toNat]
  else if c = Text.newline then ['\\'.toNat, 'n'.toNat]
  else [c]

/-- A string literal with double quotes. -/
def Text.doubleQuoted (t : Text) : Text := '"'.toNat :: (t.flatMap escaped ++ ['"'.toNat])

/-- An escaped text stands between double quotes for itself. -/
theorem Text.quotes_escaped (t : Text) : Quotes '"'.toNat (t.flatMap escaped) t := by
  have hslash : Escapes ['\\'.toNat] ['\\'.toNat] := .itself (by decide) rfl (by decide)
  have hquote : Escapes ['"'.toNat] ['"'.toNat] := .itself (by decide) rfl (by decide)
  have hnewline : Escapes ['n'.toNat] [newline] := .control rfl
  induction t with
  | nil => exact .nil
  | cons c t ih =>
    rw [List.flatMap_cons, escaped]
    split
    · rename_i hc
      subst hc
      exact .escape hslash ih
    · rename_i hplain
      split
      · rename_i hc
        subst hc
        exact .escape hquote ih
      · rename_i hinside
        split
        · rename_i hc
          subst hc
          exact .escape hnewline ih
        · rename_i hinline
          have hliteral : '"'.toNat ≠ '`'.toNat := by decide
          exact .plain hinside hplain (fun hc => absurd hc hinline)
            (fun h => absurd h.1 hliteral) ih

/-- A string literal is scanned as the text that it quotes. -/
theorem scans_doubleQuoted {p : Position} (t : Text) :
    Scans (fun _ => True) p t.doubleQuoted [⟨.string, t, ⟨p, p.after t.doubleQuoted⟩⟩] := by
  refine scans_token fun rest _ => ?_
  rw [List.append_assoc]
  refine (Piece.stringRest_append (by decide) t.quotes_escaped 1 [] rest).trans ?_
  rw [List.length_append, Nat.add_comm]
  rfl

end Strings

section Numbers

namespace Piece

variable {digits rest : Text}

/-- Digits are a number without separators. -/
theorem isDecimal_digits (hdigits : ∀ c ∈ digits, Text.isDigit c = true) (hne : digits ≠ []) :
    digits.IsDecimal ∧ digits.withoutSeparators = digits := by
  have hrun : ∀ w : Text, (∀ c ∈ w, Text.isDigit c = true) → w.IsDigitRun := by
    intro w hw
    induction w with
    | nil => exact .nil
    | cons c w ih =>
      exact .digit (hw c List.mem_cons_self) (ih fun d hd => hw d (List.mem_cons_of_mem c hd))
  have hstarts : digits.StartsNumber := by
    cases digits with
    | nil => exact absurd rfl hne
    | cons c cs => exact ⟨c, cs, hdigits c List.mem_cons_self, .inl rfl⟩
  refine ⟨⟨hstarts, digits, [], [], by simp, hrun digits hdigits, .none, .none⟩, ?_⟩
  refine List.filter_eq_self.mpr fun c hc => ?_
  simpa using Text.isDigit_ne (hdigits c hc)

theorem endsNumber_closers (hrest : Behind closers rest) : EndsNumber rest :=
  fun c hc => (by decide : ∀ c ∈ closers, Text.isDigit c = false ∧ c ≠ '.'.toNat ∧
    isIdentifierStart c = false) c (hrest c hc)

/-- Digits are a number in front of a mark that closes an expression. -/
theorem number_digits (hdigits : ∀ c ∈ digits, Text.isDigit c = true) (hne : digits ≠ [])
    (hrest : Behind closers rest) :
    number (digits ++ rest) = .ok (.token .number digits (digits.length - 1)) := by
  obtain ⟨hdecimal, hsame⟩ := isDecimal_digits hdigits hne
  rw [number_append hdecimal ((endsNumber_closers hrest).decimal digits), hsame]

end Piece

theorem Text.isDigit_of_mem_ofNat {n : Nat} {c : CodePoint} (h : c ∈ Text.ofNat n) :
    Text.isDigit c = true := by
  obtain ⟨d, hd, rfl⟩ := List.mem_map.mp h
  have hdigit := Nat.isDigit_of_mem_toDigits (by decide) (by decide) hd
  exact hdigit

theorem Text.ofNat_ne_nil (n : Nat) : Text.ofNat n ≠ [] := by
  rw [Text.ofNat, Ne, List.map_eq_nil_iff]
  exact Nat.toDigits_ne_nil

theorem Text.digitsValue_ofNat (n : Nat) : Text.digitsValue (Text.ofNat n) = n := by
  rw [Text.digitsValue, Text.ofNat, List.foldl_map]
  exact Nat.ofDigitChars_eq_foldl.symm.trans Nat.ofDigitChars_ten_toDigits

theorem Text.length_ofNat_le {n limit : Nat} (hlimit : 0 < limit) (h : n < Nat.pow 10 limit) :
    (Text.ofNat n).length ≤ limit := by
  rw [Text.ofNat, List.length_map]
  exact (Nat.length_toDigits_le_iff (by decide) hlimit).mpr h

/-- A written number that is not too long is read as the number. -/
theorem numberValue?_ofNat {n : Nat} (h : (Number.int n).isTooLong = false) :
    numberValue? (Text.ofNat n) = some (.int n) := by
  have hpoint : (Text.ofNat n).any
      (fun c => c == '.'.toNat || c == 'e'.toNat || c == 'E'.toNat) = false := by
    rw [List.any_eq_false]
    exact fun c hc => Text.of_isDigit
      (P := fun c => ¬(c == '.'.toNat || c == 'e'.toNat || c == 'E'.toNat) = true) (by decide)
      (Text.isDigit_of_mem_ofNat hc)
  have hall : (Text.ofNat n).all Text.isDigit = true :=
    List.all_eq_true.mpr fun c hc => Text.isDigit_of_mem_ofNat hc
  have hlength : (Text.ofNat n).length ≤ Number.digitLimit := by
    rw [Number.isTooLong, Int.natAbs_natCast] at h
    exact Text.length_ofNat_le (by decide) (Nat.lt_of_not_le (of_decide_eq_false h))
  rw [numberValue?, hpoint, if_neg Bool.false_ne_true, if_neg, Text.digitsValue_ofNat]
  · rfl
  · simp [hall, Text.ofNat_ne_nil, hlength]

/-- A digit begins a number. -/
theorem Piece.scan_digit {c : CodePoint} (h : Text.isDigit c = true) (cs : Text) :
    scan c cs = number (c :: cs) := by
  obtain ⟨hblank, hslash, hstart⟩ := Text.of_isDigit (P := fun c => Text.isBlank c = false ∧
    c ≠ '/'.toNat ∧ isIdentifierStart c = false) (by decide) h
  rw [scan, if_neg (by simp [hblank]), if_neg (fun hc => hslash hc.1),
    if_neg (fun hc => hslash hc.1), if_neg (by simp [hstart]), if_pos (by simp [h])]

/-- A written natural number is scanned as such in front of a mark that closes an expression. -/
theorem scans_ofNat {p : Position} (n : Nat) :
    Scans (Behind closers) p (Text.ofNat n)
      [⟨.number, Text.ofNat n, ⟨p, p.after (Text.ofNat n)⟩⟩] := by
  have hdigits : ∀ c ∈ Text.ofNat n, Text.isDigit c = true :=
    fun c hc => Text.isDigit_of_mem_ofNat hc
  have hne := Text.ofNat_ne_nil n
  cases hn : Text.ofNat n with
  | nil => exact absurd hn hne
  | cons c cs =>
    rw [hn] at hdigits hne
    refine scans_token fun rest hrest => ?_
    rw [Piece.scan_digit (hdigits c List.mem_cons_self)]
    exact Piece.number_digits hdigits hne hrest

end Numbers

section Regexes

theorem Text.splitLast?_append {mark : CodePoint} {after : Text} (h : mark ∉ after)
    (before : Text) : Text.splitLast? mark (before ++ mark :: after) = some (before, after) := by
  rw [splitLast?, List.reverse_append, List.reverse_cons, List.append_assoc,
    List.singleton_append, splitFirst?_append (by simpa using h)]
  exact congrArg some (Prod.ext before.reverse_reverse after.reverse_reverse)

namespace Regex

/-- The body of a regular expression literal. Slashes stand in sets and behind backslashes only, and
there are no line feeds. -/
inductive IsBody : (inSet : Bool) → Text → Prop
  | nil : IsBody false []
  | escaped {inSet : Bool} {d : CodePoint} {body : Text} (inline : d ≠ Text.newline)
      (more : IsBody inSet body) : IsBody inSet ('\\'.toNat :: d :: body)
  | plain {inSet : Bool} {c : CodePoint} {body : Text} (inline : c ≠ Text.newline)
      (unescaped : c ≠ '\\'.toNat) (inside : c = '/'.toNat → inSet = true)
      (more : IsBody
        (if c = '['.toNat then true else if c = ']'.toNat then false else inSet) body) :
      IsBody inSet (c :: body)

/-- Flag letters, each once at most. -/
def AreFlags (flags : Text) : Prop := flags.Nodup ∧ ∀ c ∈ flags, c ∈ Piece.regexFlags

theorem AreFlags.no_slash {flags : Text} (h : AreFlags flags) : '/'.toNat ∉ flags :=
  fun hc => absurd (h.2 _ hc) (by decide)

end Regex

namespace Piece

theorem regexBody?_cons {c : CodePoint} (hnewline : c ≠ Text.newline) (hescape : c ≠ '\\'.toNat)
    (inSet : Bool) (cs : Text) :
    regexBody? inSet (c :: cs) =
      if c = '/'.toNat ∧ !inSet then some 0
      else
        (regexBody? (if c = '['.toNat then true else if c = ']'.toNat then false else inSet) cs).map
          (· + 1) := by
  rw [regexBody?.eq_def]
  dsimp only
  rw [if_neg hnewline, if_neg hescape]

/-- The body in front of a text, with the slash behind it. -/
theorem regexBody?_eq_some {inSet : Bool} {t : Text} {n : Nat}
    (h : regexBody? inSet t = some n) :
    ∃ body after, t = body ++ '/'.toNat :: after ∧ body.length = n ∧ Regex.IsBody inSet body := by
  fun_induction regexBody? generalizing n with
  | case1 | case2 | case3 | case4 => cases h
  | case5 inSet d rest hd hc ih =>
    obtain ⟨m, hm, rfl⟩ := Option.map_eq_some_iff.mp h
    obtain ⟨body, after, rfl, rfl, hbody⟩ := ih hm
    exact ⟨'\\'.toNat :: d :: body, after, rfl, rfl, .escaped hd hbody⟩
  | case6 inSet c cs hnewline hescape hslash =>
    cases h
    obtain ⟨rfl, hset⟩ := hslash
    cases inSet with
    | true => exact nomatch hset
    | false => exact ⟨[], cs, rfl, rfl, .nil⟩
  | case7 inSet c cs hnewline hescape hslash ih =>
    obtain ⟨m, hm, rfl⟩ := Option.map_eq_some_iff.mp h
    obtain ⟨body, after, rfl, rfl, hbody⟩ := ih hm
    refine ⟨c :: body, after, rfl, rfl, .plain hnewline hescape (fun hc => ?_) hbody⟩
    simpa [hc] using hslash

/-- Where a body ends does not depend on what follows its slash. -/
theorem regexBody?_append {inSet : Bool} {body : Text} (h : Regex.IsBody inSet body)
    (rest : Text) : regexBody? inSet (body ++ '/'.toNat :: rest) = some body.length := by
  induction h with
  | nil => exact (regexBody?_cons (by decide) (by decide) _ _).trans (if_pos ⟨rfl, rfl⟩)
  | escaped inline more ih =>
    rw [List.cons_append, List.cons_append, regexBody?, if_neg (by decide), if_pos rfl,
      if_neg inline, ih]
    rfl
  | @plain inSet c body inline unescaped inside more ih =>
    have hslash : ¬(c = '/'.toNat ∧ (!inSet) = true) := by
      rintro ⟨hc, hset⟩
      rw [inside hc] at hset
      exact nomatch hset
    rw [List.cons_append, regexBody?_cons inline unescaped, if_neg hslash]
    exact congrArg (Option.map (· + 1)) ih

/-- The flags in front of a text. -/
theorem flagCount_eq_ok {seen t : Text} {m : Nat} (hseen : seen.Nodup)
    (h : flagCount seen t = .ok m) :
    ∃ flags after, t = flags ++ after ∧ m = seen.length + flags.length ∧
      (∀ c ∈ flags, c ∈ regexFlags) ∧ (seen ++ flags).Nodup ∧
      ∀ c ∈ after.head?, Text.isLetter c = false := by
  fun_induction flagCount generalizing m with
  | case1 seen =>
    cases h
    exact ⟨[], [], rfl, rfl, by simp, by simpa using hseen, nofun⟩
  | case2 => cases h
  | case3 seen c cs hletter hflag ih =>
    obtain ⟨hmem, hfresh⟩ := not_or.mp hflag
    have hnext : (seen ++ [c]).Nodup := by
      rw [List.nodup_append]
      refine ⟨hseen, List.pairwise_singleton _ c, fun d hd e he => ?_⟩
      rintro rfl
      exact hfresh (List.mem_singleton.mp he ▸ hd)
    obtain ⟨flags, after, rfl, rfl, hflags, hnodup, hafter⟩ := ih hnext h
    refine ⟨c :: flags, after, rfl, by simp; omega, ?_, ?_, hafter⟩
    · exact List.forall_mem_cons.mpr ⟨not_not.mp hmem, hflags⟩
    · rwa [List.append_cons]
  | case4 seen c cs hletter =>
    cases h
    refine ⟨[], c :: cs, rfl, rfl, by simp, by simpa using hseen, fun d hd => ?_⟩
    obtain rfl := Option.some.inj hd
    exact Bool.eq_false_iff.mpr hletter

/-- Which flags there are does not depend on what follows them, unless it is a letter. -/
theorem flagCount_append {seen flags rest : Text} (hflags : ∀ c ∈ flags, c ∈ regexFlags)
    (hnodup : (seen ++ flags).Nodup) (hrest : ∀ c ∈ rest.head?, Text.isLetter c = false) :
    flagCount seen (flags ++ rest) = .ok (seen.length + flags.length) := by
  induction flags generalizing seen with
  | nil =>
    cases rest with
    | nil => rfl
    | cons c rest => exact if_neg (by simp [hrest c rfl])
  | cons c flags ih =>
    rw [List.forall_mem_cons] at hflags
    have hletter := (by decide : ∀ c ∈ regexFlags, Text.isLetter c = true) c hflags.1
    have hfresh : ¬(c ∉ regexFlags ∨ c ∈ seen) := by
      refine not_or.mpr ⟨not_not.mpr hflags.1, fun hseen => ?_⟩
      exact (List.nodup_append.mp hnodup).2.2 c hseen c List.mem_cons_self rfl
    rw [List.append_cons] at hnodup
    rw [List.cons_append, flagCount, if_pos hletter, if_neg hfresh, ih hflags.2 hnodup]
    simp only [List.length_append, List.length_cons, List.length_nil]
    congr 1
    omega

theorem drop_body (body rest : Text) :
    (body ++ '/'.toNat :: rest).drop (body.length + 1) = rest := by
  rw [List.append_cons]
  exact List.drop_left' (by simp)

theorem take_regex (body flags rest : Text) :
    (body ++ '/'.toNat :: (flags ++ rest)).take (body.length + 1 + flags.length) =
      body ++ '/'.toNat :: flags := by
  rw [← List.cons_append, ← List.append_assoc]
  exact List.take_left' (by simp; omega)

/-- The regular expression in front of a text. -/
theorem regex_eq_ok {t value : Text} {kind : TokenKind} {n : Nat}
    (h : regex t = .ok (.token kind value n)) :
    ∃ body flags after, t = body ++ '/'.toNat :: (flags ++ after) ∧ kind = .regex ∧
      value = body ++ '/'.toNat :: flags ∧ n = value.length ∧ Regex.IsBody false body ∧
      Regex.AreFlags flags ∧ ∀ c ∈ after.head?, Text.isLetter c = false := by
  unfold regex at h
  split at h
  · cases h
  · rename_i k hends
    obtain ⟨body, after, rfl, rfl, hbody⟩ := regexBody?_eq_some hends
    rw [drop_body] at h
    split at h
    · cases h
    · rename_i m hcount
      obtain ⟨flags, after, rfl, rfl, hflags, hnodup, hafter⟩ :=
        flagCount_eq_ok List.nodup_nil hcount
      rw [List.length_nil, Nat.zero_add, take_regex] at h
      cases h
      exact ⟨body, flags, after, rfl, rfl, rfl, by simp; omega, hbody, ⟨hnodup, hflags⟩, hafter⟩

/-- A regular expression is found alike in front of everything that does not begin with a letter. -/
theorem regex_append {body flags rest : Text} (hbody : Regex.IsBody false body)
    (hflags : Regex.AreFlags flags) (hrest : ∀ c ∈ rest.head?, Text.isLetter c = false) :
    regex (body ++ '/'.toNat :: (flags ++ rest)) =
      .ok (.token .regex (body ++ '/'.toNat :: flags) (body ++ '/'.toNat :: flags).length) := by
  have hcount : flagCount [] (flags ++ rest) = .ok (([] : Text).length + flags.length) :=
    flagCount_append hflags.2 hflags.1 hrest
  unfold regex
  rw [regexBody?_append hbody]
  dsimp only
  rw [drop_body, hcount]
  dsimp only
  rw [List.length_nil, Nat.zero_add, take_regex]
  simp
  omega

theorem number_kind {t value : Text} {kind : TokenKind} {n : Nat}
    (h : number t = .ok (.token kind value n)) : kind = .number := by
  have hdecimal {t : Text} (h : decimalNumber t = .ok (.token kind value n)) :
      kind = .number := by
    unfold decimalNumber at h
    dsimp only at h
    split at h
    · split at h <;> cases h
      rfl
    · cases h
      rfl
  unfold number at h
  split at h
  · split at h
    · unfold hexNumber at h
      dsimp only at h
      split at h
      · cases h
      · split at h <;> cases h
        rfl
    · exact hdecimal h
  · exact hdecimal h

theorem stringRest_kind {quote : CodePoint} {skip offset : Nat} {seen t value : Text}
    {kind : TokenKind} {n : Nat}
    (h : stringRest quote skip offset seen t = .ok (.token kind value n)) : kind = .string := by
  fun_induction stringRest with
  | case1 | case4 | case5 | case7 => cases h
  | case3 =>
    cases h
    rfl
  | case2 _ _ _ _ _ ih | case6 _ _ _ _ _ _ _ _ _ ih | case8 _ _ _ _ _ _ _ _ ih => exact ih h

theorem mark_kind {c : CodePoint} {cs value : Text} {kind : TokenKind} {n : Nat}
    (h : mark c cs = .ok (.token kind value n)) : kind ≠ .regex := by
  have hite {P : Prop} [Decidable P] {a b : Option TokenKind} (ha : a ≠ some .regex)
      (hb : b ≠ some .regex) : (if P then a else b) ≠ some .regex := by
    split
    · exact ha
    · exact hb
  have hpunctuation : punctuation? c ≠ some .regex := by
    unfold punctuation?
    repeat' apply hite
    all_goals decide
  unfold mark at h
  split at h
  · cases h
    decide
  · split at h
    · cases h
      decide
    · split at h
      · rename_i found hfound
        cases h
        rintro rfl
        exact hpunctuation hfound
      · cases h

/-- A regular expression begins with a slash that begins no comment. -/
theorem scan_eq_regex {c : CodePoint} {cs value : Text} {n : Nat}
    (h : scan c cs = .ok (.token .regex value n)) :
    c = '/'.toNat ∧ ¬Text.startsWith cs "/" = true ∧ ¬Text.startsWith cs "*" = true ∧
      regex cs = .ok (.token .regex value n) := by
  unfold scan at h
  split at h
  · cases h
  split at h
  · cases h
  split at h
  · split at h <;> cases h
  split at h
  · cases h
  split at h
  · exact absurd (number_kind h) (by decide)
  split at h
  · exact absurd (stringRest_kind h) (by decide)
  split at h
  · rename_i hline hblock _ _ _ hslash
    exact ⟨hslash, fun hs => hline ⟨hslash, hs⟩, fun hs => hblock ⟨hslash, hs⟩, h⟩
  · exact absurd rfl (mark_kind h)

end Piece

/-- A token of a source is found by scanning some rest of it, unless it is the end. -/
theorem scan_of_mem_listFrom {skip : Nat} {p : Position} {text : Text} {tokens : List Token}
    {t : Token} (h : Token.listFrom skip p text = .ok tokens) (ht : t ∈ tokens) :
    t.kind = .endOfSource ∨
      ∃ c cs n, Piece.scan c cs = .ok (.token t.kind t.value n) := by
  fun_induction Token.listFrom generalizing tokens with
  | case1 =>
    cases h
    obtain rfl := List.mem_singleton.mp ht
    exact .inl rfl
  | case2 _ _ _ _ ih | case4 _ _ _ _ _ ih => exact ih h ht
  | case3 | case5 => cases h
  | case6 p c cs kind value n hscan more hmore ih =>
    cases h
    rcases List.mem_cons.mp ht with rfl | ht
    · exact .inr ⟨c, cs, n, hscan⟩
    · exact ih hmore ht

/-- Some source has a regular expression with this body and these flags. -/
def Regex.Delivered (body flags : Text) : Prop :=
  ∃ source tokens t, Token.ofSource source = .ok tokens ∧ t ∈ tokens ∧ t.kind = .regex ∧
    Parsing.regexParts t.value = (body, flags)

/-- A written regular expression. -/
def Regex.written (body flags : Text) : Text := '/'.toNat :: (body ++ '/'.toNat :: flags)

section Delivered

variable {body flags : Text}

theorem startsWith_cons (c d : CodePoint) (cs : Text) :
    Text.startsWith (c :: cs) [d] = decide (d = c) := by
  change (if d = c then Text.after? [] cs else none).isSome = _
  by_cases h : d = c
  · rw [if_pos h, decide_eq_true h]
    rfl
  · rw [if_neg h, decide_eq_false h]
    rfl

/-- Whether a slash begins a comment depends on what is behind the body only if that is empty. -/
theorem startsWith_body {d : CodePoint} {after : Text} (hne : body ≠ []) (rest : Text)
    (h : ¬Text.startsWith (body ++ after) [d] = true) :
    ¬Text.startsWith (body ++ rest) [d] = true := by
  cases body with
  | nil => exact absurd rfl hne
  | cons c body =>
    rw [List.cons_append, startsWith_cons] at h ⊢
    exact h

/-- Behind some slash that begins no comment, the expression has been found. -/
theorem Regex.Delivered.found (h : Regex.Delivered body flags) :
    ∃ after, ¬Text.startsWith (body ++ after) "/" = true ∧
      ¬Text.startsWith (body ++ after) "*" = true ∧ body ≠ [] ∧ Regex.IsBody false body ∧
      Regex.AreFlags flags := by
  obtain ⟨source, tokens, ⟨kind, value, span⟩, hsource, ht, rfl, hparts⟩ := h
  rcases scan_of_mem_listFrom hsource ht with hend | ⟨c, cs, n, hscan⟩
  · cases hend
  obtain ⟨rfl, hline, hblock, hregex⟩ := Piece.scan_eq_regex hscan
  obtain ⟨body', flags', after, rfl, -, rfl, -, hbody, hflags, -⟩ := Piece.regex_eq_ok hregex
  rw [Parsing.regexParts, Text.splitLast?_append hflags.no_slash] at hparts
  obtain ⟨rfl, rfl⟩ : body' = body ∧ flags' = flags := Prod.mk.inj hparts
  refine ⟨'/'.toNat :: (flags' ++ after), hline, hblock, ?_, hbody, hflags⟩
  rintro rfl
  exact hline (startsWith_cons _ _ _)

/-- A slash that begins no comment begins a regular expression. -/
theorem Piece.scan_regex {cs : Text} (hline : ¬Text.startsWith cs "/" = true)
    (hblock : ¬Text.startsWith cs "*" = true) : scan '/'.toNat cs = regex cs := by
  rw [scan, if_neg (by decide), if_neg fun h => hline h.2, if_neg fun h => hblock h.2,
    if_neg (by decide)]
  rfl

/-- What has been delivered is delivered again, in front of everything but a letter. -/
theorem Regex.Delivered.scan (h : Regex.Delivered body flags) {rest : Text}
    (hrest : ∀ c ∈ rest.head?, Text.isLetter c = false) :
    Piece.scan '/'.toNat ((body ++ '/'.toNat :: flags) ++ rest) =
      .ok (.token .regex (body ++ '/'.toNat :: flags) (body ++ '/'.toNat :: flags).length) := by
  obtain ⟨after, hline, hblock, hne, hbody, hflags⟩ := h.found
  rw [List.append_assoc, List.cons_append,
    Piece.scan_regex (startsWith_body hne _ hline) (startsWith_body hne _ hblock)]
  exact Piece.regex_append hbody hflags hrest

theorem Regex.Delivered.regexParts (h : Regex.Delivered body flags) :
    Parsing.regexParts (body ++ '/'.toNat :: flags) = (body, flags) := by
  obtain ⟨after, -, -, -, -, hflags⟩ := h.found
  rw [Parsing.regexParts, Text.splitLast?_append hflags.no_slash]
  rfl

/-- A regular expression is scanned as such in front of a mark. -/
theorem scans_regex {p : Position} (h : Regex.Delivered body flags) :
    Scans (Behind followers) p (Regex.written body flags)
      [⟨.regex, body ++ '/'.toNat :: flags, ⟨p, p.after (Regex.written body flags)⟩⟩] :=
  scans_token fun rest hrest => h.scan fun c hc =>
    (by decide : ∀ c ∈ followers, Text.isLetter c = false) c (hrest c hc)

end Delivered

end Regexes

end Conform
