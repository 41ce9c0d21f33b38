import Conform.Proofs.Source.Spelling

/-!
# Tokens partition their source

Every code point of a source belongs to one token or to white space and comments between tokens.
The scanner passes over a source piece by piece, and counts lines and columns as it goes; what it
has counted at a place is what is found by counting line feeds in front of that place.

## Main definitions

- `Position.ofOffset` — the position of a place in a source
- `Trivia` — white space and complete comments
- `Token.Pieces` — a text is read piece by piece, which is what the scanner does
- `Token.Covers` — a token stands for a stretch of a source
- `Token.Partition` — tokens cover a source from left to right, with trivia between them
- `Token.ofSource_partition` — the tokens of a source do so
-/

namespace Conform

/-- The position behind some code points of a source. The line is one more than the number of line
feeds among them, the column one more than the number of code points since the last one. -/
def Position.ofOffset (source : Text) (offset : Nat) : Position :=
  let before := source.take offset
  ⟨1 + before.count Text.newline, 1 + (before.reverse.takeWhile (· != Text.newline)).length⟩

/-- The scanner counts lines and columns from the beginning of a source. -/
theorem Position.ofOffset_length (before rest : Text) :
    Position.ofOffset (before ++ rest) before.length = Position.start.after before := by
  unfold ofOffset
  rw [List.take_left]
  dsimp only
  induction before using List.reverseRecOn with
  | nil => rfl
  | append_singleton before c ih =>
    rw [after_append, ← ih, List.count_append, List.reverse_append, List.reverse_singleton,
      List.singleton_append]
    change _ = Position.next _ c
    unfold Position.next
    by_cases hc : c = Text.newline
    · rw [if_pos hc, hc]
      rfl
    · rw [if_neg hc, List.takeWhile_cons_of_pos (by simpa using hc), List.count_singleton]
      simp [hc, Nat.add_assoc]

/-- A stretch of a text. -/
def Text.slice (t : Text) (start stop : Nat) : Text := (t.take stop).drop start

theorem Text.slice_append (before w rest : Text) :
    Text.slice (before ++ w ++ rest) before.length (before ++ w).length = w := by
  rw [slice, List.take_left, List.drop_left]

theorem Text.slice_length (t : Text) (start : Nat) : t.slice start t.length = t.drop start := by
  rw [slice, List.take_length]

/-- Neighbouring stretches together are one. -/
theorem Text.slice_append_slice {t : Text} {i j k : Nat} (hij : i ≤ j) (hjk : j ≤ k)
    (hj : j ≤ t.length) : t.slice i j ++ t.slice j k = t.slice i k := by
  have htake : (t.take k).take j = t.take j := by rw [List.take_take, Nat.min_eq_left hjk]
  have hlength : (t.take j).length = j := List.length_take_of_le hj
  have hsplit : t.take k = t.take j ++ (t.take k).drop j := by
    rw [← htake, List.take_append_drop]
  unfold slice
  conv_rhs => rw [hsplit, List.drop_append_of_le_length (by rwa [hlength])]

/-- A piece of white space, or a whole comment in front of what follows it. -/
inductive TriviaPiece : (piece after : Text) → Prop
  | blank {c : CodePoint} {after : Text} (blank : Text.isBlank c = true) : TriviaPiece [c] after
  /-- A comment that ends with its line. -/
  | line {body after : Text} (inline : Text.newline ∉ body)
      (ends : ∀ c ∈ after.head?, c = Text.newline) :
      TriviaPiece ('/'.toNat :: '/'.toNat :: body) after
  /-- A comment that ends with the first mark that can close it. -/
  | block {body after : Text}
      (first : ¬['*'.toNat, '/'.toNat] <:+: body ++ ['*'.toNat]) :
      TriviaPiece ('/'.toNat :: '*'.toNat :: (body ++ ['*'.toNat, '/'.toNat])) after

/-- White space and complete comments in front of what follows them. -/
inductive Trivia : (gap after : Text) → Prop
  | nil {after : Text} : Trivia [] after
  | cons {piece gap after : Text} (first : TriviaPiece piece (gap ++ after))
      (more : Trivia gap after) : Trivia (piece ++ gap) after

namespace Token

/-- A token stands for a stretch of a source: its span tells where that is, and it has the value
that the stretch is written for. -/
structure Covers (source : Text) (t : Token) (start stop : Nat) : Prop where
  nonempty : start < stop
  within : stop ≤ source.length
  span : t.span = ⟨Position.ofOffset source start, Position.ofOffset source stop⟩
  written : Written t.kind (source.slice start stop) t.value

/-- The token that marks the end of a source. -/
def endOf (source : Text) : Token :=
  let stop := Position.ofOffset source source.length
  ⟨.endOfSource, [], ⟨stop, stop⟩⟩

/-- From an offset on, tokens cover a source from left to right, with nothing but white space and
complete comments before, between and behind them, and the end of the source as the last one. -/
inductive Partition (source : Text) : (offset : Nat) → List Token → Prop
  | done {offset : Nat} (order : offset ≤ source.length)
      (gap : Trivia (source.slice offset source.length) []) : Partition source offset [endOf source]
  | token {offset start stop : Nat} {t : Token} {tokens : List Token} (order : offset ≤ start)
      (gap : Trivia (source.slice offset start) (source.drop start))
      (covers : t.Covers source start stop) (more : Partition source stop tokens) :
      Partition source offset (t :: tokens)

end Token

namespace Piece

variable {c : CodePoint} {cs t : Text} {n : Nat}

/-- What closes a block comment, and what is in front of it. -/
theorem blockCommentEnd?_eq_some (h : blockCommentEnd? t = some n) :
    ∃ body rest, t = body ++ ['*'.toNat, '/'.toNat] ++ rest ∧ body.length + 2 = n ∧
      ¬['*'.toNat, '/'.toNat] <:+: body ++ ['*'.toNat] := by
  induction t generalizing n with
  | nil => exact nomatch h
  | cons c t ih =>
    rw [blockCommentEnd?] at h
    split at h
    · rename_i hmark
      obtain ⟨rest, hrest⟩ := (Text.startsWith_iff _ _).mp hmark
      cases h
      refine ⟨[], rest, hrest.symm, rfl, fun hin => ?_⟩
      exact absurd hin.length_le (by decide)
    · rename_i hmark
      obtain ⟨m, hm, rfl⟩ := Option.map_eq_some_iff.mp h
      obtain ⟨body, rest, rfl, rfl, hfirst⟩ := ih hm
      refine ⟨c :: body, rest, rfl, rfl, fun hin => ?_⟩
      rcases List.infix_cons_iff.mp hin with hfront | hin
      · refine hmark ((Text.startsWith_iff _ _).mpr (hfront.trans ⟨'/'.toNat :: rest, ?_⟩))
        simp
      · exact hfirst hin

theorem number_isToken (t : Text) : number t ≠ .ok (.trivia n) := by
  have hdecimal (t : Text) : decimalNumber t ≠ .ok (.trivia n) := by
    unfold decimalNumber
    dsimp only
    split
    · split <;> nofun
    · nofun
  unfold number
  split
  · split
    · unfold hexNumber
      dsimp only
      split
      · nofun
      · split <;> nofun
    · exact hdecimal _
  · exact hdecimal _

theorem stringRest_isToken (quote : CodePoint) (skip offset : Nat) (value t : Text) :
    stringRest quote skip offset value t ≠ .ok (.trivia n) := by
  fun_induction stringRest with
  | case1 | case3 | case4 | case5 | case7 =>
    intro h
    cases h
  | case2 _ _ _ _ _ ih | case6 _ _ _ _ _ _ _ _ _ ih | case8 _ _ _ _ _ _ _ _ ih => exact ih

theorem regex_isToken (t : Text) : regex t ≠ .ok (.trivia n) := by
  unfold regex
  split
  · nofun
  · split <;> nofun

theorem mark_isToken (c : CodePoint) (cs : Text) : mark c cs ≠ .ok (.trivia n) := by
  unfold mark
  split
  · nofun
  · split
    · nofun
    · split <;> nofun

/-- What the scanner passes over as trivia is one piece of it, in front of a rest. -/
theorem scan_trivia (h : scan c cs = .ok (.trivia n)) :
    ∃ w rest, cs = w ++ rest ∧ w.length = n ∧ TriviaPiece (c :: w) rest := by
  unfold scan at h
  split at h
  · rename_i hblank
    cases h
    exact ⟨[], cs, rfl, rfl, .blank hblank⟩
  split at h
  · rename_i hline
    obtain ⟨rfl, hslash⟩ := hline
    obtain ⟨rest, rfl⟩ := (Text.startsWith_iff _ _).mp hslash
    let inline (c : CodePoint) : Bool := c != Text.newline
    have htake : ('/'.toNat :: rest).takeWhile inline = '/'.toNat :: rest.takeWhile inline :=
      List.takeWhile_cons_of_pos (by decide)
    obtain rfl : (('/'.toNat :: rest).takeWhile inline).length = n := by cases h; rfl
    refine ⟨'/'.toNat :: rest.takeWhile inline, rest.dropWhile inline, ?_, by rw [htake],
      .line (fun hin => ?_) fun c hc => ?_⟩
    · rw [List.cons_append, List.takeWhile_append_dropWhile]
      rfl
    · exact absurd (List.mem_takeWhile_imp hin) (by decide)
    · have hnot := List.head?_dropWhile_not inline rest
      rw [hc] at hnot
      simpa [inline] using hnot
  split at h
  · rename_i hblock
    obtain ⟨rfl, hstar⟩ := hblock
    obtain ⟨rest, rfl⟩ := (Text.startsWith_iff _ _).mp hstar
    split at h
    · rename_i k hends
      cases h
      obtain ⟨body, rest, hsplit, rfl, hfirst⟩ := blockCommentEnd?_eq_some hends
      obtain rfl : _ = body ++ ['*'.toNat, '/'.toNat] ++ rest := hsplit
      exact ⟨'*'.toNat :: (body ++ ['*'.toNat, '/'.toNat]), rest, rfl, by simp, .block hfirst⟩
    · cases h
  split at h
  · cases h
  split at h
  · exact absurd h (number_isToken _)
  split at h
  · exact absurd h (stringRest_isToken _ _ _ _ _)
  split at h
  · exact absurd h (regex_isToken _)
  · exact absurd h (mark_isToken _ _)

/-- The first mark that closes a block comment is found in front of everything. -/
theorem blockCommentEnd?_append {body : Text}
    (first : ¬['*'.toNat, '/'.toNat] <:+: body ++ ['*'.toNat]) (rest : Text) :
    blockCommentEnd? (body ++ ['*'.toNat, '/'.toNat] ++ rest) = some (body.length + 2) := by
  induction body with
  | nil => rfl
  | cons c body ih =>
    rw [List.cons_append, List.infix_cons_iff] at first
    have hmark : ¬Text.startsWith (c :: (body ++ ['*'.toNat, '/'.toNat] ++ rest)) "*/" = true := by
      intro hstart
      have hsplit : c :: (body ++ ['*'.toNat, '/'.toNat] ++ rest) =
          c :: (body ++ ['*'.toNat]) ++ '/'.toNat :: rest := by simp
      rw [hsplit] at hstart
      refine first (.inl (List.prefix_of_prefix_length_le ((Text.startsWith_iff _ _).mp hstart)
        (List.prefix_append _ _) ?_))
      simp
    rw [List.cons_append, List.cons_append, blockCommentEnd?, if_neg hmark,
      ih fun hin => first (.inr hin)]
    rfl

end Piece

/-- A piece of trivia is passed over by the scanner. -/
theorem TriviaPiece.scan {w rest : Text} (h : TriviaPiece w rest) :
    ∃ c cs, w = c :: cs ∧ Piece.scan c (cs ++ rest) = .ok (.trivia cs.length) := by
  cases h with
  | @blank c _ blank => exact ⟨c, [], rfl, if_pos blank⟩
  | @line body _ inline ends =>
    refine ⟨'/'.toNat, '/'.toNat :: body, rfl, ?_⟩
    have htake : ('/'.toNat :: body ++ rest).takeWhile (· != Text.newline) = '/'.toNat :: body := by
      refine takeWhile_append_stop (fun c hc => ?_) fun c hc => by simp [ends c hc]
      rcases List.mem_cons.mp hc with rfl | hc
      · decide
      · simpa using ne_of_mem_of_not_mem hc inline
    rw [Piece.scan, if_neg (by decide), if_pos ⟨rfl, startsWith_cons _ _ _⟩, htake]
  | @block body _ first =>
    refine ⟨'/'.toNat, '*'.toNat :: (body ++ ['*'.toNat, '/'.toNat]), rfl, ?_⟩
    have hends := Piece.blockCommentEnd?_append first rest
    have hslash : ¬('/'.toNat = '/'.toNat ∧
        Text.startsWith ('*'.toNat :: (body ++ ['*'.toNat, '/'.toNat] ++ rest)) "/" = true) := by
      rintro ⟨-, hslash⟩
      exact absurd ((startsWith_cons _ _ _).symm.trans hslash) (by decide)
    rw [List.cons_append, Piece.scan, if_neg (by decide), if_neg hslash,
      if_pos ⟨rfl, startsWith_cons _ _ _⟩, List.drop_one, List.tail_cons, hends]
    simp

theorem TriviaPiece.listFrom {w rest : Text} (h : TriviaPiece w rest) (p : Position) :
    Token.listFrom 0 p (w ++ rest) = Token.listFrom 0 (p.after w) rest := by
  obtain ⟨c, cs, rfl, hscan⟩ := h.scan
  rw [List.cons_append, Token.listFrom, hscan]
  exact listFrom_skip cs rest (p.next c)

/-- A token is found in front of what does not go on with it. -/
theorem Token.Written.listFrom {kind : TokenKind} {w value rest : Text}
    (h : Written kind w value) (hends : Ends kind w rest) (p : Position) :
    Token.listFrom 0 p (w ++ rest) =
      (Token.listFrom 0 (p.after w) rest).map (⟨kind, value, ⟨p, p.after w⟩⟩ :: ·) := by
  obtain ⟨c, cs, rfl, hscan⟩ := h.scan_append hends
  have hmore : Token.listFrom cs.length (p.next c) (cs ++ rest) =
      Token.listFrom 0 (p.after (c :: cs)) rest := listFrom_skip cs rest (p.next c)
  rw [List.cons_append, Token.listFrom, hscan]
  dsimp only
  rw [hmore, ← List.cons_append, List.take_left' List.length_cons]
  cases Token.listFrom 0 (p.after (c :: cs)) rest <;> rfl

/-- From a position on, a text is read piece by piece: it consists of trivia and tokens that what
follows them does not go on with, and the end of the source stands behind them. -/
inductive Token.Pieces : (p : Position) → (text : Text) → List Token → Prop
  | done {p : Position} : Pieces p [] [⟨.endOfSource, [], ⟨p, p⟩⟩]
  | trivia {p : Position} {w rest : Text} {tokens : List Token} (piece : TriviaPiece w rest)
      (more : Pieces (p.after w) rest tokens) : Pieces p (w ++ rest) tokens
  | token {p : Position} {kind : TokenKind} {w value rest : Text} {tokens : List Token}
      (written : Written kind w value) (ends : Ends kind w rest)
      (more : Pieces (p.after w) rest tokens) :
      Pieces p (w ++ rest) (⟨kind, value, ⟨p, p.after w⟩⟩ :: tokens)

/-- What the scanner finds are the pieces of the text. -/
theorem pieces_of_listFrom {p : Position} {text : Text} {tokens : List Token}
    (h : Token.listFrom 0 p text = .ok tokens) : Token.Pieces p text tokens := by
  induction hlength : text.length using Nat.strong_induction_on generalizing p text tokens with
  | _ size ih =>
    cases text with
    | nil =>
      cases h
      exact .done
    | cons c cs =>
      -- The scanner goes on behind the piece that it finds here.
      have hnext (w : Text) : (p.next c).after w = p.after (c :: w) := rfl
      rw [Token.listFrom] at h
      split at h
      · cases h
      · rename_i n hscan
        obtain ⟨w, rest, rfl, rfl, hpiece⟩ := Piece.scan_trivia hscan
        rw [listFrom_skip, hnext] at h
        exact .trivia (w := c :: w) hpiece (ih rest.length (by simp at hlength; omega) h rfl)
      · rename_i kind value n hscan
        obtain ⟨w, rest, rfl, rfl, hwritten, hends⟩ := Piece.scan_written hscan
        rw [listFrom_skip, hnext, ← List.cons_append, List.take_left' List.length_cons] at h
        split at h
        · cases h
        · rename_i more hmore
          cases h
          exact .token hwritten hends (ih rest.length (by simp at hlength; omega) hmore rfl)

/-- The pieces of a text are what the scanner finds. -/
theorem Token.Pieces.listFrom {p : Position} {text : Text} {tokens : List Token}
    (h : Pieces p text tokens) : Token.listFrom 0 p text = .ok tokens := by
  induction h with
  | done => rfl
  | trivia piece more ih => exact (piece.listFrom _).trans ih
  | token written ends more ih =>
    rw [written.listFrom ends, ih]
    rfl

namespace Token.Partition

variable {source before w rest : Text} {tokens : List Token}

/-- White space or a comment may stand in front. -/
theorem prepend (h : Partition (before ++ w ++ rest) (before ++ w).length tokens)
    (hpiece : TriviaPiece w rest) :
    Partition (before ++ w ++ rest) before.length tokens := by
  have hle : before.length ≤ (before ++ w).length := by simp
  have hwithin : (before ++ w).length ≤ (before ++ w ++ rest).length := by simp
  have hrest : (before ++ w ++ rest).drop (before ++ w).length = rest := List.drop_left
  -- The piece joins the gap that comes first.
  have hgap {stop : Nat} (hstop : (before ++ w).length ≤ stop) :
      (before ++ w ++ rest).slice before.length stop =
        w ++ (before ++ w ++ rest).slice (before ++ w).length stop := by
    rw [← Text.slice_append_slice hle hstop hwithin, Text.slice_append]
  cases h with
  | done order gap =>
    refine .done (hle.trans order) ?_
    rw [hgap order]
    refine .cons ?_ gap
    rwa [Text.slice_length, hrest, List.append_nil]
  | @token _ start stop _ _ order gap covers more =>
    refine .token (hle.trans order) ?_ covers more
    rw [hgap order]
    refine .cons ?_ gap
    have hwithin := covers.nonempty.le.trans covers.within
    rwa [← Text.slice_length, Text.slice_append_slice order hwithin hwithin, Text.slice_length,
      hrest]

end Token.Partition

/-- A token that is written somewhere in a source covers that stretch. -/
theorem Token.Written.covers {kind : TokenKind} {w value : Text} (h : Written kind w value)
    (before rest : Text) :
    Token.Covers (before ++ w ++ rest)
      ⟨kind, value, ⟨Position.start.after before, Position.start.after (before ++ w)⟩⟩
      before.length (before ++ w).length where
  nonempty := by
    obtain ⟨c, cs, rfl, -⟩ := h.scan
    simp
  within := by simp
  span := by
    rw [Position.ofOffset_length (before ++ w), List.append_assoc, Position.ofOffset_length]
  written := by
    rw [Text.slice_append]
    exact h

/-- The pieces of the rest of a source cover it. -/
theorem Token.Pieces.partition {before text : Text} {p : Position} {tokens : List Token}
    (h : Pieces p text tokens) (hp : p = Position.start.after before) :
    Partition (before ++ text) before.length tokens := by
  induction h generalizing before with
  | done =>
    have hend := Position.ofOffset_length before []
    rw [hp, ← hend]
    have hdone : Partition (before ++ []) before.length [endOf (before ++ [])] := by
      refine .done (by simp) ?_
      rw [Text.slice_length, List.drop_left]
      exact .nil
    simpa [endOf] using hdone
  | @trivia p w rest tokens piece more ih =>
    rw [← List.append_assoc]
    exact (ih (by rw [hp, Position.after_append])).prepend piece
  | @token p kind w value rest tokens written ends more ih =>
    have hstop : p.after w = Position.start.after (before ++ w) := by rw [hp, Position.after_append]
    rw [hstop, hp, ← List.append_assoc]
    refine .token le_rfl ?_ (written.covers before rest) (ih hstop)
    rw [Text.slice, List.drop_eq_nil_of_le (List.length_take_le _ _)]
    exact .nil

/-- The tokens of a source partition it: they cover it from left to right, each at the lines and
columns where it stands, with nothing but white space and complete comments outside, and the end
of the source comes last. What a token is and what it stands for is determined by the stretch that
it covers. -/
theorem Token.ofSource_partition {source : Text} {tokens : List Token}
    (h : Token.ofSource source = .ok tokens) :
    Token.Partition source 0 tokens ∧
      ∀ (t u : Token) (other : Text) (start stop start' stop' : Nat),
        t.Covers source start stop → u.Covers other start' stop' →
        other.slice start' stop' = source.slice start stop →
        u.kind = t.kind ∧ u.value = t.value := by
  have hpartition : Token.Partition ([] ++ source) ([] : Text).length tokens :=
    (pieces_of_listFrom h).partition rfl
  refine ⟨hpartition, fun t u other start stop start' stop' ht hu hsame => ?_⟩
  exact (hsame ▸ hu.written).unique ht.written

/-- A comment and a line feed stand between the first two of these tokens. -/
theorem Token.ofSource_partition_lines :
    let source : Text := "f // 0\n(1_0)"
    let tokens : List Token :=
      [⟨.identifier, "f", ⟨⟨1, 1⟩, ⟨1, 2⟩⟩⟩, ⟨.leftParen, "(", ⟨⟨2, 1⟩, ⟨2, 2⟩⟩⟩,
        ⟨.number, "10", ⟨⟨2, 2⟩, ⟨2, 5⟩⟩⟩, ⟨.rightParen, ")", ⟨⟨2, 5⟩, ⟨2, 6⟩⟩⟩,
        ⟨.endOfSource, [], ⟨⟨2, 6⟩, ⟨2, 6⟩⟩⟩]
    Token.ofSource source = .ok tokens ∧ Token.Partition source 0 tokens := by
  intro source tokens
  have htokens : Token.ofSource source = .ok tokens := by with_unfolding_all rfl
  exact ⟨htokens, (Token.ofSource_partition htokens).1⟩

end Conform
