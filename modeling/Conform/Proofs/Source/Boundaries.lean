import Conform.Proofs.Source.Partition
import Conform.Proofs.Source.Places
import Mathlib.Data.Prod.Lex

/-!
# Cutting sources between tokens

A source can be cut behind each of its tokens. The tokens in front of the cut stay the same if white
space, a comment or nothing at all stands behind it instead of the rest, as none of these goes on
with a token. What stands behind the cut is scanned alike wherever it is, so its tokens differ in
their places only.

## Main definitions

- `Interrupts` — what goes on with no token
- `Text.IsFiller` — white space and comments that are complete by themselves
- `Token.Boundary` — the places between tokens, outside comments
- `Token.Pieces.cut`, `Token.Pieces.gap` — the parts of a source around a token
- `Token.Pieces.move` — a text is scanned alike wherever it stands
-/

namespace Conform

/-- A text that goes on with no token: nothing, or what begins with white space or a comment. -/
def Interrupts (rest : Text) : Prop := ∀ c ∈ rest.head?, Text.isBlank c = true ∨ c = '/'.toNat

section Interruption

variable {kind : TokenKind} {w rest rest' : Text} {c : CodePoint}

theorem interrupts_nil : Interrupts [] := nofun

theorem interrupts_cons (h : Text.isBlank c = true ∨ c = '/'.toNat) (rest : Text) :
    Interrupts (c :: rest) := by
  intro d hd
  obtain rfl := Option.some.inj hd
  exact h

/-- A code point that stands in no token but strings and regular expressions. -/
structure Foreign (c : CodePoint) : Prop where
  name : Piece.isIdentifierPart c = false
  start : Piece.isIdentifierStart c = false
  letter : Text.isLetter c = false
  digit : Text.isDigit c = false
  hex : Text.hexValue? c = none
  point : c ≠ '.'.toNat
  arrow : c ≠ '>'.toNat

theorem Interrupts.foreign (h : Interrupts rest) : ∀ c ∈ rest.head?, Foreign c := by
  intro c hc
  have heach : Piece.isIdentifierPart c = false ∧ Piece.isIdentifierStart c = false ∧
      Text.isLetter c = false ∧ Text.isDigit c = false ∧ Text.hexValue? c = none ∧
      c ≠ '.'.toNat ∧ c ≠ '>'.toNat := by
    rcases h c hc with hblank | rfl
    · exact Text.of_inRanges (P := fun c => Piece.isIdentifierPart c = false ∧
        Piece.isIdentifierStart c = false ∧ Text.isLetter c = false ∧ Text.isDigit c = false ∧
        Text.hexValue? c = none ∧ c ≠ '.'.toNat ∧ c ≠ '>'.toNat) (by decide +kernel) hblank
    · decide
  obtain ⟨hname, hstart, hletter, hdigit, hhex, hpoint, harrow⟩ := heach
  exact ⟨hname, hstart, hletter, hdigit, hhex, hpoint, harrow⟩

/-- What interrupts tokens ends each of them. -/
theorem Token.Ends.of_interrupts (h : Interrupts rest) (kind : TokenKind) (w : Text) :
    Ends kind w rest := by
  have hforeign := h.foreign
  cases kind with
  | identifier => exact fun c hc => (hforeign c hc).name
  | number =>
    refine ⟨fun _ => ⟨fun c hc => ⟨(hforeign c hc).digit, (hforeign c hc).start⟩,
      fun _ c hc => (hforeign c hc).point⟩, fun _ c hc => (hforeign c hc).hex⟩
  | regex => exact fun c hc => (hforeign c hc).letter
  | operator => exact fun _ c hc => (hforeign c hc).arrow
  | dot =>
    refine ⟨fun hpoints => ?_, fun c hc => (hforeign c hc).digit⟩
    obtain ⟨more, rfl⟩ := hpoints
    exact (hforeign '.'.toNat rfl).point rfl
  | _ => trivial

/-- Whether a token ends depends on the next code points, of which there are two at most. -/
theorem Token.Ends.congr (h : Ends kind w rest) (hhead : rest'.head? = rest.head?)
    (hpoints : ['.'.toNat, '.'.toNat] <+: rest' → ['.'.toNat, '.'.toNat] <+: rest) :
    Ends kind w rest' := by
  cases kind with
  | identifier | regex | operator =>
    unfold Ends at h ⊢
    rwa [hhead]
  | number =>
    refine ⟨fun hw => ⟨?_, ?_⟩, fun hw => ?_⟩
    · unfold Piece.EndsDigits
      rw [hhead]
      exact (h.1 hw).digits
    · rw [hhead]
      exact (h.1 hw).point
    · rw [hhead]
      exact h.2 hw
  | dot =>
    refine ⟨mt hpoints h.1, ?_⟩
    rw [hhead]
    exact h.2
  | _ => trivial

/-- A token in front of other ones still ends if the rest behind those is replaced by something that
interrupts tokens. -/
theorem Token.Ends.replace {v post : Text} (h : Ends kind w (v ++ post)) (hrest : Interrupts rest) :
    Ends kind w (v ++ rest) := by
  match v with
  | [] => exact .of_interrupts hrest kind w
  | [c] =>
    refine h.congr rfl fun hpoints => ?_
    -- The second point would be the first code point of the rest.
    obtain ⟨more, hmore⟩ := hpoints
    obtain ⟨-, rfl⟩ := List.cons.inj hmore
    exact absurd rfl (hrest.foreign '.'.toNat rfl).point
  | c :: d :: v =>
    refine h.congr rfl fun hpoints => ?_
    refine List.IsPrefix.trans (List.prefix_of_prefix_length_le hpoints ?_ ?_)
      (List.prefix_append (c :: d :: v) post)
    · exact List.prefix_append (c :: d :: v) rest
    · simp

/-- Trivia is told by its own text and the next code point. -/
theorem TriviaPiece.congr (h : TriviaPiece w rest) (hhead : rest'.head? = rest.head?) :
    TriviaPiece w rest' := by
  cases h with
  | blank blank => exact .blank blank
  | line inline ends => exact .line inline (hhead ▸ ends)
  | block first => exact .block first

end Interruption

/-- White space and comments that are complete by themselves: a line comment has its line feed. -/
inductive Text.IsFiller : Text → Prop
  | nil : IsFiller []
  | blank {c : CodePoint} {more : Text} (blank : isBlank c = true) (rest : IsFiller more) :
      IsFiller (c :: more)
  | line {body more : Text} (inline : newline ∉ body) (rest : IsFiller more) :
      IsFiller ('/'.toNat :: '/'.toNat :: (body ++ newline :: more))
  | block {body more : Text} (first : ¬['*'.toNat, '/'.toNat] <:+: body ++ ['*'.toNat])
      (rest : IsFiller more) :
      IsFiller ('/'.toNat :: '*'.toNat :: (body ++ '*'.toNat :: '/'.toNat :: more))

namespace Text.IsFiller

variable {w v : Text}

theorem append (h : w.IsFiller) (h' : v.IsFiller) : (w ++ v).IsFiller := by
  induction h with
  | nil => exact h'
  | blank blank rest ih => exact .blank blank ih
  | line inline rest ih => simpa using IsFiller.line inline ih
  | block first rest ih => simpa using IsFiller.block first ih

theorem interrupts (h : w.IsFiller) (hne : w ≠ []) (rest : Text) : Interrupts (w ++ rest) := by
  cases h with
  | nil => exact absurd rfl hne
  | blank blank => exact interrupts_cons (.inl blank) _
  | line | block => exact interrupts_cons (.inr rfl) _

/-- The scanner passes over filler. -/
theorem listFrom (h : w.IsFiller) (p : Position) (rest : Text) :
    Token.listFrom 0 p (w ++ rest) = Token.listFrom 0 (p.after w) rest := by
  induction h generalizing p with
  | nil => rfl
  | @blank c more blank _ ih =>
    have hpiece : TriviaPiece [c] (more ++ rest) := .blank blank
    exact (hpiece.listFrom p).trans (ih _)
  | @line body more inline _ ih =>
    have hcomment : TriviaPiece ('/'.toNat :: '/'.toNat :: body) (newline :: (more ++ rest)) :=
      .line inline fun c hc => (Option.some.inj hc).symm
    have hend : TriviaPiece [newline] (more ++ rest) := .blank (by decide)
    have hsplit : '/'.toNat :: '/'.toNat :: (body ++ newline :: more) =
        ('/'.toNat :: '/'.toNat :: body) ++ newline :: more := rfl
    rw [hsplit, List.append_assoc, Position.after_append]
    exact (hcomment.listFrom p).trans ((hend.listFrom _).trans (ih _))
  | @block body more first _ ih =>
    have hcomment : TriviaPiece ('/'.toNat :: '*'.toNat :: (body ++ ['*'.toNat, '/'.toNat]))
      (more ++ rest) := .block first
    have hsplit : '/'.toNat :: '*'.toNat :: (body ++ '*'.toNat :: '/'.toNat :: more) =
        ('/'.toNat :: '*'.toNat :: (body ++ ['*'.toNat, '/'.toNat])) ++ more := by simp
    rw [hsplit, List.append_assoc, Position.after_append]
    exact (hcomment.listFrom p).trans (ih _)

end Text.IsFiller

namespace Token.Pieces

variable {p : Position} {text : Text} {t : Token} {tokens back : List Token}

/-- Each token begins behind a part of the source. -/
theorem first (h : Pieces p text tokens) (ht : t ∈ tokens) :
    ∃ before rest, text = before ++ rest ∧ t.span.first = p.after before := by
  induction h with
  | done =>
    obtain rfl := List.mem_singleton.mp ht
    exact ⟨[], [], rfl, rfl⟩
  | @trivia p w behind tokens piece more ih =>
    obtain ⟨before, rest, rfl, hfirst⟩ := ih ht
    exact ⟨w ++ before, rest, by rw [List.append_assoc], by rw [hfirst, Position.after_append]⟩
  | @token p kind w value behind tokens written ends more ih =>
    rcases List.mem_cons.mp ht with rfl | ht
    · exact ⟨[], w ++ behind, rfl, rfl⟩
    · obtain ⟨before, rest, rfl, hfirst⟩ := ih ht
      exact ⟨w ++ before, rest, by rw [List.append_assoc], by rw [hfirst, Position.after_append]⟩

/-- The text in front of the first token is passed over. -/
theorem gap (h : Pieces p text (t :: back)) :
    ∃ front rest, text = front ++ rest ∧ t.span.first = p.after front ∧
      Pieces (p.after front) rest (t :: back) := by
  generalize hall : t :: back = all at h
  induction h with
  | @done p =>
    cases hall
    exact ⟨[], [], rfl, rfl, .done⟩
  | @trivia p w rest tokens piece more ih =>
    subst hall
    obtain ⟨front, behind, rfl, hfirst, hpieces⟩ := ih rfl
    refine ⟨w ++ front, behind, (List.append_assoc w front behind).symm, ?_, ?_⟩
    · rw [hfirst, Position.after_append]
    · rwa [Position.after_append]
  | @token p kind w value rest tokens written ends more =>
    cases hall
    exact ⟨[], w ++ rest, rfl, rfl, .token written ends more⟩

/-- A text is cut behind one of its tokens. What stands behind it may be replaced by something that
interrupts tokens. -/
theorem cut {front : List Token} (h : Pieces p text (front ++ t :: back))
    (ht : t.kind ≠ .endOfSource) :
    ∃ before post, text = before ++ post ∧ before ≠ [] ∧ t.span.stop = p.after before ∧
      Pieces (p.after before) post back ∧
      ∀ rest others, rest = post ∨ Interrupts rest → Pieces (p.after before) rest others →
        Pieces p (before ++ rest) (front ++ t :: others) := by
  generalize hall : front ++ t :: back = all at h
  induction h generalizing front with
  | done =>
    have hmem : t ∈ front ++ t :: back := by simp
    rw [hall] at hmem
    obtain rfl := List.mem_singleton.mp hmem
    exact absurd rfl ht
  | @trivia p w gap tokens piece more ih =>
    obtain ⟨before, post, rfl, hne, hstop, hpost, hreplace⟩ := ih hall
    refine ⟨w ++ before, post, (List.append_assoc w before post).symm, by simp [hne], ?_, ?_, ?_⟩
    · rw [hstop, Position.after_append]
    · rwa [Position.after_append]
    · intro rest others hrest hothers
      rw [Position.after_append] at hothers
      rw [List.append_assoc]
      refine .trivia (piece.congr ?_) (hreplace rest others hrest hothers)
      rw [List.head?_append_of_ne_nil _ hne, List.head?_append_of_ne_nil _ hne]
  | @token p kind w value gap tokens written ends more ih =>
    cases front with
    | nil =>
      obtain ⟨rfl, rfl⟩ := List.cons.inj hall
      refine ⟨w, gap, rfl, ?_, rfl, more, fun rest others hrest hothers => ?_⟩
      · obtain ⟨c, cs, rfl, -⟩ := written.scan
        exact List.cons_ne_nil c cs
      · refine .token written ?_ hothers
        rcases hrest with rfl | hrest
        · exact ends
        · exact .of_interrupts hrest kind w
    | cons u front =>
      obtain ⟨rfl, hmore⟩ := List.cons.inj hall
      obtain ⟨before, post, rfl, hne, hstop, hpost, hreplace⟩ := ih hmore
      refine ⟨w ++ before, post, (List.append_assoc w before post).symm, by simp [hne], ?_, ?_, ?_⟩
      · rw [hstop, Position.after_append]
      · rwa [Position.after_append]
      · intro rest others hrest hothers
        rw [Position.after_append] at hothers
        rw [List.append_assoc]
        refine .token written ?_ (hreplace rest others hrest hothers)
        rcases hrest with rfl | hrest
        · exact ends
        · exact ends.replace hrest

/-- A text is scanned alike wherever it stands. -/
theorem move (h : Pieces p text tokens) (q : Position) :
    ∃ tokens', Pieces q text tokens' ∧ Token.AllAlike .any tokens tokens' := by
  induction h generalizing q with
  | done => exact ⟨_, .done, .last ⟨rfl, Span.alike_any _ _⟩ rfl⟩
  | trivia piece more ih =>
    obtain ⟨tokens', hpieces, halike⟩ := ih (q.after _)
    exact ⟨tokens', .trivia piece hpieces, halike⟩
  | token written ends more ih =>
    obtain ⟨tokens', hpieces, halike⟩ := ih (q.after _)
    exact ⟨_, .token written ends hpieces, .cons ⟨rfl, Span.alike_any _ _⟩ halike⟩

end Token.Pieces

section Order

/-- Places are in order of their lines, and on one line in order of their columns. -/
instance : PartialOrder Position :=
  PartialOrder.lift (fun p : Position => toLex (p.line, p.column)) fun p q h => by
    obtain ⟨hline, hcolumn⟩ := Prod.mk.inj (toLex.injective h)
    cases p
    cases q
    exact congrArg₂ Position.mk hline hcolumn

namespace Position

theorem lt_iff {p q : Position} :
    p < q ↔ p.line < q.line ∨ p.line = q.line ∧ p.column < q.column := Prod.Lex.toLex_lt_toLex

theorem lt_next (p : Position) (c : CodePoint) : p < p.next c := by
  rw [lt_iff, next]
  split
  · exact .inl (Nat.lt_succ_self p.line)
  · exact .inr ⟨rfl, Nat.lt_succ_self p.column⟩

theorem le_after (p : Position) (w : Text) : p ≤ p.after w := by
  induction w generalizing p with
  | nil => exact le_rfl
  | cons c w ih => exact (p.lt_next c).le.trans (ih (p.next c))

theorem lt_after (p : Position) {w : Text} (hne : w ≠ []) : p < p.after w := by
  cases w with
  | nil => exact absurd rfl hne
  | cons c w => exact (p.lt_next c).trans_le (le_after (p.next c) w)

variable {source : Text} {i j : Nat}

theorem ofOffset_take (h : i ≤ source.length) :
    ofOffset source i = start.after (source.take i) := by
  have hlength : (source.take i).length = i := List.length_take_of_le h
  have hsplit := ofOffset_length (source.take i) (source.drop i)
  rwa [List.take_append_drop, hlength] at hsplit

theorem ofOffset_lt (hij : i < j) (hj : j ≤ source.length) :
    ofOffset source i < ofOffset source j := by
  have hsplit : source.take j = source.take i ++ source.slice i j := by
    have h := Text.slice_append_slice (Nat.zero_le i) hij.le (hij.le.trans hj)
    simpa [Text.slice] using h.symm
  have hne : source.slice i j ≠ [] := by
    rw [Text.slice, Ne, List.drop_eq_nil_iff, List.length_take_of_le hj]
    exact Nat.not_le_of_lt hij
  rw [ofOffset_take (hij.le.trans hj), ofOffset_take hj, hsplit, after_append]
  exact lt_after _ hne

/-- Different offsets are at different places. -/
theorem ofOffset_inj (hi : i ≤ source.length) (hj : j ≤ source.length)
    (h : ofOffset source i = ofOffset source j) : i = j := by
  rcases Nat.lt_trichotomy i j with hlt | heq | hlt
  · exact absurd h (ofOffset_lt hlt hj).ne
  · exact heq
  · exact absurd h.symm (ofOffset_lt hlt hi).ne

end Position

end Order

section Insertion

variable {source filler : Text} {tokens : List Token} {place : Nat}

/-- A place between tokens and outside comments: behind a token, or behind the beginning of the
source, there is nothing but white space and complete comments up to there. -/
structure Token.Boundary (source : Text) (tokens : List Token) (place : Nat) : Prop where
  within : place ≤ source.length
  behind : ∃ stop ≤ place,
    (stop = 0 ∨ ∃ t ∈ tokens, ∃ start, t.Covers source start stop) ∧
      (source.slice stop place).IsFiller

theorem Token.Written.kind_ne {kind : TokenKind} {w value : Text} (h : Written kind w value) :
    kind ≠ .endOfSource := by
  cases h with
  | @mark c _ mark =>
    rintro rfl
    exact (by decide : ∀ c ∈ Piece.marks, Piece.punctuation? c ≠ some .endOfSource) c
      (Piece.mem_marks mark) mark
  | _ => decide

/-- A token begins with no white space. -/
theorem Token.Written.head_ne {kind : TokenKind} {w value : Text} (h : Written kind w value) :
    ∃ c ∈ w.head?, c ≠ Text.newline := by
  obtain ⟨c, cs, rfl, hscan⟩ := h.scan
  refine ⟨c, rfl, ?_⟩
  rintro rfl
  exact nomatch hscan

/-- What stands between tokens is complete by itself. -/
theorem Trivia.isFiller {gap after : Text} (h : Trivia gap after)
    (hafter : ∃ c ∈ after.head?, c ≠ Text.newline) : gap.IsFiller := by
  induction h with
  | nil => exact .nil
  | @cons piece gap after first more ih =>
    have hmore := ih hafter
    cases first with
    | blank blank => exact .blank blank hmore
    | block first => simpa using Text.IsFiller.block first hmore
    | @line body _ inline ends =>
      -- The line feed that ends the comment belongs to the gap, as no token begins with it.
      cases hmore with
      | nil =>
        obtain ⟨c, hc, hne⟩ := hafter
        exact absurd (ends c hc) hne
      | @blank c more blank rest =>
        obtain rfl := ends c rfl
        exact .line inline rest
      | line | block => exact absurd (ends '/'.toNat rfl) (by decide)

theorem Token.Partition.boundary {all : List Token} {offset : Nat}
    (h : Partition source offset tokens) (hall : ∀ t ∈ tokens, t ∈ all)
    (hoffset : offset = 0 ∨ ∃ t ∈ all, ∃ start, t.Covers source start offset) {t : Token}
    (ht : t ∈ tokens) {start stop : Nat} (hcovers : t.Covers source start stop) :
    Boundary source all start := by
  induction h with
  | done =>
    obtain rfl := List.mem_singleton.mp ht
    exact absurd rfl hcovers.written.kind_ne
  | @token offset start' stop' u tokens order gap covers more ih =>
    rcases List.mem_cons.mp ht with rfl | ht
    · have hspan := covers.span.symm.trans hcovers.span
      have hwithin := hcovers.nonempty.le.trans hcovers.within
      obtain rfl := Position.ofOffset_inj (covers.nonempty.le.trans covers.within) hwithin
        (congrArg Span.first hspan)
      refine ⟨hwithin, offset, order, hoffset, gap.isFiller ?_⟩
      obtain ⟨c, hc, hne⟩ := covers.written.head_ne
      obtain ⟨more, hmore⟩ := List.head?_eq_some_iff.mp hc
      rw [← Text.slice_length, ← Text.slice_append_slice covers.nonempty.le covers.within
        covers.within, hmore]
      exact ⟨c, rfl, hne⟩
    · exact ih (fun t ht => hall t (List.mem_cons_of_mem u ht))
        (.inr ⟨u, hall u List.mem_cons_self, start', covers⟩) ht

/-- There is a boundary in front of each token and behind it. -/
theorem Token.Boundary.of_covers (h : Token.ofSource source = .ok tokens) {t : Token}
    (ht : t ∈ tokens) {start stop : Nat} (hcovers : t.Covers source start stop) :
    Boundary source tokens start ∧ Boundary source tokens stop := by
  have hpartition : Partition ([] ++ source) ([] : Text).length tokens :=
    (pieces_of_listFrom h).partition rfl
  refine ⟨hpartition.boundary (fun _ h => h) (.inl rfl) ht hcovers,
    hcovers.within, stop, le_rfl, .inr ⟨t, ht, start, hcovers⟩, ?_⟩
  rw [Text.slice, List.drop_eq_nil_of_le (List.length_take_le _ _)]
  exact .nil

/-- A source is cut behind a token, or at its beginning. -/
theorem Token.Pieces.cut_at {stop : Nat} (h : Pieces Position.start source tokens)
    (hstop : stop = 0 ∨ ∃ t ∈ tokens, ∃ start, t.Covers source start stop) :
    ∃ front back, tokens = front ++ back ∧
      Pieces (Position.start.after (source.take stop)) (source.drop stop) back ∧
      ∀ rest others, rest = source.drop stop ∨ Interrupts rest →
        Pieces (Position.start.after (source.take stop)) rest others →
          Pieces Position.start (source.take stop ++ rest) (front ++ others) := by
  rcases hstop with rfl | ⟨t, ht, start, hcovers⟩
  · exact ⟨[], tokens, rfl, h, fun rest others _ hothers => hothers⟩
  · obtain ⟨front, back, rfl⟩ := List.append_of_mem ht
    obtain ⟨before, post, rfl, -, hspan, hpost, hreplace⟩ := h.cut hcovers.written.kind_ne
    -- The token that covers the stretch ends where the source is cut.
    have hlength : before.length = stop := by
      refine Position.ofOffset_inj (by simp) hcovers.within ?_
      rw [Position.ofOffset_length, ← hspan, hcovers.span]
    subst hlength
    rw [List.take_left, List.drop_left]
    refine ⟨front ++ [t], back, by simp, hpost, fun rest others hrest hothers => ?_⟩
    simpa using hreplace rest others hrest hothers

/-- White space and complete comments may be inserted at a boundary: the tokens stay the same, at
other places. -/
theorem Token.Boundary.insert (hplace : Boundary source tokens place)
    (h : Token.ofSource source = .ok tokens) (hfiller : filler.IsFiller) :
    ∃ tokens', Token.ofSource (source.take place ++ filler ++ source.drop place) = .ok tokens' ∧
      Token.AllAlike .any tokens tokens' := by
  obtain ⟨hwithin, stop, hle, hstop, hgap⟩ := hplace
  obtain ⟨front, back, rfl, hback, hreplace⟩ := (pieces_of_listFrom h).cut_at hstop
  have hbehind : source.drop stop = source.slice stop place ++ source.drop place := by
    rw [← Text.slice_length, ← Text.slice_length,
      Text.slice_append_slice hle hwithin hwithin]
  have hbefore : source.take place = source.take stop ++ source.slice stop place := by
    have hslices := Text.slice_append_slice (Nat.zero_le stop) hle (hle.trans hwithin)
    simpa [Text.slice] using hslices.symm
  generalize source.slice stop place = gap at hgap hbehind hbefore
  have hpost : Token.listFrom 0 ((Position.start.after (source.take stop)).after gap)
      (source.drop place) = .ok back := by
    rw [← hgap.listFrom, ← hbehind]
    exact hback.listFrom
  obtain ⟨back', hback', halike⟩ := (pieces_of_listFrom hpost).move
    ((Position.start.after (source.take stop)).after (gap ++ filler))
  have hnew : Token.listFrom 0 (Position.start.after (source.take stop))
      (gap ++ filler ++ source.drop place) = .ok back' := by
    rw [(hgap.append hfiller).listFrom]
    exact hback'.listFrom
  have hrest : gap ++ filler ++ source.drop place = source.drop stop ∨
      Interrupts (gap ++ filler ++ source.drop place) := by
    by_cases hnil : gap ++ filler = []
    · obtain ⟨rfl, rfl⟩ := List.append_eq_nil_iff.mp hnil
      exact .inl hbehind.symm
    · exact .inr ((hgap.append hfiller).interrupts hnil _)
  refine ⟨front ++ back', ?_, halike.prepend front⟩
  rw [hbefore, List.append_assoc, List.append_assoc, ← List.append_assoc gap]
  exact (hreplace _ _ hrest (pieces_of_listFrom hnew)).listFrom

end Insertion

end Conform
