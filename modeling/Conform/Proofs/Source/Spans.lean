import Conform.Proofs.Source.Boundaries
import Conform.Proofs.Source.Nodes

/-!
# The stretches of nodes

The stretches of the nodes of a tree nest as the nodes do, those of successive children are disjoint
and in order, and what a stretch delimits is the node: read on its own, it gives the expression at
other places.

## Main definitions

- `Token.InOrder` — tokens that stand one behind the other
- `Token.Pieces.slice` — a row of tokens is cut out of a source
- `Expr.ofSource_spans` — the stretches of the nodes of a source
-/

namespace Conform

section Order

variable {row part : List Token} {s s' : Span} {t : Token}

/-- Tokens stand one behind the other. -/
structure Token.InOrder (row : List Token) : Prop where
  each : ∀ t ∈ row, t.span.first ≤ t.span.stop
  ordered : row.Pairwise fun t u => t.span.stop ≤ u.span.first

namespace Token.InOrder

theorem of_part (h : InOrder row) (hpart : part <:+: row) : InOrder part :=
  ⟨fun t ht => h.each t (hpart.subset ht), h.ordered.sublist hpart.sublist⟩

/-- No token begins before the first one or ends behind the last one. -/
theorem within (h : InOrder row) (hs : s.Delimits row) (ht : t ∈ row) :
    s.first ≤ t.span.first ∧ t.span.stop ≤ s.stop := by
  constructor
  · obtain ⟨u, hu, hfirst⟩ := Option.map_eq_some_iff.mp hs.first
    obtain ⟨more, rfl⟩ := List.head?_eq_some_iff.mp hu
    rcases List.mem_cons.mp ht with rfl | ht
    · exact hfirst.symm.le
    · rw [← hfirst]
      exact (h.each u List.mem_cons_self).trans (List.rel_of_pairwise_cons h.ordered ht)
  · obtain ⟨u, hu, hstop⟩ := Option.map_eq_some_iff.mp hs.stop
    obtain ⟨front, rfl⟩ := List.getLast?_eq_some_iff.mp hu
    rcases List.mem_append.mp ht with ht | ht
    · rw [← hstop]
      exact ((List.pairwise_append.mp h.ordered).2.2 t ht u List.mem_cons_self).trans
        (h.each u (by simp))
    · obtain rfl := List.mem_singleton.mp ht
      exact hstop.le

end Token.InOrder

/-- The first and the last token of a row. -/
theorem Span.Delimits.ends (h : s.Delimits row) :
    (∃ t ∈ row, t.span.first = s.first) ∧ ∃ t ∈ row, t.span.stop = s.stop := by
  obtain ⟨t, ht, hfirst⟩ := Option.map_eq_some_iff.mp h.first
  obtain ⟨u, hu, hstop⟩ := Option.map_eq_some_iff.mp h.stop
  exact ⟨⟨t, List.mem_of_head? ht, hfirst⟩, ⟨u, List.mem_of_getLast? hu, hstop⟩⟩

/-- The stretch of a part of a row lies inside that of the row. -/
theorem Span.Delimits.within (h : s.Delimits row) (h' : s'.Delimits part)
    (horder : Token.InOrder row) (hpart : part <:+: row) :
    s.first ≤ s'.first ∧ s'.stop ≤ s.stop := by
  obtain ⟨⟨t, ht, hfirst⟩, ⟨u, hu, hstop⟩⟩ := h'.ends
  rw [← hfirst, ← hstop]
  exact ⟨(horder.within h (hpart.subset ht)).1, (horder.within h (hpart.subset hu)).2⟩

variable {limit : Nat} {nodes : List Expr.Node}

/-- Nodes that are read from parts of a row have disjoint stretches. -/
theorem Expr.Node.Parts.pairwise (h : Parts limit row nodes) (horder : Token.InOrder row) :
    nodes.Pairwise fun l r => l.span.stop ≤ r.span.first := by
  induction h with
  | nil => exact .nil
  | @cons gap row rest node nodes first more ih =>
    refine .cons (fun other hother => ?_) (ih (horder.of_part ?_))
    · obtain ⟨part, hpart, hread⟩ := more.mem hother
      obtain ⟨-, ⟨t, ht, hstop⟩⟩ := first.delimits.ends
      obtain ⟨⟨u, hu, hfirst⟩, -⟩ := hread.delimits.ends
      rw [← hstop, ← hfirst]
      have hrows := (List.pairwise_append.mp horder.ordered).2.1
      exact (List.pairwise_append.mp hrows).2.2 t ht u (hpart.subset hu)
    · exact List.IsSuffix.isInfix ⟨gap ++ row, List.append_assoc gap row rest⟩

end Order

section Cutting

variable {p : Position} {text source : Text} {tokens front row back : List Token} {s : Span}

/-- The tokens of a source stand one behind the other. -/
theorem Token.Pieces.inOrder (h : Pieces p text tokens) : Token.InOrder tokens := by
  induction h with
  | done => exact ⟨by simp, List.pairwise_singleton _ _⟩
  | trivia piece more ih => exact ih
  | @token p kind w value rest tokens written ends more ih =>
    refine ⟨List.forall_mem_cons.mpr ⟨p.le_after w, ih.each⟩, .cons (fun t ht => ?_) ih.ordered⟩
    obtain ⟨before, -, -, hfirst⟩ := more.first ht
    rw [hfirst]
    exact Position.le_after _ before

/-- Only the last token ends the source. -/
theorem Token.Pieces.last (h : Pieces p text tokens) : ∃ front last, tokens = front ++ [last] ∧
    last.kind = .endOfSource ∧ ∀ t ∈ front, t.kind ≠ .endOfSource := by
  induction h with
  | @done p => exact ⟨[], _, rfl, rfl, nofun⟩
  | trivia piece more ih => exact ih
  | token written ends more ih =>
    obtain ⟨front, last, rfl, hlast, hfront⟩ := ih
    exact ⟨_ :: front, last, rfl, hlast, List.forall_mem_cons.mpr ⟨written.kind_ne, hfront⟩⟩

/-- What stands behind some tokens is scanned from the end of the last of them on. -/
theorem Token.Pieces.behind (h : Pieces p text (front ++ back))
    (hfront : ∀ t ∈ front, t.kind ≠ .endOfSource) :
    ∃ before rest, text = before ++ rest ∧ Pieces (p.after before) rest back := by
  induction front generalizing p text with
  | nil => exact ⟨[], text, rfl, h⟩
  | cons t front ih =>
    obtain ⟨ht, hfront⟩ := List.forall_mem_cons.mp hfront
    have hfirst : Pieces p text ([] ++ t :: (front ++ back)) := h
    obtain ⟨before, post, rfl, -, -, hpost, -⟩ := hfirst.cut ht
    obtain ⟨before', rest, rfl, hrest⟩ := ih hpost hfront
    refine ⟨before ++ before', rest, (List.append_assoc before before' rest).symm, ?_⟩
    rwa [Position.after_append]

/-- A row of tokens is cut out of a source: the text from its first to its last token has these
tokens, at other places, and no other ones. -/
theorem Token.Pieces.row_alone (h : Pieces Position.start source (front ++ (row ++ back)))
    (hkind : ∀ t ∈ front ++ row, t.kind ≠ .endOfSource) (hs : s.Delimits row) :
    ∃ before w rest, source = before ++ w ++ rest ∧ w ≠ [] ∧
      s = ⟨Position.start.after before, Position.start.after (before ++ w)⟩ ∧
      ∃ last tokens, last.kind = .endOfSource ∧ Token.ofSource w = .ok tokens ∧
        Token.AllAlike .any (row ++ [last]) tokens := by
  obtain ⟨hfront, hrow⟩ := List.forall_mem_append.mp hkind
  obtain ⟨before, text, rfl, hpieces⟩ := h.behind hfront
  obtain ⟨t, ht, hfirst⟩ := Option.map_eq_some_iff.mp hs.first
  obtain ⟨u, hu, hstop⟩ := Option.map_eq_some_iff.mp hs.stop
  obtain ⟨more, hmore⟩ := List.head?_eq_some_iff.mp ht
  obtain ⟨init, hinit⟩ := List.getLast?_eq_some_iff.mp hu
  -- White space in front of the row is cut off, and so is everything behind it.
  rw [hmore, List.cons_append] at hpieces
  obtain ⟨gap, text, rfl, hgap, hpieces⟩ := hpieces.gap
  rw [← List.cons_append, ← hmore, hinit, List.append_assoc] at hpieces
  obtain ⟨w, rest, rfl, hne, hspan, -, hreplace⟩ := hpieces.cut (hrow u (List.mem_of_getLast? hu))
  have halone := hreplace [] _ (.inr interrupts_nil) .done
  rw [List.append_nil] at halone
  obtain ⟨tokens, htokens, halike⟩ := halone.move Position.start
  refine ⟨before ++ gap, w, rest, by simp, hne, ?_, ⟨.endOfSource, [], _⟩, tokens, rfl,
    htokens.listFrom, by simpa [hinit] using halike⟩
  have hbefore : Position.start.after (before ++ gap) = s.first := by
    rw [Position.after_append, ← hgap, hfirst]
  have hbehind : Position.start.after (before ++ gap ++ w) = s.stop := by
    rw [Position.after_append, Position.after_append, ← hspan, hstop]
  rw [hbefore, hbehind]

end Cutting

/-- The tokens of an expression, read on their own. -/
theorem Expr.Node.ReadFrom.read {row tokens : List Token} {last : Token} {e : Expr}
    (h : ReadFrom Parsing.nestingLimit row (.expression e)) (hlast : last.kind = .endOfSource)
    (halike : Token.AllAlike .any (row ++ [last]) tokens) :
    ∃ alone, Expr.ofTokens tokens = .ok alone ∧ alone.unplaced = e.unplaced := by
  cases h with
  | @expression d levels delimits =>
    have hread : Expr.ofTokens (d.tokens ++ [last]) = .ok d.tree := by
      have htokens : Grammar.Derivation.tokens ⟨d, none⟩ = d.tokens := List.append_nil d.tokens
      rw [← htokens, Expr.ofTokens_derivation ⟨d, none⟩ hlast]
      exact if_pos levels
    have hanswers := Expr.ofTokens_alike halike trivial
    rw [hread] at hanswers
    generalize Expr.ofTokens tokens = result at hanswers
    cases hanswers with
    | read alike => exact ⟨_, rfl, alike.unplaced.symm⟩

/-- A source that is read is read from a row of its tokens. -/
theorem Expr.ofSource_readFrom {source : Text} {e : Expr} (h : Expr.ofSource source = .ok e) :
    ∃ front row back, Token.Pieces Position.start source (front ++ (row ++ back)) ∧
      (∀ t ∈ front ++ row, t.kind ≠ .endOfSource) ∧
      Node.ReadFrom Parsing.nestingLimit row (.expression e) := by
  unfold Expr.ofSource at h
  cases htokens : Token.ofSource source with
  | error flaw =>
    rw [htokens] at h
    exact nomatch h
  | ok tokens =>
    rw [htokens] at h
    have hpieces := pieces_of_listFrom htokens
    obtain ⟨tokens, last, rfl, hlast, honly⟩ := hpieces.last
    obtain ⟨d, rfl, rfl, hlevels⟩ := (Expr.ofTokens_eq_ok_iff hlast honly e).mp h
    obtain ⟨row, ⟨front, back, hrow⟩, hread⟩ :=
      (d.expression.located hlevels).self.mem List.mem_cons_self
    have hsplit : front ++ (row ++ (back ++ (d.semicolon.toList.map (·.token) ++ [last]))) =
        d.tokens ++ [last] := by
      rw [Grammar.Derivation.tokens, ← hrow]
      simp only [List.append_assoc]
    refine ⟨front, row, _, hsplit ▸ hpieces, fun t ht => honly t ?_, hread⟩
    rw [Grammar.Derivation.tokens, ← hrow]
    exact List.mem_append_left _ (List.mem_append_left _ ht)

/-- The stretches of the nodes of a source that is read. Each child's stretch lies inside that of
its parent, and the stretches of successive children are disjoint and in source order. Each stretch
is the place of some of the source, and if the node is an expression, then reading this text on its
own gives the same expression up to places. -/
theorem Expr.ofSource_spans {source : Text} {e : Expr} {node : Expr.Node}
    (h : Expr.ofSource source = .ok e) (hnode : Node.Below (.expression e) node) :
    (∀ child ∈ node.children,
      node.span.first ≤ child.span.first ∧ child.span.stop ≤ node.span.stop) ∧
    (node.children.Pairwise fun l r => l.span.stop ≤ r.span.first) ∧
    ∃ start stop, start < stop ∧ stop ≤ source.length ∧
      node.span = ⟨Position.ofOffset source start, Position.ofOffset source stop⟩ ∧
      ∀ part, node = .expression part → ∃ alone,
        Expr.ofSource (source.slice start stop) = .ok alone ∧ alone.unplaced = part.unplaced := by
  obtain ⟨front, row, back, hpieces, hkind, hread⟩ := Expr.ofSource_readFrom h
  obtain ⟨part, ⟨front', back', hpart⟩, hread⟩ := hread.below hnode
  have horder : Token.InOrder part := hpieces.inOrder.of_part ⟨front ++ front', back' ++ back, by
    rw [← hpart]
    simp only [List.append_assoc]⟩
  refine ⟨fun child hchild => ?_, hread.parts.pairwise horder, ?_⟩
  · obtain ⟨row', hrow', hchild⟩ := hread.parts.mem hchild
    exact hread.delimits.within hchild.delimits horder hrow'
  · have hsplit : front ++ (row ++ back) = front ++ front' ++ (part ++ (back' ++ back)) := by
      rw [← hpart]
      simp only [List.append_assoc]
    rw [hsplit] at hpieces
    have hplain : ∀ t ∈ front ++ front' ++ part, t.kind ≠ .endOfSource := by
      intro t ht
      refine hkind t ?_
      rw [← hpart]
      simp only [List.append_assoc, List.mem_append] at ht ⊢
      tauto
    obtain ⟨before, w, rest, rfl, hne, hspan, last, tokens, hlast, htokens, halike⟩ :=
      hpieces.row_alone hplain hread.delimits
    refine ⟨before.length, (before ++ w).length, ?_, by simp, ?_, ?_⟩
    · rw [List.length_append]
      exact Nat.lt_add_of_pos_right (List.length_pos_iff.mpr hne)
    · rw [hspan, Position.ofOffset_length, List.append_assoc, Position.ofOffset_length]
    · rintro e' rfl
      rw [Text.slice_append, Expr.ofSource, htokens]
      exact hread.read hlast halike

/-- An object on the second line of a call, whose property ends behind a parenthesis. -/
theorem Expr.ofSource_spans_call :
    let source : Text := "f(a,\n\x7bk: (b)\x7d)"
    let object : Expr := .object ⟨⟨2, 1⟩, ⟨2, 9⟩⟩
      [(⟨⟨⟨2, 2⟩, ⟨2, 8⟩⟩, "k"⟩, .identifier ⟨⟨2, 6⟩, ⟨2, 7⟩⟩ "b")]
    let e : Expr := .call ⟨⟨1, 1⟩, ⟨2, 10⟩⟩ (.identifier ⟨⟨1, 1⟩, ⟨1, 2⟩⟩ "f")
      [.identifier ⟨⟨1, 3⟩, ⟨1, 4⟩⟩ "a", object]
    Expr.ofSource source = .ok e ∧ Node.Below (.expression e) (.expression object) ∧
      ∃ start stop, start < stop ∧ stop ≤ source.length ∧
        object.span = ⟨Position.ofOffset source start, Position.ofOffset source stop⟩ ∧
        ∃ alone, Expr.ofSource (source.slice start stop) = .ok alone ∧
          alone.unplaced = object.unplaced := by
  intro source object e
  have hread : Expr.ofSource source = .ok e := by with_unfolding_all rfl
  have hnode : Node.Below (.expression e) (.expression object) :=
    .single (List.mem_cons_of_mem _ (List.mem_cons_of_mem _ List.mem_cons_self))
  obtain ⟨-, -, start, stop, hlt, hle, hspan, halone⟩ := Expr.ofSource_spans hread hnode
  exact ⟨hread, hnode, start, stop, hlt, hle, hspan, halone object rfl⟩

end Conform
