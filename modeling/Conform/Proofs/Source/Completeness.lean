import Conform.Proofs.Source.Soundness

/-!
# What derives from the grammar is read

A reading step passes the tokens of a derivation and gives its tree, whatever may stand behind them,
exactly if fuel and depth suffice for it. Together with soundness this says which lists of tokens
are read, and as what.

## Main definitions

- `Parsing.Gets`, `Parsing.Runs` — what a step gives, always or exactly if fuel and depth suffice
- `Phrase.steps`, `Phrase.levels` — how much fuel and depth a derivation takes
- `Phrase.Read`, `Phrase.read` — reading steps give the trees of derivations
- `Expr.ofTokens_spec` — reading a whole source
-/

namespace Conform

open Grammar TokenStream

namespace Parsing

variable {α β : Type} {s s' s'' : TokenStream} {a : α} {b : β} {p : Position} {t : Token}
  {rest : List Token}

/-- A step gives a result and leaves a stream behind. -/
def Gets (m : Parsing α) (s : TokenStream) (a : α) (s' : TokenStream) : Prop :=
  m.run s = .ok (a, s')

/-- A step gives a result and leaves a stream behind if fuel and depth suffice, and runs out of them
if they do not. -/
structure Runs (fits : Prop) (m : Parsing α) (s : TokenStream) (a : α) (s' : TokenStream) :
    Prop where
  read : fits → m.run s = .ok (a, s')
  tooDeep : ¬fits → m.run s = .error .tooDeep

theorem Gets.runs {fits : Prop} {m : Parsing α} (h : Gets m s a s') (hfits : fits) :
    Runs fits m s a s' := ⟨fun _ => h, fun hnot => absurd hfits hnot⟩

theorem gets_pure (a : α) (s : TokenStream) : Gets (pure a) s a s := rfl

/-- One step after another. -/
theorem Gets.seq {m : Parsing α} {f : α → Parsing β} (h : Gets m s a s')
    (hf : Gets (f a) s' b s'') : Gets (m >>= f) s b s'' := by
  unfold Gets at h ⊢
  rw [StateT.run_bind, h]
  exact hf

/-- A step behind one that needs neither fuel nor depth. -/
theorem Gets.bind {fits : Prop} {m : Parsing α} {f : α → Parsing β} (h : Gets m s a s')
    (hf : Runs fits (f a) s' b s'') : Runs fits (m >>= f) s b s'' := by
  unfold Gets at h
  constructor <;> intro hfits <;> rw [StateT.run_bind, h]
  · exact hf.read hfits
  · exact hf.tooDeep hfits

/-- What does not suffice for the first step does not suffice for both. -/
theorem Runs.bind {first fits : Prop} {m : Parsing α} {f : α → Parsing β}
    (h : Runs first m s a s') (hfits : fits → first)
    (hf : first → Runs fits (f a) s' b s'') : Runs fits (m >>= f) s b s'' := by
  by_cases hfirst : first
  · exact Gets.bind (h.read hfirst) (hf hfirst)
  · refine ⟨fun hall => absurd (hfits hall) hfirst, fun _ => ?_⟩
    rw [StateT.run_bind, h.tooDeep hfirst]
    rfl

theorem Runs.congr {fits fits' : Prop} {m : Parsing α} (h : Runs fits m s a s')
    (hiff : fits ↔ fits') : Runs fits' m s a s' :=
  ⟨fun hfits => h.read (hiff.mpr hfits), fun hnot => h.tooDeep (mt hiff.mp hnot)⟩

theorem gets_peek (s : TokenStream) : Gets peek s s.current s := run_peek s

theorem gets_pass (t : Token) : Gets (pass t) ⟨p, t :: rest⟩ () ⟨t.span.stop, rest⟩ := rfl

theorem gets_accept {kind : TokenKind} (h : t.kind = kind) :
    Gets (accept kind) ⟨p, t :: rest⟩ true ⟨t.span.stop, rest⟩ :=
  (run_accept kind _).trans (if_pos h)

theorem gets_accept_other {kind : TokenKind} (h : s.current.kind ≠ kind) :
    Gets (accept kind) s false s :=
  (run_accept kind s).trans (if_neg h)

theorem gets_accept_cons {kind : TokenKind} (h : t.kind ≠ kind) :
    Gets (accept kind) ⟨p, t :: rest⟩ false ⟨p, t :: rest⟩ := gets_accept_other h

theorem gets_expect {kind : TokenKind} (h : t.kind = kind) (what : Text) :
    Gets (expect kind what) ⟨p, t :: rest⟩ t ⟨t.span.stop, rest⟩ :=
  (run_expect kind what _).trans (if_pos h)

theorem gets_take (h : t.kind ≠ .endOfSource) :
    Gets take ⟨p, t :: rest⟩ t ⟨t.span.stop, rest⟩ :=
  (run_take _).trans (if_pos h)

theorem gets_spanFrom (start : Token) (s : TokenStream) :
    Gets (spanFrom start) s ⟨start.span.first, s.stop⟩ s := rfl

theorem gets_numberOf (n : Numeral) (s : TokenStream) :
    Gets (numberOf n.token) s n.value s := by
  rw [numberOf, n.denotes]
  exact gets_pure n.value s

theorem gets_propertyName (k : KeyToken) (s : TokenStream) :
    Gets (propertyName k.token) s k.key s := by
  cases k with
  | name t =>
    simp only [propertyName, KeyToken.token, t.kind_eq]
    exact gets_pure _ s
  | text t =>
    simp only [propertyName, KeyToken.token, t.kind_eq]
    exact gets_pure _ s
  | number n =>
    simp only [propertyName, KeyToken.token, n.kind_eq]
    exact (gets_numberOf n s).seq (gets_pure _ s)

theorem gets_refuseArrow (h : s.current.kind ≠ .fatArrow) : Gets refuseArrow s () s := by
  refine (gets_peek s).seq ?_
  rw [if_neg h]
  exact gets_pure () s

theorem gets_refuseStatement (h : ¬(t.kind = .identifier ∧ t.value ∈ statementKeywords)) :
    Gets (refuseStatement t) s () s := by
  rw [refuseStatement, if_neg h]
  exact gets_pure () s

section OutOfFuel

variable {depth : Nat} {e e' : Expr} {fits : Prop}

theorem runs_tooDeep {m : Parsing α} (h : m.run s = .error .tooDeep) (hfits : ¬fits) :
    Runs fits m s a s' := ⟨fun hfit => absurd hfit hfits, fun _ => h⟩

theorem runs_expression_zero (h : ¬fits) : Runs fits (expression 0 depth) s e s' :=
  runs_tooDeep (by rw [expression]; rfl) h

theorem runs_postfixes_zero {start : Token} (h : ¬fits) :
    Runs fits (postfixes 0 depth start e) s e' s' :=
  runs_tooDeep (by rw [postfixes]; rfl) h

theorem runs_sequence_zero {closing : TokenKind} {what : Text} {es : List Expr} (h : ¬fits) :
    Runs fits (sequence 0 depth closing what) s es s' :=
  runs_tooDeep (by rw [sequence]; rfl) h

theorem runs_properties_zero {ps : List (PropertyKey × Expr)} (h : ¬fits) :
    Runs fits (properties 0 depth) s ps s' :=
  runs_tooDeep (by rw [properties]; rfl) h

theorem runs_primary_zero (h : ¬fits) : Runs fits (primary 0 depth) s e s' :=
  runs_tooDeep (by rw [primary]; rfl) h

end OutOfFuel

/-- What does not stand at the beginning of the rest is not the current token. -/
theorem current_kind_ne {kind : TokenKind} (hkind : kind ≠ .endOfSource)
    (h : ∀ t ∈ rest.head?, t.kind ≠ kind) :
    (⟨p, rest⟩ : TokenStream).current.kind ≠ kind := by
  cases rest with
  | nil => exact hkind.symm
  | cons t rest => exact h t rfl

end Parsing

open Parsing

namespace Grammar

/-- How often the reading of a derivation calls itself, one call inside the other. -/
@[simp]
def Phrase.steps : {c : Category} → Phrase c → Nat
  | _, .expression head tail => max head.steps tail.steps + 1
  | _, .member _ _ tail => tail.steps + 1
  | _, .call _ arguments _ tail => max arguments.steps tail.steps + 1
  | _, .last e => e.steps + 1
  | _, .more e _ others => max e.steps others.steps + 1
  | _, .lastProperty _ _ e => e.steps + 1
  | _, .moreProperties _ _ e _ others => max e.steps others.steps + 1
  | _, .array _ elements _ => elements.steps + 1
  | _, .object _ fields _ => fields.steps + 1
  | _, .parenthesized _ e _ => e.steps + 1
  | _, .bare | _, .empty | _, .noProperty | _, .name _ _ | _, .string _ | _, .number _
  | _, .signed _ _ | _, .regex _ => 1

/-- How deep expressions are nested in a derivation. -/
@[simp]
def Phrase.levels : {c : Category} → Phrase c → Nat
  | _, .expression head tail => max head.levels tail.levels + 1
  | _, .member _ _ tail => tail.levels
  | _, .call _ arguments _ tail => max arguments.levels tail.levels
  | _, .last e => e.levels
  | _, .more e _ others => max e.levels others.levels
  | _, .lastProperty _ _ e => e.levels
  | _, .moreProperties _ _ e _ others => max e.levels others.levels
  | _, .array _ elements _ => elements.levels
  | _, .object _ fields _ => fields.levels
  | _, .parenthesized _ e _ => e.levels
  | _, .bare | _, .empty | _, .noProperty | _, .name _ _ | _, .string _ | _, .number _
  | _, .signed _ _ | _, .regex _ => 0

/-- Fuel and depth suffice for reading a derivation. -/
structure Phrase.Fits {c : Category} (d : Phrase c) (fuel depth : Nat) : Prop where
  steps : d.steps ≤ fuel
  levels : d.levels ≤ depth

theorem Phrase.fits_iff {c : Category} {d : Phrase c} {fuel depth : Nat} :
    d.Fits fuel depth ↔ d.steps ≤ fuel ∧ d.levels ≤ depth :=
  ⟨fun h => ⟨h.steps, h.levels⟩, fun h => ⟨h.1, h.2⟩⟩

theorem Phrase.steps_pos {c : Category} (d : Phrase c) : 0 < d.steps := by
  cases d <;> exact Nat.succ_pos _

theorem Phrase.not_fits_zero {c : Category} (d : Phrase c) (depth : Nat) : ¬d.Fits 0 depth :=
  fun h => absurd h.steps (Nat.not_le_of_lt d.steps_pos)

/-- The reading steps give the tree of a derivation, whatever may stand behind it, exactly if fuel
and depth suffice. -/
def Phrase.Read : {c : Category} → Phrase c → Prop
  | .expression, d => ∀ (fuel depth : Nat) (p : Position) (rest : List Token),
    Category.expression.Follows rest →
      Runs (d.Fits fuel depth) (Parsing.expression fuel depth) ⟨p, d.tokens ++ rest⟩ d.tree
        ⟨stopAfter p d.tokens, rest⟩
  | .postfixes, d => ∀ (fuel depth : Nat) (p : Position) (rest : List Token) (start : Token)
    (e : Expr), Category.postfixes.Follows rest →
      Runs (d.Fits fuel depth) (Parsing.postfixes fuel depth start e) ⟨p, d.tokens ++ rest⟩
        (d.tree start.span.first e) ⟨stopAfter p d.tokens, rest⟩
  | .sequence, d => ∀ (fuel depth : Nat) (p : Position) (rest : List Token) {closing : TokenKind}
    (what : Text) (t : Terminal closing), closing = .rightParen ∨ closing = .rightBracket →
      Runs (d.Fits fuel depth) (Parsing.sequence fuel depth closing what)
        ⟨p, d.tokens ++ t.token :: rest⟩ d.tree ⟨t.token.span.stop, rest⟩
  | .properties, d => ∀ (fuel depth : Nat) (p : Position) (rest : List Token)
    (t : Terminal .rightBrace),
      Runs (d.Fits fuel depth) (Parsing.properties fuel depth) ⟨p, d.tokens ++ t.token :: rest⟩
        d.tree ⟨t.token.span.stop, rest⟩
  | .primary, d => ∀ (fuel depth : Nat) (p : Position) (rest : List Token),
    Category.primary.Follows rest →
      Runs (d.Fits fuel depth) (Parsing.primary fuel depth) ⟨p, d.tokens ++ rest⟩ d.tree
        ⟨stopAfter p d.tokens, rest⟩

theorem Phrase.first_free (d : Phrase .primary) :
    ¬(d.first.kind = .identifier ∧ d.first.value ∈ statementKeywords) := by
  cases d with
  | name t free => exact fun h => free h.2
  | number n => simp [first, n.kind_eq]
  | signed sign n => rcases sign.kind_eq with h | h <;> simp [first, h]
  | _ => simp [first]

/-- The current token before an expression. -/
theorem Phrase.startsExpression_current (e : Phrase .expression) (p : Position)
    (rest : List Token) :
    StartsExpression (⟨p, e.tokens ++ rest⟩ : TokenStream).current.kind := by
  obtain ⟨t, more, htokens, hstarts⟩ := e.tokens_expression
  rw [htokens]
  exact hstarts

section Steps

variable {fuel depth : Nat} {p : Position} {rest : List Token}

theorem read_expression {head : Phrase .primary} {tail : Phrase .postfixes} (ihhead : head.Read)
    (ihtail : tail.Read) : (Phrase.expression head tail).Read := by
  intro fuel depth p rest hrest
  rw [Phrase.tokens, List.append_assoc, Phrase.fits_iff, Phrase.steps, Phrase.levels]
  cases fuel with
  | zero => exact runs_expression_zero (by omega)
  | succ fuel =>
    rw [Parsing.expression]
    by_cases hdepth : depth = 0
    · rw [if_pos hdepth]
      exact runs_tooDeep rfl (by omega)
    · rw [if_neg hdepth]
      have hcurrent : (⟨p, head.tokens ++ (tail.tokens ++ rest)⟩ : TokenStream).current =
          head.first := by
        obtain ⟨more, hmore⟩ := head.tokens_primary
        rw [hmore]
        rfl
      refine (gets_peek _).bind ?_
      rw [hcurrent]
      refine (gets_refuseStatement head.first_free).bind ?_
      refine (ihhead fuel (depth - 1) p _ (tail.follows_primary hrest)).bind
        (fun hfits => ⟨by omega, by omega⟩) fun hhead => ?_
      refine (ihtail fuel (depth - 1) _ rest head.first head.tree hrest).bind
        (fun hfits => ⟨by omega, by omega⟩) fun htail => ?_
      rw [stopAfter, stopAfter, ← List.foldl_append]
      have hsteps := hhead.steps
      have hlevels := hhead.levels
      have hsteps' := htail.steps
      have hlevels' := htail.levels
      refine Gets.runs ((gets_refuseArrow ?_).seq (gets_pure _ _)) (by omega)
      exact current_kind_ne (by decide) fun t ht => (hrest t ht).2.2

theorem read_member {dot : Terminal .dot} {target : Terminal .identifier}
    {tail : Phrase .postfixes} (ih : tail.Read) : (Phrase.member dot target tail).Read := by
  intro fuel depth p rest start e hrest
  rw [Phrase.tokens, List.cons_append, List.cons_append, Phrase.fits_iff, Phrase.steps,
    Phrase.levels]
  cases fuel with
  | zero => exact runs_postfixes_zero (by omega)
  | succ fuel =>
    rw [Parsing.postfixes]
    refine (gets_accept dot.kind_eq).bind ?_
    rw [if_pos rfl]
    refine (gets_expect target.kind_eq _).bind ?_
    refine (gets_spanFrom start _).bind ?_
    refine (ih fuel depth _ rest start _ hrest).congr ?_
    rw [Phrase.fits_iff, Nat.add_le_add_iff_right]

theorem read_bare : Phrase.bare.Read := by
  intro fuel depth p rest start e hrest
  rw [Phrase.tokens, List.nil_append]
  cases fuel with
  | zero => exact runs_postfixes_zero (Phrase.not_fits_zero _ depth)
  | succ fuel =>
    rw [Parsing.postfixes]
    have hdot : (⟨p, rest⟩ : TokenStream).current.kind ≠ .dot :=
      current_kind_ne (by decide) fun t ht => (hrest t ht).1
    have hparen : (⟨p, rest⟩ : TokenStream).current.kind ≠ .leftParen :=
      current_kind_ne (by decide) fun t ht => (hrest t ht).2.1
    refine (gets_accept_other hdot).bind ?_
    rw [if_neg Bool.false_ne_true]
    refine (gets_accept_other hparen).bind ?_
    rw [if_neg Bool.false_ne_true]
    exact (gets_pure _ _).runs ⟨Nat.succ_pos fuel, Nat.zero_le depth⟩

theorem read_call {opening : Terminal .leftParen} {arguments : Phrase .sequence}
    {closing : Terminal .rightParen} {tail : Phrase .postfixes} (iharguments : arguments.Read)
    (ihtail : tail.Read) : (Phrase.call opening arguments closing tail).Read := by
  intro fuel depth p rest start e hrest
  simp only [Phrase.tokens, List.cons_append, List.append_assoc]
  rw [Phrase.fits_iff, Phrase.steps, Phrase.levels]
  cases fuel with
  | zero => exact runs_postfixes_zero (by omega)
  | succ fuel =>
    rw [Parsing.postfixes]
    have hdot : opening.token.kind ≠ .dot := by
      rw [opening.kind_eq]
      decide
    refine (gets_accept_cons hdot).bind ?_
    rw [if_neg Bool.false_ne_true]
    refine (gets_accept opening.kind_eq).bind ?_
    rw [if_pos rfl]
    refine (iharguments fuel depth _ _ _ closing (.inl rfl)).bind
      (fun hfits => ⟨by omega, by omega⟩) fun harguments => ?_
    refine (gets_spanFrom start _).bind ?_
    have hstop : stopAfter p (opening.token :: (arguments.tokens ++ closing.token :: tail.tokens)) =
        stopAfter closing.token.span.stop tail.tokens := by
      rw [stopAfter, List.foldl_cons, List.foldl_append]
      rfl
    have hsteps := harguments.steps
    have hlevels := harguments.levels
    rw [hstop]
    refine (ihtail fuel depth _ rest start _ hrest).congr ?_
    rw [Phrase.fits_iff]
    omega

/-- A row of expressions is closed by a token that begins none and is no comma. -/
theorem read_empty : Phrase.empty.Read := by
  intro fuel depth p rest closing what t hclosing
  rw [Phrase.tokens, List.nil_append]
  cases fuel with
  | zero => exact runs_sequence_zero (Phrase.not_fits_zero _ depth)
  | succ fuel =>
    rw [Parsing.sequence]
    refine (gets_peek _).bind ?_
    rw [show TokenStream.current _ = t.token from rfl, if_pos t.kind_eq]
    exact Gets.runs ((gets_pass t.token).seq (gets_pure _ _))
      ⟨Nat.succ_pos fuel, Nat.zero_le depth⟩

/-- Reading a row goes on with an expression if one begins. -/
theorem sequence_of_startsExpression {closing : TokenKind} {what : Text} {s : TokenStream}
    (hclosing : closing = .rightParen ∨ closing = .rightBracket)
    (h : StartsExpression s.current.kind) {es : List Expr} {s' : TokenStream} {fits : Prop}
    (hnext : Runs fits (do
      let e ← Parsing.expression fuel depth
      if ← accept .comma then return e :: (← Parsing.sequence fuel depth closing what)
      else
        let _ ← expect closing what
        return [e]) s es s') :
    Runs fits (Parsing.sequence (fuel + 1) depth closing what) s es s' := by
  rw [Parsing.sequence]
  refine (gets_peek s).bind ?_
  -- What begins an expression neither closes the row nor spreads another one into it.
  have hclosed : s.current.kind ≠ closing := by
    rintro heq
    rw [heq] at h
    rcases hclosing with rfl | rfl <;> simp [StartsExpression] at h
  have hspread : s.current.kind ≠ .spread := by
    intro heq
    simp [heq, StartsExpression] at h
  rw [if_neg hclosed, if_neg hspread]
  exact hnext

theorem read_last {e : Phrase .expression} (ih : e.Read) : (Phrase.last e).Read := by
  intro fuel depth p rest closing what t hclosing
  rw [Phrase.fits_iff, Phrase.steps, Phrase.levels]
  cases fuel with
  | zero => exact runs_sequence_zero (by omega)
  | succ fuel =>
    refine sequence_of_startsExpression hclosing (e.startsExpression_current p _) ?_
    have hfollows : Category.expression.Follows (t.token :: rest) := by
      refine Category.follows_expression ?_
      rw [t.kind_eq]
      exact .inr (hclosing.imp_right .inl)
    refine (ih fuel depth p _ hfollows).bind (fun hfits => ⟨by omega, hfits.2⟩) fun he => ?_
    have hcomma : t.token.kind ≠ .comma := by
      rw [t.kind_eq]
      rcases hclosing with rfl | rfl <;> decide
    refine (gets_accept_cons hcomma).bind ?_
    rw [if_neg Bool.false_ne_true]
    exact Gets.runs ((gets_expect t.kind_eq what).seq (gets_pure _ _))
      ⟨Nat.succ_le_succ he.steps, he.levels⟩

theorem read_more {e : Phrase .expression} {comma : Terminal .comma} {others : Phrase .sequence}
    (ihe : e.Read) (ihothers : others.Read) : (Phrase.more e comma others).Read := by
  intro fuel depth p rest closing what t hclosing
  rw [Phrase.tokens, List.append_assoc, List.cons_append, Phrase.fits_iff, Phrase.steps,
    Phrase.levels]
  cases fuel with
  | zero => exact runs_sequence_zero (by omega)
  | succ fuel =>
    refine sequence_of_startsExpression hclosing (e.startsExpression_current p _) ?_
    refine (ihe fuel depth p _ (Category.follows_expression (.inl comma.kind_eq))).bind
      (fun hfits => ⟨by omega, by omega⟩) fun he => ?_
    have hsteps := he.steps
    have hlevels := he.levels
    refine (gets_accept comma.kind_eq).bind ?_
    rw [if_pos rfl]
    refine (ihothers fuel depth _ rest what t hclosing).bind
      (fun hfits => ⟨by omega, by omega⟩) fun hothers => ?_
    have hsteps' := hothers.steps
    have hlevels' := hothers.levels
    exact (gets_pure _ _).runs (by omega)

theorem read_noProperty : Phrase.noProperty.Read := by
  intro fuel depth p rest t
  rw [Phrase.tokens, List.nil_append]
  cases fuel with
  | zero => exact runs_properties_zero (Phrase.not_fits_zero _ depth)
  | succ fuel =>
    rw [Parsing.properties]
    refine (gets_peek _).bind ?_
    rw [show TokenStream.current _ = t.token from rfl, if_pos t.kind_eq]
    exact Gets.runs ((gets_pass t.token).seq (gets_pure _ _))
      ⟨Nat.succ_pos fuel, Nat.zero_le depth⟩

/-- Reading properties goes on with a key, a colon and an expression if they are there. -/
theorem properties_of_key {key : KeyToken} {colon : Terminal .colon} {e : Phrase .expression}
    (ih : e.Read) (hrest : Category.expression.Follows rest) {ps : List (PropertyKey × Expr)}
    {s' : TokenStream} {fits : Prop} (hfits : fits → e.Fits fuel depth)
    (hnext : e.Fits fuel depth → Runs fits (do
      if ← accept .comma then
        return Phrase.property key colon e e.tree :: (← Parsing.properties fuel depth)
      else
        let _ ← expect .rightBrace "'\x7d'"
        return [Phrase.property key colon e e.tree])
      ⟨stopAfter colon.token.span.stop e.tokens, rest⟩ ps s') :
    Runs fits (Parsing.properties (fuel + 1) depth)
      ⟨p, key.token :: colon.token :: (e.tokens ++ rest)⟩ ps s' := by
  rw [Parsing.properties]
  refine (gets_peek _).bind ?_
  rw [show TokenStream.current _ = key.token from rfl, if_neg key.kind_ne_rightBrace]
  refine (gets_take key.kind_ne_endOfSource).bind ?_
  refine (gets_propertyName key _).bind ?_
  refine (gets_peek _).bind ?_
  rw [show TokenStream.current _ = colon.token from rfl,
    if_neg fun h => h.2 colon.kind_eq]
  refine (gets_expect colon.kind_eq _).bind ?_
  refine (ih fuel depth _ rest hrest).bind hfits fun he => ?_
  exact (gets_spanFrom key.token _).bind (hnext he)

theorem read_lastProperty {key : KeyToken} {colon : Terminal .colon} {e : Phrase .expression}
    (ih : e.Read) : (Phrase.lastProperty key colon e).Read := by
  intro fuel depth p rest t
  rw [Phrase.fits_iff, Phrase.steps, Phrase.levels]
  cases fuel with
  | zero => exact runs_properties_zero (by omega)
  | succ fuel =>
    have hfollows : Category.expression.Follows (t.token :: rest) :=
      Category.follows_expression (.inr (.inr (.inr t.kind_eq)))
    refine properties_of_key ih hfollows (fun hfits => ⟨by omega, hfits.2⟩) fun he => ?_
    have hcomma : t.token.kind ≠ .comma := by
      rw [t.kind_eq]
      decide
    refine (gets_accept_cons hcomma).bind ?_
    rw [if_neg Bool.false_ne_true]
    exact Gets.runs ((gets_expect t.kind_eq _).seq (gets_pure _ _))
      ⟨Nat.succ_le_succ he.steps, he.levels⟩

theorem read_moreProperties {key : KeyToken} {colon : Terminal .colon} {e : Phrase .expression}
    {comma : Terminal .comma} {others : Phrase .properties} (ihe : e.Read)
    (ihothers : others.Read) : (Phrase.moreProperties key colon e comma others).Read := by
  intro fuel depth p rest t
  simp only [Phrase.tokens, List.cons_append, List.append_assoc]
  rw [Phrase.fits_iff, Phrase.steps, Phrase.levels]
  cases fuel with
  | zero => exact runs_properties_zero (by omega)
  | succ fuel =>
    refine properties_of_key ihe (Category.follows_expression (.inl comma.kind_eq))
      (fun hfits => ⟨by omega, by omega⟩) fun he => ?_
    have hsteps := he.steps
    have hlevels := he.levels
    refine (gets_accept comma.kind_eq).bind ?_
    rw [if_pos rfl]
    refine (ihothers fuel depth _ rest t).bind (fun hfits => ⟨by omega, by omega⟩) fun hothers => ?_
    have hsteps' := hothers.steps
    have hlevels' := hothers.levels
    exact (gets_pure _ _).runs (by omega)

/-- A primary expression without parts is read with any fuel but none. -/
theorem read_leaf {d : Phrase .primary} (hsteps : d.steps = 1) (hlevels : d.levels = 0)
    (h : ∀ (fuel depth : Nat) (p : Position) (rest : List Token),
      Gets (Parsing.primary (fuel + 1) depth) ⟨p, d.tokens ++ rest⟩ d.tree
        ⟨stopAfter p d.tokens, rest⟩) : d.Read := by
  intro fuel depth p rest _
  cases fuel with
  | zero => exact runs_primary_zero (d.not_fits_zero depth)
  | succ fuel =>
    refine (h fuel depth p rest).runs ⟨?_, ?_⟩
    · rw [hsteps]
      exact Nat.succ_pos fuel
    · rw [hlevels]
      exact Nat.zero_le depth

theorem read_name {t : Terminal .identifier} {free : t.token.value ∉ statementKeywords} :
    (Phrase.name t free).Read := by
  refine read_leaf rfl rfl fun fuel depth p rest => ?_
  rw [Parsing.primary]
  refine (gets_take (by rw [t.kind_eq]; decide)).seq ?_
  simp only [t.kind_eq, Phrase.tree]
  cases literalWord? t.token.value with
  | some value => exact gets_pure _ _
  | none => exact gets_pure _ _

theorem read_string {t : Terminal .string} : (Phrase.string t).Read := by
  refine read_leaf rfl rfl fun fuel depth p rest => ?_
  rw [Parsing.primary]
  refine (gets_take (by rw [t.kind_eq]; decide)).seq ?_
  simp only [t.kind_eq]
  exact gets_pure _ _

theorem read_regex {t : Terminal .regex} : (Phrase.regex t).Read := by
  refine read_leaf rfl rfl fun fuel depth p rest => ?_
  rw [Parsing.primary]
  refine (gets_take (by rw [t.kind_eq]; decide)).seq ?_
  simp only [t.kind_eq]
  exact gets_pure _ _

theorem read_number {n : Numeral} : (Phrase.number n).Read := by
  refine read_leaf rfl rfl fun fuel depth p rest => ?_
  rw [Parsing.primary]
  refine (gets_take (by rw [n.kind_eq]; decide)).seq ?_
  simp only [n.kind_eq]
  exact (gets_numberOf n _).seq (gets_pure _ _)

theorem read_signed {sign : SignToken} {n : Numeral} : (Phrase.signed sign n).Read := by
  refine read_leaf rfl rfl fun fuel depth p rest => ?_
  rw [Parsing.primary]
  rcases sign.kind_eq with hkind | hkind
  · refine (gets_take (by rw [hkind]; decide)).seq ?_
    simp only [hkind, Phrase.tree, if_true]
    refine (gets_expect n.kind_eq _).seq ((gets_numberOf n _).seq ?_)
    exact (gets_spanFrom sign.token _).seq (gets_pure _ _)
  · refine (gets_take (by rw [hkind]; decide)).seq ?_
    simp only [hkind, Phrase.tree, reduceCtorEq, if_false]
    refine (gets_expect n.kind_eq _).seq ((gets_numberOf n _).seq ?_)
    exact (gets_spanFrom sign.token _).seq (gets_pure _ _)

/-- Brackets around tokens end where the closing one does. -/
theorem stopAfter_brackets (p : Position) (opening : Token) (tokens : List Token)
    (closing : Token) :
    stopAfter p (opening :: (tokens ++ [closing])) = closing.span.stop :=
  stopAfter_concat p (opening :: tokens) closing

theorem read_array {opening : Terminal .leftBracket} {elements : Phrase .sequence}
    {closing : Terminal .rightBracket} (ih : elements.Read) :
    (Phrase.array opening elements closing).Read := by
  intro fuel depth p rest hrest
  simp only [Phrase.tokens, List.cons_append, List.append_assoc, List.nil_append,
    stopAfter_brackets]
  rw [Phrase.fits_iff, Phrase.steps, Phrase.levels]
  cases fuel with
  | zero => exact runs_primary_zero (by omega)
  | succ fuel =>
    rw [Parsing.primary]
    refine (gets_take (by rw [opening.kind_eq]; decide)).bind ?_
    simp only [opening.kind_eq]
    refine (ih fuel depth _ rest _ closing (.inr rfl)).bind
      (fun hfits => ⟨by omega, hfits.2⟩) fun helements => ?_
    exact Gets.runs ((gets_spanFrom opening.token _).seq (gets_pure _ _))
      ⟨Nat.succ_le_succ helements.steps, helements.levels⟩

theorem read_object {opening : Terminal .leftBrace} {fields : Phrase .properties}
    {closing : Terminal .rightBrace} (ih : fields.Read) :
    (Phrase.object opening fields closing).Read := by
  intro fuel depth p rest hrest
  simp only [Phrase.tokens, List.cons_append, List.append_assoc, List.nil_append,
    stopAfter_brackets]
  rw [Phrase.fits_iff, Phrase.steps, Phrase.levels]
  cases fuel with
  | zero => exact runs_primary_zero (by omega)
  | succ fuel =>
    rw [Parsing.primary]
    refine (gets_take (by rw [opening.kind_eq]; decide)).bind ?_
    simp only [opening.kind_eq]
    refine (ih fuel depth _ rest closing).bind (fun hfits => ⟨by omega, hfits.2⟩) fun hfields => ?_
    exact Gets.runs ((gets_spanFrom opening.token _).seq (gets_pure _ _))
      ⟨Nat.succ_le_succ hfields.steps, hfields.levels⟩

theorem read_parenthesized {opening : Terminal .leftParen} {e : Phrase .expression}
    {closing : Terminal .rightParen} (ih : e.Read) :
    (Phrase.parenthesized opening e closing).Read := by
  intro fuel depth p rest hrest
  simp only [Phrase.tokens, List.cons_append, List.append_assoc, List.nil_append,
    stopAfter_brackets]
  rw [Phrase.fits_iff, Phrase.steps, Phrase.levels]
  cases fuel with
  | zero => exact runs_primary_zero (by omega)
  | succ fuel =>
    rw [Parsing.primary]
    refine (gets_take (by rw [opening.kind_eq]; decide)).bind ?_
    simp only [opening.kind_eq]
    have hfollows : Category.expression.Follows (closing.token :: rest) :=
      Category.follows_expression (.inr (.inl closing.kind_eq))
    refine (ih fuel depth _ _ hfollows).bind (fun hfits => ⟨by omega, hfits.2⟩) fun he => ?_
    refine (gets_expect closing.kind_eq _).bind ?_
    refine Gets.runs ((gets_refuseArrow ?_).seq (gets_pure _ _))
      ⟨Nat.succ_le_succ he.steps, he.levels⟩
    exact current_kind_ne (by decide) hrest

end Steps

/-- The reading steps give the tree of every derivation. -/
theorem Phrase.read {c : Category} (d : Phrase c) : d.Read := by
  induction d with
  | expression head tail ihhead ihtail => exact read_expression ihhead ihtail
  | bare => exact read_bare
  | member dot target tail ih => exact read_member ih
  | call opening arguments closing tail iharguments ihtail => exact read_call iharguments ihtail
  | empty => exact read_empty
  | last e ih => exact read_last ih
  | more e comma others ihe ihothers => exact read_more ihe ihothers
  | noProperty => exact read_noProperty
  | lastProperty key colon e ih => exact read_lastProperty ih
  | moreProperties key colon e comma others ihe ihothers =>
    exact read_moreProperties ihe ihothers
  | name t free => exact read_name
  | string t => exact read_string
  | number n => exact read_number
  | signed sign n => exact read_signed
  | regex t => exact read_regex
  | array opening elements closing ih => exact read_array ih
  | object opening fields closing ih => exact read_object ih
  | parenthesized opening e closing ih => exact read_parenthesized ih

/-- How much less fuel a category takes than four units for each token and one more. -/
def Category.slack : Category → Nat
  | .primary => 4
  | .expression => 3
  | _ => 0

/-- Four units of fuel for each token suffice for reading a derivation. -/
theorem Phrase.steps_le {c : Category} (d : Phrase c) :
    d.steps + c.slack ≤ 4 * d.tokens.length + 1 := by
  induction d with
  | expression head tail ihhead ihtail =>
    obtain ⟨more, hmore⟩ := head.tokens_primary
    simp only [steps, tokens, Category.slack, List.length_append, hmore, List.length_cons] at *
    omega
  | _ =>
    simp only [steps, tokens, Category.slack, List.length_append, List.length_cons,
      List.length_nil] at *
    omega

/-- No token of a derivation ends the source. -/
theorem Phrase.kind_ne_endOfSource {c : Category} (d : Phrase c) :
    ∀ t ∈ d.tokens, t.kind ≠ .endOfSource := by
  have hterminal {kind : TokenKind} (t : Terminal kind) (hkind : kind ≠ .endOfSource) :
      t.token.kind ≠ .endOfSource := t.kind_eq.symm ▸ hkind
  have hnumber (n : Numeral) : n.token.kind ≠ .endOfSource := by
    rw [n.kind_eq]
    decide
  induction d with
  | expression head tail ihhead ihtail => exact List.forall_mem_append.mpr ⟨ihhead, ihtail⟩
  | bare | empty | noProperty => exact fun t ht => absurd ht List.not_mem_nil
  | member dot target tail ih =>
    exact List.forall_mem_cons.mpr ⟨hterminal dot (by decide),
      List.forall_mem_cons.mpr ⟨hterminal target (by decide), ih⟩⟩
  | call opening arguments closing tail iharguments ihtail =>
    exact List.forall_mem_cons.mpr ⟨hterminal opening (by decide), List.forall_mem_append.mpr
      ⟨iharguments, List.forall_mem_cons.mpr ⟨hterminal closing (by decide), ihtail⟩⟩⟩
  | last e ih => exact ih
  | more e comma others ihe ihothers =>
    exact List.forall_mem_append.mpr
      ⟨ihe, List.forall_mem_cons.mpr ⟨hterminal comma (by decide), ihothers⟩⟩
  | lastProperty key colon e ih =>
    exact List.forall_mem_cons.mpr ⟨key.kind_ne_endOfSource,
      List.forall_mem_cons.mpr ⟨hterminal colon (by decide), ih⟩⟩
  | moreProperties key colon e comma others ihe ihothers =>
    exact List.forall_mem_cons.mpr ⟨key.kind_ne_endOfSource,
      List.forall_mem_cons.mpr ⟨hterminal colon (by decide), List.forall_mem_append.mpr
        ⟨ihe, List.forall_mem_cons.mpr ⟨hterminal comma (by decide), ihothers⟩⟩⟩⟩
  | name t free => exact List.forall_mem_singleton.mpr (hterminal t (by decide))
  | string t | regex t => exact List.forall_mem_singleton.mpr (hterminal t (by decide))
  | number n => exact List.forall_mem_singleton.mpr (hnumber n)
  | signed sign n =>
    refine List.forall_mem_cons.mpr ⟨?_, List.forall_mem_singleton.mpr (hnumber n)⟩
    rcases sign.kind_eq with h | h <;> rw [h] <;> decide
  | array opening elements closing ih | object opening fields closing ih
  | parenthesized opening e closing ih =>
    exact List.forall_mem_cons.mpr ⟨hterminal opening (by decide), List.forall_mem_append.mpr
      ⟨ih, List.forall_mem_singleton.mpr (hterminal closing (by decide))⟩⟩

theorem Derivation.kind_ne_endOfSource (d : Derivation) :
    ∀ t ∈ d.tokens, t.kind ≠ .endOfSource := by
  refine List.forall_mem_append.mpr ⟨d.expression.kind_ne_endOfSource, fun t ht => ?_⟩
  obtain ⟨mark, -, rfl⟩ := List.mem_map.mp ht
  simp

/-- The tokens before the end of a source. -/
theorem takeWhile_before_end {tokens rest : List Token}
    (htokens : ∀ t ∈ tokens, t.kind ≠ .endOfSource)
    (hrest : ∀ t ∈ rest.head?, t.kind = .endOfSource) :
    (tokens ++ rest).takeWhile (fun t => t.kind != .endOfSource) = tokens := by
  have hnil : rest.takeWhile (fun t => t.kind != .endOfSource) = [] := by
    cases rest with
    | nil => rfl
    | cons t rest => exact List.takeWhile_cons_of_neg (by simp [hrest t rfl])
  rw [List.takeWhile_append_of_pos (by simpa using htokens), hnil, List.append_nil]

end Grammar

namespace Parsing

/-- A source that is read derives from the grammar, and is nested too deeply only if its brackets
are. -/
theorem gives_source {tokens : List Token} {last : Token} (hlast : last.kind = .endOfSource)
    (honly : ∀ t ∈ tokens, t.kind ≠ .endOfSource) {fuel depth : Nat} {p : Position}
    (hfuel : 4 * (tokens ++ [last]).length + 2 ≤ fuel) (hdepth : 0 < depth)
    (hnest : nestsWithin (depth - 1) (tokens ++ [last]) = true) :
    Gives (source fuel depth) ⟨p, tokens ++ [last]⟩ fun e _ =>
      ∃ d : Derivation, d.tokens = tokens ∧ d.tree = e := by
  refine gives_peek.bind fun first s₀ hfirst => ?_
  obtain ⟨-, rfl⟩ := hfirst
  split
  · exact (gives_refuse _ _ fun _ _ => False).bind fun _ _ h => h.elim
  · refine ((sound fuel).expression hfuel hdepth hnest).bind fun e s₁ he => ?_
    obtain ⟨e, he, rfl⟩ := he
    refine (gives_accept (by decide)).bind fun found s₂ hmark => ?_
    have hd : ∃ d : Derivation, Consumes d.tokens ⟨p, tokens ++ [last]⟩ s₂ ∧ d.tree = e.tree := by
      rcases hmark with ⟨-, mark, hmark⟩ | ⟨-, rfl⟩
      · exact ⟨⟨e, some mark⟩, he.trans hmark, rfl⟩
      · exact ⟨⟨e, none⟩, by rw [Derivation.tokens]; simpa using he, rfl⟩
    obtain ⟨d, hd, htree⟩ := hd
    refine gives_peek.bind fun trailing s₃ htrailing => ?_
    obtain ⟨rfl, rfl⟩ := htrailing
    split
    · rename_i hend
      refine gives_pure ⟨d, ?_, htree⟩
      have hrest : ∀ t ∈ s₃.rest.head?, t.kind = .endOfSource := by
        intro t ht
        obtain ⟨more, hmore⟩ := List.head?_eq_some_iff.mp ht
        rw [TokenStream.current, hmore] at hend
        exact hend
      have hend : ∀ t ∈ [last].head?, t.kind = .endOfSource := by
        intro t ht
        obtain rfl : last = t := Option.some.inj ht
        exact hlast
      -- Both splits of the tokens are made before the first end of source.
      have hbefore := takeWhile_before_end honly hend
      have hsplit : tokens ++ [last] = d.tokens ++ s₃.rest := hd.1
      rw [hsplit, takeWhile_before_end d.kind_ne_endOfSource hrest] at hbefore
      exact hbefore
    · exact gives_refuse _ _ _

/-- A source with a derivation is read as its tree exactly if fuel and depth suffice. -/
theorem runs_source (d : Derivation) {last : Token} (hlast : last.kind = .endOfSource)
    (fuel depth : Nat) (p : Position) :
    ∃ s', Runs (d.expression.Fits fuel depth) (source fuel depth) ⟨p, d.tokens ++ [last]⟩ d.tree
      s' := by
  obtain ⟨e, mark⟩ := d
  have hfirst : (⟨p, Derivation.tokens ⟨e, mark⟩ ++ [last]⟩ : TokenStream).current.kind ≠
      .endOfSource := by
    intro hend
    have hstarts := e.startsExpression_current p (mark.toList.map (·.token) ++ [last])
    rw [Derivation.tokens, List.append_assoc] at hend
    rw [hend] at hstarts
    simp [StartsExpression] at hstarts
  have hread (rest : List Token) (hrest : Category.expression.Follows rest) :
      Runs (e.Fits fuel depth) (expression fuel depth) ⟨p, e.tokens ++ rest⟩ e.tree
        ⟨stopAfter p e.tokens, rest⟩ := e.read fuel depth p rest hrest
  have hend (q : Position) (s' : TokenStream) (hs : s' = ⟨q, [last]⟩) :
      Gets (do
        let trailing ← peek
        if trailing.kind = .endOfSource then return e.tree
        else refuse (.trailing trailing) trailing) s' e.tree s' := by
    subst hs
    refine (gets_peek _).seq ?_
    rw [show TokenStream.current _ = last from rfl, if_pos hlast]
    exact gets_pure _ _
  cases mark with
  | none =>
    refine ⟨⟨stopAfter p e.tokens, [last]⟩, (gets_peek _).bind ?_⟩
    rw [if_neg hfirst, Derivation.tokens, Option.toList_none, List.map_nil, List.append_nil]
    have hfollows : Category.expression.Follows [last] := by
      intro t ht
      obtain rfl : last = t := Option.some.inj ht
      simp [hlast]
    refine (hread [last] hfollows).bind id fun hfits => ?_
    exact ((gets_accept_cons (by simp [hlast])).seq (hend _ _ rfl)).runs hfits
  | some mark =>
    refine ⟨⟨mark.token.span.stop, [last]⟩, (gets_peek _).bind ?_⟩
    rw [if_neg hfirst, Derivation.tokens, List.append_assoc]
    have hfollows : Category.expression.Follows [mark.token, last] := by
      intro t ht
      obtain rfl : mark.token = t := Option.some.inj ht
      simp
    refine (hread [mark.token, last] hfollows).bind id fun hfits => ?_
    exact ((gets_accept mark.kind_eq).seq (hend _ _ rfl)).runs hfits

/-- A source with a derivation is read as its tree unless fuel or depth run out. -/
theorem reaches_source (d : Derivation) {last : Token} (hlast : last.kind = .endOfSource)
    (fuel depth : Nat) (p : Position) :
    ∃ s', (source fuel depth).run ⟨p, d.tokens ++ [last]⟩ = .ok (d.tree, s') ∨
      (source fuel depth).run ⟨p, d.tokens ++ [last]⟩ = .error .tooDeep := by
  obtain ⟨s', hruns⟩ := runs_source d hlast fuel depth p
  by_cases hfits : d.expression.Fits fuel depth
  · exact ⟨s', .inl (hruns.read hfits)⟩
  · exact ⟨s', .inr (hruns.tooDeep hfits)⟩

end Parsing

theorem ofTokens_eq (tokens : List Token) :
    Expr.ofTokens tokens =
      ((source (4 * tokens.length + 4) nestingLimit).run ⟨Position.start, tokens⟩).map
        Prod.fst := rfl

/-- The tokens of a derivation are read as its tree exactly if expressions are nested within the
limit. -/
theorem Expr.ofTokens_derivation (d : Derivation) {last : Token}
    (hlast : last.kind = .endOfSource) :
    Expr.ofTokens (d.tokens ++ [last]) =
      if d.expression.levels ≤ nestingLimit then .ok d.tree else .error .tooDeep := by
  obtain ⟨s', hruns⟩ := runs_source d hlast (4 * (d.tokens ++ [last]).length + 4) nestingLimit
    Position.start
  have hsteps : d.expression.steps ≤ 4 * (d.tokens ++ [last]).length + 4 := by
    have hle := d.expression.steps_le
    simp only [Derivation.tokens, List.length_append]
    omega
  rw [ofTokens_eq]
  split
  · rename_i hlevels
    rw [hruns.read ⟨hsteps, hlevels⟩]
    rfl
  · rename_i hlevels
    rw [hruns.tooDeep fun hfits => hlevels hfits.levels]
    rfl

/-- The source grammar decides what is read. A list of tokens that ends in its only end of source,
and whose brackets are nested within the limit, is read as an expression exactly if it has a
derivation with that tree; it has at most one derivation; and without one it is refused with a
fault. A number token that denotes no number derives nothing. -/
theorem Expr.ofTokens_spec {tokens : List Token} {last : Token} (hlast : last.kind = .endOfSource)
    (honly : ∀ t ∈ tokens, t.kind ≠ .endOfSource)
    (hnest : nestsWithin (nestingLimit - 1) (tokens ++ [last]) = true) :
    (∀ e, Expr.ofTokens (tokens ++ [last]) = .ok e ↔
      ∃ d : Derivation, d.tokens = tokens ∧ d.tree = e) ∧
    (∀ d d' : Derivation, d.tokens = tokens → d'.tokens = tokens → d = d') ∧
    ((¬∃ d : Derivation, d.tokens = tokens) → ∃ fault position,
      Expr.ofTokens (tokens ++ [last]) = .error (.fault fault position)) := by
  have hgives : Gives (source (4 * (tokens ++ [last]).length + 4) nestingLimit)
      ⟨Position.start, tokens ++ [last]⟩
      fun e _ => ∃ d : Derivation, d.tokens = tokens ∧ d.tree = e :=
    gives_source hlast honly (by omega) (by decide) hnest
  have hreaches (d : Derivation) (hd : d.tokens = tokens) :
      ∃ s', (source (4 * (tokens ++ [last]).length + 4) nestingLimit).run
          ⟨Position.start, tokens ++ [last]⟩ = .ok (d.tree, s') ∨
        (source (4 * (tokens ++ [last]).length + 4) nestingLimit).run
          ⟨Position.start, tokens ++ [last]⟩ = .error .tooDeep := by
    subst hd
    exact reaches_source d hlast _ _ _
  have hunique (d d' : Derivation) (hd : d.tokens = tokens) (hd' : d'.tokens = tokens) : d = d' :=
    Derivation.eq_of_tokens (hd.trans hd'.symm)
  unfold Gives at hgives
  rcases hrun : (source (4 * (tokens ++ [last]).length + 4) nestingLimit).run
    ⟨Position.start, tokens ++ [last]⟩ with err | ⟨e, s'⟩
  · have hresult : Expr.ofTokens (tokens ++ [last]) = .error err := by
      rw [ofTokens_eq, hrun]
      rfl
    rw [hrun] at hgives
    cases err with
    | tooDeep => exact hgives.elim
    | fault fault position =>
      -- A derivation would be read, or be nested too deeply, but not be refused.
      have hnone : ¬∃ d : Derivation, d.tokens = tokens := by
        rintro ⟨d, hd⟩
        obtain ⟨s', hs' | hs'⟩ := hreaches d hd
        · exact nomatch hrun.symm.trans hs'
        · exact nomatch hrun.symm.trans hs'
      refine ⟨fun e => ?_, hunique, fun _ => ⟨fault, position, hresult⟩⟩
      rw [hresult]
      exact ⟨fun h => (nomatch h), fun ⟨d, hd, _⟩ => absurd ⟨d, hd⟩ hnone⟩
  · have hresult : Expr.ofTokens (tokens ++ [last]) = .ok e := by
      rw [ofTokens_eq, hrun]
      rfl
    rw [hrun] at hgives
    obtain ⟨d, hd, rfl⟩ : ∃ d : Derivation, d.tokens = tokens ∧ d.tree = e := hgives
    refine ⟨fun e' => ?_, hunique, fun hnone => absurd ⟨d, hd⟩ hnone⟩
    rw [hresult, Except.ok.injEq]
    constructor
    · rintro rfl
      exact ⟨d, hd, rfl⟩
    · rintro ⟨d', hd', rfl⟩
      rw [hunique d' d hd' hd]

/-- A member access that is called, with a semicolon behind it. -/
theorem Expr.ofTokens_callOfMember :
    let place : Span := ⟨Position.start, Position.start⟩
    let token (kind : TokenKind) (value : String) : Token := ⟨kind, Text.ofString value, place⟩
    let tokens : List Token := [token .identifier "z", token .dot ".", token .identifier "any",
      token .leftParen "(", token .rightParen ")", token .semicolon ";"]
    let last : Token := token .endOfSource ""
    last.kind = .endOfSource ∧ (∀ t ∈ tokens, t.kind ≠ .endOfSource) ∧
      nestsWithin (nestingLimit - 1) (tokens ++ [last]) = true ∧
      (∀ e, Expr.ofTokens (tokens ++ [last]) = .ok e ↔
        ∃ d : Derivation, d.tokens = tokens ∧ d.tree = e) := by
  intro place token tokens last
  have honly : ∀ t ∈ tokens, t.kind ≠ .endOfSource := by decide
  have hnest : nestsWithin (nestingLimit - 1) (tokens ++ [last]) = true := by decide
  exact ⟨rfl, honly, hnest, (ofTokens_spec rfl honly hnest).1⟩

end Conform
