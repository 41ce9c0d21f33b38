import Conform.Proofs.Source.Reading

/-!
# What is read derives from the grammar

With enough fuel for the tokens, and if brackets are nested within the depth that is left, a reading
step refuses the source with a fault or passes the tokens of a derivation and gives its tree.

## Main definitions

- `Parsing.Sound` — all reading steps are sound at some fuel
- `Parsing.sound` — they are at any fuel
-/

namespace Conform

open Grammar TokenStream

namespace Parsing

/-- The steps of reading with some fuel give trees of derivations. The fuel is enough if there are
four units for each token, and an expression needs more depth than brackets are nested. -/
structure Sound (fuel : Nat) : Prop where
  expression : ∀ {depth : Nat} {s : TokenStream}, 4 * s.rest.length + 2 ≤ fuel → 0 < depth →
    nestsWithin (depth - 1) s.rest = true →
      Gives (expression fuel depth) s fun e s' =>
        ∃ d : Phrase .expression, Consumes d.tokens s s' ∧ d.tree = e
  postfixes : ∀ {depth : Nat} {s : TokenStream} {start : Token} {e : Expr},
    4 * s.rest.length + 1 ≤ fuel → nestsWithin depth s.rest = true →
      Gives (postfixes fuel depth start e) s fun e' s' =>
        ∃ d : Phrase .postfixes, Consumes d.tokens s s' ∧ d.tree start.span.first e = e'
  sequence : ∀ {depth : Nat} {s : TokenStream} {closing : TokenKind} {what : Text},
    closing ≠ .endOfSource → 4 * s.rest.length + 3 ≤ fuel → 0 < depth →
      nestsWithin (depth - 1) s.rest = true →
        Gives (sequence fuel depth closing what) s fun es s' =>
          ∃ (d : Phrase .sequence) (t : Terminal closing),
            Consumes (d.tokens ++ [t.token]) s s' ∧ d.tree = es
  properties : ∀ {depth : Nat} {s : TokenStream}, 4 * s.rest.length + 1 ≤ fuel → 0 < depth →
    nestsWithin (depth - 1) s.rest = true →
      Gives (properties fuel depth) s fun ps s' =>
        ∃ (d : Phrase .properties) (t : Terminal .rightBrace),
          Consumes (d.tokens ++ [t.token]) s s' ∧ d.tree = ps
  primary : ∀ {depth : Nat} {s : TokenStream}, 4 * s.rest.length + 1 ≤ fuel →
    nestsWithin depth s.rest = true →
    ¬(s.current.kind = .identifier ∧ s.current.value ∈ statementKeywords) →
      Gives (primary fuel depth) s fun e s' =>
        ∃ d : Phrase .primary, Consumes d.tokens s s' ∧ d.tree = e

variable {fuel depth : Nat} {s : TokenStream}

theorem sound_expression (ih : Sound fuel) (hfuel : 4 * s.rest.length + 2 ≤ fuel + 1)
    (hdepth : 0 < depth) (hnest : nestsWithin (depth - 1) s.rest = true) :
    Gives (expression (fuel + 1) depth) s fun e s' =>
      ∃ d : Phrase .expression, Consumes d.tokens s s' ∧ d.tree = e := by
  rw [expression, if_neg (by omega)]
  refine gives_peek.bind fun start s₀ hstart => ?_
  obtain ⟨rfl, rfl⟩ := hstart
  refine (gives_refuseStatement _).bind fun _ s₁ hfree => ?_
  obtain ⟨rfl, hfree⟩ := hfree
  refine (ih.primary (by omega) hnest hfree).bind fun e s₂ hhead => ?_
  obtain ⟨head, hhead, rfl⟩ := hhead
  obtain ⟨more, hmore⟩ := head.tokens_primary
  have hstart : s₁.current = head.first := by
    rw [hmore] at hhead
    exact hhead.current
  have hlength := hhead.length
  -- The primary expression is not empty, which pays for the fuel of the postfixes.
  have hpositive : 0 < head.tokens.length := by
    rw [hmore]
    exact Nat.succ_pos _
  have hrest := hhead.nestsWithin_phrase hnest
  refine (ih.postfixes (by omega) hrest).bind fun e s₃ htail => ?_
  obtain ⟨tail, htail, rfl⟩ := htail
  refine gives_refuseArrow.bind fun _ s₄ hs => ?_
  subst hs
  refine gives_pure ⟨.expression head tail, hhead.trans htail, ?_⟩
  rw [hstart]
  rfl

theorem sound_postfixes (ih : Sound fuel) {start : Token} {e : Expr}
    (hfuel : 4 * s.rest.length + 1 ≤ fuel + 1) (hnest : nestsWithin depth s.rest = true) :
    Gives (postfixes (fuel + 1) depth start e) s fun e' s' =>
      ∃ d : Phrase .postfixes, Consumes d.tokens s s' ∧ d.tree start.span.first e = e' := by
  rw [postfixes]
  refine (gives_accept (by decide)).bind fun found s₁ hdot => ?_
  rcases hdot with ⟨rfl, dot, hdot⟩ | ⟨rfl, rfl⟩
  · rw [if_pos rfl]
    refine (gives_expect (by decide) _).bind fun t s₂ hname => ?_
    obtain ⟨name, rfl, hname⟩ := hname
    refine (gives_spanFrom start).bind fun span s₃ hspan => ?_
    obtain ⟨rfl, rfl⟩ := hspan
    have hlength := hdot.length_cons
    have hlength' := hname.length_cons
    have hrest := hname.nestsWithin_plain (name.nestsWithin_cons rfl rfl depth)
      (hdot.nestsWithin_plain (dot.nestsWithin_cons rfl rfl depth) hnest)
    refine (ih.postfixes (by omega) hrest).mono fun e' s' htail => ?_
    obtain ⟨tail, htail, rfl⟩ := htail
    refine ⟨.member dot name tail, (hdot.trans hname).trans htail, ?_⟩
    rw [hname.2]
    rfl
  · rw [if_neg Bool.false_ne_true]
    refine (gives_accept (by decide)).bind fun found s₂ hopening => ?_
    rcases hopening with ⟨rfl, opening, hopening⟩ | ⟨rfl, rfl⟩
    · rw [if_pos rfl]
      have hlength := hopening.length_cons
      obtain ⟨hdepth, hinner⟩ := hopening.nestsWithin_opening (by rw [opening.kind_eq]; rfl) hnest
      refine (ih.sequence (by decide) (by omega) hdepth hinner).bind fun es s₃ hargs => ?_
      obtain ⟨arguments, closing, hargs, rfl⟩ := hargs
      refine (gives_spanFrom start).bind fun span s₄ hspan => ?_
      obtain ⟨rfl, rfl⟩ := hspan
      have hlength' := hargs.length
      rw [List.length_append, List.length_singleton] at hlength'
      -- Behind the closing bracket all levels are left again.
      rw [hopening.1, hargs.1, List.append_assoc, List.singleton_append] at hnest
      have houter := nestsWithin_of_brackets rfl rfl arguments.nestsWithin_of_append hnest
      refine (ih.postfixes (by omega) houter).mono fun e' s' htail => ?_
      obtain ⟨tail, htail, rfl⟩ := htail
      refine ⟨.call opening arguments closing tail, ?_, ?_⟩
      · have hall := (hopening.trans hargs).trans htail
        rwa [List.append_assoc, List.append_assoc] at hall
      · rw [hargs.2, stopAfter_concat]
        rfl
    · exact gives_pure ⟨.bare, .refl s₂, rfl⟩

theorem sound_sequence (ih : Sound fuel) {closing : TokenKind} {what : Text}
    (hclosing : closing ≠ .endOfSource) (hfuel : 4 * s.rest.length + 3 ≤ fuel + 1)
    (hdepth : 0 < depth) (hnest : nestsWithin (depth - 1) s.rest = true) :
    Gives (sequence (fuel + 1) depth closing what) s fun es s' =>
      ∃ (d : Phrase .sequence) (t : Terminal closing),
        Consumes (d.tokens ++ [t.token]) s s' ∧ d.tree = es := by
  rw [sequence]
  refine gives_peek.bind fun t s₁ ht => ?_
  obtain ⟨rfl, rfl⟩ := ht
  by_cases hend : s₁.current.kind = closing
  · rw [if_pos hend]
    refine (gives_pass (hend ▸ hclosing)).bind fun _ s₂ hpass => ?_
    exact gives_pure ⟨.empty, ⟨s₁.current, hend⟩, hpass, rfl⟩
  · rw [if_neg hend]
    split
    · exact gives_refuse _ _ _
    · refine (ih.expression (by omega) hdepth hnest).bind fun e s₂ he => ?_
      obtain ⟨e, he, rfl⟩ := he
      have hnext := he.nestsWithin_phrase hnest
      have hlength := he.length
      refine (gives_accept (by decide)).bind fun found s₃ hcomma => ?_
      rcases hcomma with ⟨rfl, comma, hcomma⟩ | ⟨rfl, rfl⟩
      · rw [if_pos rfl]
        have hlength' := hcomma.length_cons
        have hothers := hcomma.nestsWithin_plain (comma.nestsWithin_cons rfl rfl _) hnext
        refine (ih.sequence hclosing (by omega) hdepth hothers).bind fun es s₄ hmore => ?_
        obtain ⟨others, last, hmore, rfl⟩ := hmore
        refine gives_pure ⟨.more e comma others, last, ?_, rfl⟩
        simpa only [Phrase.tokens, List.append_assoc, List.cons_append, List.nil_append] using
          (he.trans hcomma).trans hmore
      · rw [if_neg Bool.false_ne_true]
        refine (gives_expect hclosing what).bind fun t s₄ hlast => ?_
        obtain ⟨last, rfl, hlast⟩ := hlast
        exact gives_pure ⟨.last e, last, he.trans hlast, rfl⟩

theorem sound_properties (ih : Sound fuel) (hfuel : 4 * s.rest.length + 1 ≤ fuel + 1)
    (hdepth : 0 < depth) (hnest : nestsWithin (depth - 1) s.rest = true) :
    Gives (properties (fuel + 1) depth) s fun ps s' =>
      ∃ (d : Phrase .properties) (t : Terminal .rightBrace),
        Consumes (d.tokens ++ [t.token]) s s' ∧ d.tree = ps := by
  rw [properties]
  refine gives_peek.bind fun t s₁ ht => ?_
  obtain ⟨rfl, rfl⟩ := ht
  by_cases hend : s₁.current.kind = .rightBrace
  · rw [if_pos hend]
    refine (gives_pass (by rw [hend]; decide)).bind fun _ s₂ hpass => ?_
    exact gives_pure ⟨.noProperty, ⟨s₁.current, hend⟩, hpass, rfl⟩
  · rw [if_neg hend]
    refine gives_take.bind fun keyToken s₂ hkey => ?_
    obtain ⟨-, hpassed⟩ := hkey
    refine (gives_propertyName keyToken).bind fun name s₃ hname => ?_
    obtain ⟨rfl, key, rfl, rfl⟩ := hname
    -- Only a token that can be a key has been taken for one, so it has been passed.
    have hkey := hpassed key.kind_ne_endOfSource
    refine gives_peek.bind fun t s₂ ht => ?_
    obtain ⟨-, rfl⟩ := ht
    split
    · exact (gives_refuse _ _ fun _ _ => False).bind fun _ _ h => h.elim
    · refine (gives_expect (by decide) _).bind fun t s₃ hcolon => ?_
      obtain ⟨colon, rfl, hcolon⟩ := hcolon
      have hlength := hkey.length_cons
      have hlength' := hcolon.length_cons
      have hvalue := hcolon.nestsWithin_plain (colon.nestsWithin_cons rfl rfl _)
        (hkey.nestsWithin_plain (key.nestsWithin_cons _) hnest)
      refine (ih.expression (by omega) hdepth hvalue).bind fun e s₄ he => ?_
      obtain ⟨e, he, rfl⟩ := he
      have hlength'' := he.length
      have hnext := he.nestsWithin_phrase hvalue
      have hproperty : Consumes (key.token :: colon.token :: e.tokens) s₁ s₄ :=
        (hkey.trans hcolon).trans he
      refine (gives_spanFrom key.token).bind fun span s₅ hspan => ?_
      obtain ⟨rfl, rfl⟩ := hspan
      have htree : ((⟨⟨key.token.span.first, s₅.stop⟩, key.key⟩, e.tree) : PropertyKey × Expr) =
          Phrase.property key colon e e.tree := by
        rw [he.2, hcolon.2]
        rfl
      refine (gives_accept (by decide)).bind fun found s₆ hcomma => ?_
      rcases hcomma with ⟨rfl, comma, hcomma⟩ | ⟨rfl, rfl⟩
      · rw [if_pos rfl]
        have hlength''' := hcomma.length_cons
        have hothers := hcomma.nestsWithin_plain (comma.nestsWithin_cons rfl rfl _) hnext
        refine (ih.properties (by omega) hdepth hothers).bind fun ps s₇ hmore => ?_
        obtain ⟨others, last, hmore, rfl⟩ := hmore
        refine gives_pure ⟨.moreProperties key colon e comma others, last, ?_, ?_⟩
        · simpa only [Phrase.tokens, List.append_assoc, List.cons_append, List.nil_append] using
            (hproperty.trans hcomma).trans hmore
        · rw [htree]
          rfl
      · rw [if_neg Bool.false_ne_true]
        refine (gives_expect (by decide) _).bind fun t s₇ hlast => ?_
        obtain ⟨last, rfl, hlast⟩ := hlast
        refine gives_pure ⟨.lastProperty key colon e, last, hproperty.trans hlast, ?_⟩
        rw [htree]
        rfl

/-- A sign and the number behind it are a primary expression. -/
theorem sound_signed {s s₁ : TokenStream} (sign : SignToken) (hsign : Consumes [sign.token] s s₁)
    {f : Number → Number} (hf : ∀ n, f n = if sign.token.kind = .minus then n.neg else n) :
    Gives (do
        let operand ← expect .number "a number"
        let n ← numberOf operand
        return Expr.literal (← spanFrom sign.token) (.number (f n))) s₁ fun e s' =>
      ∃ d : Phrase .primary, Consumes d.tokens s s' ∧ d.tree = e := by
  refine (gives_expect (by decide) _).bind fun operand s₂ hoperand => ?_
  obtain ⟨terminal, rfl, hoperand⟩ := hoperand
  refine (gives_numberOf terminal.kind_eq).bind fun n s₃ hn => ?_
  obtain ⟨rfl, numeral, htoken, rfl⟩ := hn
  refine (gives_spanFrom sign.token).bind fun span s₄ hspan => ?_
  obtain ⟨rfl, rfl⟩ := hspan
  rw [← htoken] at hoperand
  refine gives_pure ⟨.signed sign numeral, hsign.trans hoperand, ?_⟩
  rw [Phrase.tree, hoperand.2, hf]
  rfl

theorem sound_array (ih : Sound fuel) {s s₁ : TokenStream} (opening : Terminal .leftBracket)
    (hopening : Consumes [opening.token] s s₁) (hfuel : 4 * s.rest.length + 1 ≤ fuel + 1)
    (hnest : nestsWithin depth s.rest = true) :
    Gives (do
        let elements ← sequence fuel depth .rightBracket "']'"
        return Expr.array (← spanFrom opening.token) elements) s₁ fun e s' =>
      ∃ d : Phrase .primary, Consumes d.tokens s s' ∧ d.tree = e := by
  have hlength := hopening.length_cons
  obtain ⟨hdepth, hinner⟩ := hopening.nestsWithin_opening (by rw [opening.kind_eq]; rfl) hnest
  refine (ih.sequence (by decide) (by omega) hdepth hinner).bind fun es s₂ helements => ?_
  obtain ⟨elements, closing, helements, rfl⟩ := helements
  refine (gives_spanFrom opening.token).bind fun span s₃ hspan => ?_
  obtain ⟨rfl, rfl⟩ := hspan
  refine gives_pure ⟨.array opening elements closing, hopening.trans helements, ?_⟩
  rw [helements.2, stopAfter_concat]
  rfl

theorem sound_object (ih : Sound fuel) {s s₁ : TokenStream} (opening : Terminal .leftBrace)
    (hopening : Consumes [opening.token] s s₁) (hfuel : 4 * s.rest.length + 1 ≤ fuel + 1)
    (hnest : nestsWithin depth s.rest = true) :
    Gives (do
        let found ← properties fuel depth
        return Expr.object (← spanFrom opening.token) found) s₁ fun e s' =>
      ∃ d : Phrase .primary, Consumes d.tokens s s' ∧ d.tree = e := by
  have hlength := hopening.length_cons
  obtain ⟨hdepth, hinner⟩ := hopening.nestsWithin_opening (by rw [opening.kind_eq]; rfl) hnest
  refine (ih.properties (by omega) hdepth hinner).bind fun ps s₂ hfields => ?_
  obtain ⟨fields, closing, hfields, rfl⟩ := hfields
  refine (gives_spanFrom opening.token).bind fun span s₃ hspan => ?_
  obtain ⟨rfl, rfl⟩ := hspan
  refine gives_pure ⟨.object opening fields closing, hopening.trans hfields, ?_⟩
  rw [hfields.2, stopAfter_concat]
  rfl

theorem sound_parenthesized (ih : Sound fuel) {s s₁ : TokenStream}
    (opening : Terminal .leftParen) (hopening : Consumes [opening.token] s s₁)
    (hfuel : 4 * s.rest.length + 1 ≤ fuel + 1) (hnest : nestsWithin depth s.rest = true) :
    Gives (do
        let e ← expression fuel depth
        let _ ← expect .rightParen "')'"
        refuseArrow
        return e) s₁ fun e s' =>
      ∃ d : Phrase .primary, Consumes d.tokens s s' ∧ d.tree = e := by
  have hlength := hopening.length_cons
  obtain ⟨hdepth, hinner⟩ := hopening.nestsWithin_opening (by rw [opening.kind_eq]; rfl) hnest
  refine (ih.expression (by omega) hdepth hinner).bind fun e s₂ he => ?_
  obtain ⟨e, he, rfl⟩ := he
  refine (gives_expect (by decide) _).bind fun t s₃ hclosing => ?_
  obtain ⟨closing, rfl, hclosing⟩ := hclosing
  refine gives_refuseArrow.bind fun _ s₄ hs => ?_
  subst hs
  exact gives_pure ⟨.parenthesized opening e closing, hopening.trans (he.trans hclosing), rfl⟩

theorem sound_primary (ih : Sound fuel) (hfuel : 4 * s.rest.length + 1 ≤ fuel + 1)
    (hnest : nestsWithin depth s.rest = true)
    (hfree : ¬(s.current.kind = .identifier ∧ s.current.value ∈ statementKeywords)) :
    Gives (primary (fuel + 1) depth) s fun e s' =>
      ∃ d : Phrase .primary, Consumes d.tokens s s' ∧ d.tree = e := by
  rw [primary]
  refine gives_take.bind fun t s₁ ht => ?_
  obtain ⟨rfl, hpassed⟩ := ht
  -- What begins a primary expression does not end the source, so that it has been passed.
  split
  · rename_i hkind
    have hname := hpassed (by rw [hkind]; decide)
    split
    · rename_i value hword
      refine gives_pure ⟨.name ⟨s.current, hkind⟩ fun h => hfree ⟨hkind, h⟩, hname, ?_⟩
      rw [Phrase.tree]
      simp only [hword]
      rfl
    · rename_i hword
      refine gives_pure ⟨.name ⟨s.current, hkind⟩ fun h => hfree ⟨hkind, h⟩, hname, ?_⟩
      rw [Phrase.tree]
      simp only [hword]
      rfl
  · rename_i hkind
    have hstring := hpassed (by rw [hkind]; decide)
    exact gives_pure ⟨.string ⟨s.current, hkind⟩, hstring, rfl⟩
  · rename_i hkind
    have hnumber := hpassed (by rw [hkind]; decide)
    refine (gives_numberOf hkind).bind fun n s₂ hn => ?_
    obtain ⟨rfl, numeral, htoken, rfl⟩ := hn
    rw [← htoken] at hnumber ⊢
    exact gives_pure ⟨.number numeral, hnumber, rfl⟩
  · rename_i hkind
    have hsign := hpassed (by rw [hkind]; decide)
    exact sound_signed ⟨s.current, .inl hkind⟩ hsign fun n => (if_pos hkind).symm
  · rename_i hkind
    have hsign := hpassed (by rw [hkind]; decide)
    exact sound_signed ⟨s.current, .inr hkind⟩ hsign fun n => by simp [hkind]
  · rename_i hkind
    have hregex := hpassed (by rw [hkind]; decide)
    exact gives_pure ⟨.regex ⟨s.current, hkind⟩, hregex, rfl⟩
  · rename_i hkind
    have hopening := hpassed (by rw [hkind]; decide)
    exact sound_array ih ⟨s.current, hkind⟩ hopening hfuel hnest
  · rename_i hkind
    have hopening := hpassed (by rw [hkind]; decide)
    exact sound_object ih ⟨s.current, hkind⟩ hopening hfuel hnest
  · rename_i hkind
    have hopening := hpassed (by rw [hkind]; decide)
    exact sound_parenthesized ih ⟨s.current, hkind⟩ hopening hfuel hnest
  all_goals exact gives_refuse _ _ _

/-- Whatever the fuel, the steps of reading give trees of derivations. -/
theorem sound : ∀ fuel, Sound fuel
  | 0 =>
    { expression := fun hfuel => absurd hfuel (by omega)
      postfixes := fun hfuel => absurd hfuel (by omega)
      sequence := fun _ hfuel => absurd hfuel (by omega)
      properties := fun hfuel => absurd hfuel (by omega)
      primary := fun hfuel => absurd hfuel (by omega) }
  | fuel + 1 =>
    have ih := sound fuel
    { expression := sound_expression ih
      postfixes := sound_postfixes ih
      sequence := sound_sequence ih
      properties := sound_properties ih
      primary := sound_primary ih }

end Parsing

end Conform
