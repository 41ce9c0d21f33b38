import Conform.Proofs.Source.Grammar

/-!
# Reading steps

A reading step gives a result as described, or refuses the source with a fault. Steps are followed
one after the other, and each of them tells which tokens it has passed.

## Main definitions

- `TokenStream.Consumes` — some tokens have been passed
- `Parsing.Gives` — what a step gives unless it refuses the source
- `nestsWithin` — how deep brackets are nested
- `Phrase.nestsWithin_of_append` — the brackets of a derivation are balanced
-/

namespace Conform

open Grammar

namespace TokenStream

/-- The current token. -/
def current (s : TokenStream) : Token := s.rest.headD (Parsing.TokenStream.final s)

/-- Some tokens stand between two states of a stream. -/
def Consumes (tokens : List Token) (s s' : TokenStream) : Prop :=
  s.rest = tokens ++ s'.rest ∧ s'.stop = stopAfter s.stop tokens

variable {s s' s'' : TokenStream} {tokens more : List Token}

theorem Consumes.trans (h : Consumes tokens s s') (h' : Consumes more s' s'') :
    Consumes (tokens ++ more) s s'' := by
  refine ⟨by rw [h.1, h'.1, List.append_assoc], ?_⟩
  rw [h'.2, h.2, stopAfter, stopAfter, stopAfter, List.foldl_append]

theorem Consumes.refl (s : TokenStream) : Consumes [] s s := ⟨rfl, rfl⟩

theorem stopAfter_concat (stop : Position) (tokens : List Token) (t : Token) :
    stopAfter stop (tokens ++ [t]) = t.span.stop := by
  rw [stopAfter, List.foldl_append]
  rfl

theorem Consumes.length (h : Consumes tokens s s') :
    s.rest.length = tokens.length + s'.rest.length := by
  rw [h.1, List.length_append]

/-- A token that does not end the source is at the beginning of the rest. -/
theorem rest_eq_of_current (h : s.current.kind ≠ .endOfSource) :
    s.rest = s.current :: s.rest.drop 1 := by
  rcases hrest : s.rest with _ | ⟨t, rest⟩
  · rw [current, hrest] at h
    exact absurd rfl h
  · rw [current, hrest]
    rfl

theorem consumes_current (h : s.current.kind ≠ .endOfSource) :
    Consumes [s.current] s ⟨s.current.span.stop, s.rest.drop 1⟩ :=
  ⟨rest_eq_of_current h, rfl⟩

theorem Consumes.current {t : Token} (h : Consumes (t :: tokens) s s') : s.current = t := by
  rw [TokenStream.current, h.1]
  rfl

end TokenStream

open TokenStream

namespace Parsing

variable {α β : Type} {s : TokenStream}

/-- A step refuses the source with a fault, or gives a result as described. -/
def Gives (m : Parsing α) (s : TokenStream) (Q : α → TokenStream → Prop) : Prop :=
  match m.run s with
  | .ok (a, s') => Q a s'
  | .error (.fault _ _) => True
  | .error .tooDeep => False

theorem gives_pure {a : α} {Q : α → TokenStream → Prop} (h : Q a s) : Gives (pure a) s Q := h

theorem gives_refuse (fault : SyntaxFault) (place : Token) (Q : α → TokenStream → Prop) :
    Gives (refuse fault place) s Q := trivial

/-- One step after another. -/
theorem Gives.bind {m : Parsing α} {f : α → Parsing β} {R : α → TokenStream → Prop}
    {Q : β → TokenStream → Prop} (h : Gives m s R) (hf : ∀ a s', R a s' → Gives (f a) s' Q) :
    Gives (m >>= f) s Q := by
  unfold Gives at h ⊢
  rw [StateT.run_bind]
  rcases hrun : m.run s with e | ⟨a, s'⟩
  · rw [hrun] at h
    cases e with
    | fault fault position => trivial
    | tooDeep => exact h.elim
  · rw [hrun] at h
    exact hf a s' h

/-- What is known of a result may be weakened. -/
theorem Gives.mono {m : Parsing α} {Q R : α → TokenStream → Prop} (h : Gives m s Q)
    (hQ : ∀ a s', Q a s' → R a s') : Gives m s R := by
  unfold Gives at h ⊢
  rcases hrun : m.run s with e | ⟨a, s'⟩
  · rw [hrun] at h
    cases e with
    | fault fault position => trivial
    | tooDeep => exact h.elim
  · rw [hrun] at h
    exact hQ a s' h

theorem run_peek (s : TokenStream) : peek.run s = .ok (s.current, s) := rfl

theorem run_accept (kind : TokenKind) (s : TokenStream) :
    (accept kind).run s =
      if s.current.kind = kind then .ok (true, ⟨s.current.span.stop, s.rest.drop 1⟩)
      else .ok (false, s) := by
  change ((if s.current.kind = kind then (do pass s.current; return true) else return false :
    Parsing Bool)).run s = _
  split <;> rfl

theorem run_expect (kind : TokenKind) (what : Text) (s : TokenStream) :
    (expect kind what).run s =
      if s.current.kind = kind then .ok (s.current, ⟨s.current.span.stop, s.rest.drop 1⟩)
      else .error (.fault (.expected what s.current) s.current.span.first) := by
  change ((if s.current.kind = kind then (do pass s.current; return s.current)
    else refuse (.expected what s.current) s.current : Parsing Token)).run s = _
  split <;> rfl

theorem run_take (s : TokenStream) :
    take.run s =
      if s.current.kind ≠ .endOfSource then
        .ok (s.current, ⟨s.current.span.stop, s.rest.drop 1⟩)
      else .ok (s.current, s) := by
  change ((if s.current.kind ≠ .endOfSource then (do pass s.current; return s.current)
    else return s.current : Parsing Token)).run s = _
  split <;> rfl

theorem gives_peek : Gives peek s fun t s' => t = s.current ∧ s' = s := ⟨rfl, rfl⟩

theorem gives_accept {kind : TokenKind} (hkind : kind ≠ .endOfSource) :
    Gives (accept kind) s fun found s' =>
      (found = true ∧ ∃ t : Terminal kind, Consumes [t.token] s s') ∨ (found = false ∧ s' = s) := by
  unfold Gives
  rw [run_accept]
  by_cases hcurrent : s.current.kind = kind
  · rw [if_pos hcurrent]
    exact .inl ⟨rfl, ⟨s.current, hcurrent⟩, consumes_current (hcurrent ▸ hkind)⟩
  · rw [if_neg hcurrent]
    exact .inr ⟨rfl, rfl⟩

theorem gives_expect {kind : TokenKind} (hkind : kind ≠ .endOfSource) (what : Text) :
    Gives (expect kind what) s fun t s' =>
      ∃ terminal : Terminal kind, terminal.token = t ∧ Consumes [t] s s' := by
  unfold Gives
  rw [run_expect]
  by_cases hcurrent : s.current.kind = kind
  · rw [if_pos hcurrent]
    exact ⟨⟨s.current, hcurrent⟩, rfl, consumes_current (hcurrent ▸ hkind)⟩
  · rw [if_neg hcurrent]
    trivial

theorem gives_pass (h : s.current.kind ≠ .endOfSource) :
    Gives (pass s.current) s fun _ s' => Consumes [s.current] s s' := consumes_current h

theorem gives_take :
    Gives take s fun t s' =>
      t = s.current ∧ (t.kind ≠ .endOfSource → Consumes [t] s s') := by
  unfold Gives
  rw [run_take]
  by_cases hcurrent : s.current.kind = .endOfSource
  · rw [if_neg (not_not.mpr hcurrent)]
    exact ⟨rfl, fun h => absurd hcurrent h⟩
  · rw [if_pos hcurrent]
    exact ⟨rfl, fun _ => consumes_current hcurrent⟩

theorem gives_spanFrom (start : Token) :
    Gives (spanFrom start) s fun span s' => span = ⟨start.span.first, s.stop⟩ ∧ s' = s := ⟨rfl, rfl⟩

theorem gives_numberOf {t : Token} (hkind : t.kind = .number) :
    Gives (numberOf t) s fun n s' => s' = s ∧ ∃ numeral : Numeral,
      numeral.token = t ∧ numeral.value = n := by
  unfold numberOf
  split
  · rename_i n hvalue
    exact ⟨rfl, ⟨t, hkind, n, hvalue⟩, rfl, rfl⟩
  · exact gives_refuse _ t _

theorem gives_propertyName (t : Token) :
    Gives (propertyName t) s fun key s' => s' = s ∧ ∃ k : KeyToken, k.token = t ∧ k.key = key := by
  unfold propertyName
  split
  · rename_i hkind
    exact ⟨rfl, .name ⟨t, hkind⟩, rfl, rfl⟩
  · rename_i hkind
    exact ⟨rfl, .text ⟨t, hkind⟩, rfl, rfl⟩
  · rename_i hkind
    refine (gives_numberOf hkind).bind fun n s' hn => ?_
    obtain ⟨rfl, numeral, rfl, rfl⟩ := hn
    exact ⟨rfl, .number numeral, rfl, rfl⟩
  · exact gives_refuse _ t _
  · exact gives_refuse _ t _

theorem gives_refuseArrow : Gives refuseArrow s fun _ s' => s' = s := by
  refine gives_peek.bind fun t s' ht => ?_
  obtain ⟨-, rfl⟩ := ht
  split
  · exact gives_refuse _ t _
  · exact gives_pure rfl

theorem gives_refuseStatement (t : Token) :
    Gives (refuseStatement t) s fun _ s' =>
      s' = s ∧ ¬(t.kind = .identifier ∧ t.value ∈ statementKeywords) := by
  unfold refuseStatement
  split
  · exact gives_refuse _ t _
  · rename_i hfree
    exact gives_pure ⟨rfl, hfree⟩

end Parsing

/-- Whether tokens of a kind open brackets. -/
def TokenKind.opens : TokenKind → Bool
  | .leftParen | .leftBrace | .leftBracket => true
  | _ => false

/-- Whether tokens of a kind close brackets. -/
def TokenKind.closes : TokenKind → Bool
  | .rightParen | .rightBrace | .rightBracket => true
  | _ => false

/-- Whether never more than some brackets are open at once. -/
def nestsWithin : (room : Nat) → List Token → Bool
  | _, [] => true
  | room, t :: tokens =>
    if t.kind.opens then decide (0 < room) && nestsWithin (room - 1) tokens
    else nestsWithin (if t.kind.closes then room + 1 else room) tokens

section Nesting

variable {t : Token} {room : Nat} {tokens : List Token}

theorem nestsWithin_opening (h : t.kind.opens = true) :
    nestsWithin room (t :: tokens) = true ↔ 0 < room ∧ nestsWithin (room - 1) tokens = true := by
  rw [nestsWithin, if_pos h, Bool.and_eq_true, decide_eq_true_iff]

theorem nestsWithin_closing (h : t.kind.closes = true) :
    nestsWithin room (t :: tokens) = nestsWithin (room + 1) tokens := by
  have hopens : t.kind.opens = false := by
    cases hkind : t.kind <;> rw [hkind] at h <;> first | rfl | exact Bool.noConfusion h
  rw [nestsWithin, if_neg (by rw [hopens]; exact Bool.false_ne_true), if_pos h]

theorem nestsWithin_plain (hopens : t.kind.opens = false) (hcloses : t.kind.closes = false) :
    nestsWithin room (t :: tokens) = nestsWithin room tokens := by
  rw [nestsWithin, if_neg (by rw [hopens]; exact Bool.false_ne_true),
    if_neg (by rw [hcloses]; exact Bool.false_ne_true)]

end Nesting

namespace Grammar

theorem KeyToken.nestsWithin_cons (key : KeyToken) (room : Nat) (tokens : List Token) :
    nestsWithin room (key.token :: tokens) = nestsWithin room tokens := by
  cases key with
  | number n =>
    exact nestsWithin_plain (by rw [token, n.kind_eq]; rfl) (by rw [token, n.kind_eq]; rfl)
  | name t | text t =>
    exact nestsWithin_plain (by simp [token, TokenKind.opens]) (by simp [token, TokenKind.closes])

theorem Numeral.nestsWithin_cons (n : Numeral) (room : Nat) (tokens : List Token) :
    nestsWithin room (n.token :: tokens) = nestsWithin room tokens :=
  nestsWithin_plain (by rw [n.kind_eq]; rfl) (by rw [n.kind_eq]; rfl)

theorem SignToken.nestsWithin_cons (sign : SignToken) (room : Nat) (tokens : List Token) :
    nestsWithin room (sign.token :: tokens) = nestsWithin room tokens := by
  rcases sign.kind_eq with h | h
  · exact nestsWithin_plain (by rw [h]; rfl) (by rw [h]; rfl)
  · exact nestsWithin_plain (by rw [h]; rfl) (by rw [h]; rfl)

theorem Terminal.nestsWithin_cons {kind : TokenKind} (t : Terminal kind)
    (hopens : kind.opens = false) (hcloses : kind.closes = false) (room : Nat)
    (tokens : List Token) : nestsWithin room (t.token :: tokens) = nestsWithin room tokens :=
  nestsWithin_plain (by rwa [t.kind_eq]) (by rwa [t.kind_eq])

/-- What stands in brackets is nested one level less deep than the brackets. -/
theorem nestsWithin_of_brackets {left right : TokenKind} {opening : Terminal left}
    {closing : Terminal right} (hleft : left.opens = true) (hright : right.closes = true)
    {room : Nat} {tokens rest : List Token}
    (hinner : ∀ {room : Nat} {rest : List Token},
      nestsWithin room (tokens ++ rest) = true → nestsWithin room rest = true)
    (h : nestsWithin room (opening.token :: (tokens ++ closing.token :: rest)) = true) :
    nestsWithin room rest = true := by
  -- The level that the opening bracket takes is given back by the closing one.
  obtain ⟨hroom, h⟩ := (nestsWithin_opening (by rwa [opening.kind_eq])).mp h
  have hclosing := hinner h
  rw [nestsWithin_closing (by rwa [closing.kind_eq]), Nat.sub_add_cancel hroom] at hclosing
  exact hclosing

/-- The brackets of a derivation are balanced, so that they leave the nesting behind it as it is. -/
theorem Phrase.nestsWithin_of_append {c : Category} (d : Phrase c) {room : Nat}
    {rest : List Token} (h : nestsWithin room (d.tokens ++ rest) = true) :
    nestsWithin room rest = true := by
  induction d generalizing room rest with
  | expression head tail ihhead ihtail =>
    rw [tokens, List.append_assoc] at h
    exact ihtail (ihhead h)
  | bare | empty | noProperty => exact h
  | member dot target tail ih =>
    simp only [tokens, List.cons_append] at h
    rw [dot.nestsWithin_cons rfl rfl, target.nestsWithin_cons rfl rfl] at h
    exact ih h
  | call opening arguments closing tail iharguments ihtail =>
    simp only [tokens, List.cons_append, List.append_assoc] at h
    exact ihtail (nestsWithin_of_brackets rfl rfl iharguments h)
  | last e ih => exact ih h
  | more e comma others ihe ihothers =>
    rw [tokens, List.append_assoc] at h
    have hnext := ihe h
    rw [List.cons_append, comma.nestsWithin_cons rfl rfl] at hnext
    exact ihothers hnext
  | lastProperty key colon e ih =>
    simp only [tokens, List.cons_append] at h
    rw [key.nestsWithin_cons, colon.nestsWithin_cons rfl rfl] at h
    exact ih h
  | moreProperties key colon e comma others ihe ihothers =>
    simp only [tokens, List.cons_append, List.append_assoc] at h
    rw [key.nestsWithin_cons, colon.nestsWithin_cons rfl rfl] at h
    have hnext := ihe h
    rw [comma.nestsWithin_cons rfl rfl] at hnext
    exact ihothers hnext
  | name t free =>
    exact (t.nestsWithin_cons rfl rfl room rest).symm.trans h
  | string t | regex t => exact (t.nestsWithin_cons rfl rfl room rest).symm.trans h
  | number n => exact (n.nestsWithin_cons room rest).symm.trans h
  | signed sign n =>
    simp only [tokens, List.cons_append, List.nil_append] at h
    rw [sign.nestsWithin_cons, n.nestsWithin_cons] at h
    exact h
  | array opening elements closing ih | object opening fields closing ih
  | parenthesized opening e closing ih =>
    simp only [tokens, List.cons_append, List.append_assoc, List.nil_append] at h
    exact nestsWithin_of_brackets rfl rfl ih h

end Grammar

namespace TokenStream

variable {s s' : TokenStream} {t : Token} {room : Nat}

/-- An opening bracket takes one level of what is left. -/
theorem Consumes.nestsWithin_opening (h : Consumes [t] s s') (hopens : t.kind.opens = true)
    (hnest : nestsWithin room s.rest = true) :
    0 < room ∧ nestsWithin (room - 1) s'.rest = true := by
  rw [h.1, List.singleton_append] at hnest
  exact (Conform.nestsWithin_opening hopens).mp hnest

/-- A token that is no bracket leaves the nesting behind it as it is. -/
theorem Consumes.nestsWithin_plain (h : Consumes [t] s s')
    (hplain : ∀ tokens, nestsWithin room (t :: tokens) = nestsWithin room tokens)
    (hnest : nestsWithin room s.rest = true) : nestsWithin room s'.rest = true := by
  rw [h.1, List.singleton_append, hplain] at hnest
  exact hnest

/-- A derivation leaves the nesting behind it as it is. -/
theorem Consumes.nestsWithin_phrase {c : Category} {d : Phrase c} (h : Consumes d.tokens s s')
    (hnest : nestsWithin room s.rest = true) : nestsWithin room s'.rest = true := by
  rw [h.1] at hnest
  exact d.nestsWithin_of_append hnest

theorem Consumes.length_cons {tokens : List Token} (h : Consumes (t :: tokens) s s') :
    s.rest.length = tokens.length + s'.rest.length + 1 := by
  rw [h.length, List.length_cons]
  omega

end TokenStream

end Conform
