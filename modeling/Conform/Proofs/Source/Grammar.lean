import Conform.Source.Parsing
import Mathlib.Data.List.Basic

/-!
# The grammar of schema expressions

A source derives from the grammar if its tokens are those of a derivation, from left to right. Each
derivation has a tree, in which parentheses leave no node and chains of member accesses and calls
nest to the left.

## Main definitions

- `Terminal`, `Numeral`, `SignToken`, `KeyToken` — the tokens that derivations are made of
- `Phrase` — derivations from the nonterminals of the grammar
- `Phrase.tokens`, `Phrase.tree` — what is derived, and its meaning
- `Derivation` — derivations of sources
- `Phrase.eq_of_tokens` — the grammar is unambiguous
-/

namespace Conform.Grammar

open Parsing

/-- A token of a kind. -/
@[ext]
structure Terminal (kind : TokenKind) where
  token : Token
  kind_eq : token.kind = kind

attribute [simp] Terminal.kind_eq

/-- A number token with the number that it denotes. -/
structure Numeral where
  token : Token
  kind_eq : token.kind = .number
  value : Number
  denotes : numberValue? token.value = some value

/-- A token of a sign. -/
@[ext]
structure SignToken where
  token : Token
  kind_eq : token.kind = .minus ∨ token.kind = .plus

/-- A token that can be the key of a property. -/
inductive KeyToken
  | name (t : Terminal .identifier)
  | text (t : Terminal .string)
  | number (n : Numeral)

/-- The token of a key. -/
def KeyToken.token : KeyToken → Token
  | .name t => t.token
  | .text t => t.token
  | .number n => n.token

/-- The text of a key. -/
def KeyToken.key : KeyToken → Text
  | .name t => t.token.value
  | .text t => t.token.value
  | .number n => keyOfNumber n.value

/-- The nonterminals of the grammar below sources. -/
inductive Category
  | expression
  | postfixes
  | sequence
  | properties
  | primary

/-- Derivations from a nonterminal. An expression is a primary one with postfixes behind it. As a
primary expression stands at the beginning of each expression and nowhere else, an expression begins
with no statement keyword if none is a primary expression. -/
inductive Phrase : Category → Type
  | expression (head : Phrase .primary) (tail : Phrase .postfixes) : Phrase .expression
  | bare : Phrase .postfixes
  | member (dot : Terminal .dot) (name : Terminal .identifier) (tail : Phrase .postfixes) :
      Phrase .postfixes
  | call (opening : Terminal .leftParen) (arguments : Phrase .sequence)
      (closing : Terminal .rightParen) (tail : Phrase .postfixes) : Phrase .postfixes
  | empty : Phrase .sequence
  | last (e : Phrase .expression) : Phrase .sequence
  | more (e : Phrase .expression) (comma : Terminal .comma) (rest : Phrase .sequence) :
      Phrase .sequence
  | noProperty : Phrase .properties
  | lastProperty (key : KeyToken) (colon : Terminal .colon) (e : Phrase .expression) :
      Phrase .properties
  | moreProperties (key : KeyToken) (colon : Terminal .colon) (e : Phrase .expression)
      (comma : Terminal .comma) (rest : Phrase .properties) : Phrase .properties
  | name (t : Terminal .identifier) (free : t.token.value ∉ statementKeywords) : Phrase .primary
  | string (t : Terminal .string) : Phrase .primary
  | number (n : Numeral) : Phrase .primary
  | signed (sign : SignToken) (n : Numeral) : Phrase .primary
  | regex (t : Terminal .regex) : Phrase .primary
  | array (opening : Terminal .leftBracket) (elements : Phrase .sequence)
      (closing : Terminal .rightBracket) : Phrase .primary
  | object (opening : Terminal .leftBrace) (fields : Phrase .properties)
      (closing : Terminal .rightBrace) : Phrase .primary
  | parenthesized (opening : Terminal .leftParen) (e : Phrase .expression)
      (closing : Terminal .rightParen) : Phrase .primary

/-- What a nonterminal stands for. Postfixes continue an expression that begins at a position. -/
def Category.Tree : Category → Type
  | .expression => Expr
  | .postfixes => Position → Expr → Expr
  | .sequence => List Expr
  | .properties => List (PropertyKey × Expr)
  | .primary => Expr

/-- The end of the last one of some tokens, or a position if there is none. -/
def stopAfter (stop : Position) (tokens : List Token) : Position :=
  tokens.foldl (fun _ t => t.span.stop) stop

namespace Phrase

variable {c : Category}

/-- The tokens of a derivation from left to right. -/
def tokens : {c : Category} → Phrase c → List Token
  | _, .expression head tail => head.tokens ++ tail.tokens
  | _, .bare => []
  | _, .member dot target tail => dot.token :: target.token :: tail.tokens
  | _, .call opening arguments closing tail =>
    opening.token :: (arguments.tokens ++ closing.token :: tail.tokens)
  | _, .empty => []
  | _, .last e => e.tokens
  | _, .more e comma rest => e.tokens ++ comma.token :: rest.tokens
  | _, .noProperty => []
  | _, .lastProperty key colon e => key.token :: colon.token :: e.tokens
  | _, .moreProperties key colon e comma rest =>
    key.token :: colon.token :: (e.tokens ++ comma.token :: rest.tokens)
  | _, .name t _ => [t.token]
  | _, .string t => [t.token]
  | _, .number n => [n.token]
  | _, .signed sign n => [sign.token, n.token]
  | _, .regex t => [t.token]
  | _, .array opening elements closing => opening.token :: (elements.tokens ++ [closing.token])
  | _, .object opening fields closing => opening.token :: (fields.tokens ++ [closing.token])
  | _, .parenthesized opening e closing => opening.token :: (e.tokens ++ [closing.token])

/-- Where a primary expression begins. -/
def first : Phrase .primary → Token
  | .name t _ => t.token
  | .string t => t.token
  | .number n => n.token
  | .signed sign _ => sign.token
  | .regex t => t.token
  | .array opening _ _ => opening.token
  | .object opening _ _ => opening.token
  | .parenthesized opening _ _ => opening.token

/-- A property with the stretch of source from its key to the end of its expression. -/
def property (key : KeyToken) (colon : Terminal .colon) (e : Phrase .expression) (tree : Expr) :
    PropertyKey × Expr :=
  (⟨⟨key.token.span.first, stopAfter colon.token.span.stop e.tokens⟩, key.key⟩, tree)

/-- The tree of a derivation. -/
def tree : {c : Category} → Phrase c → c.Tree
  | _, .expression head tail => tail.tree head.first.span.first head.tree
  | _, .bare => fun _ e => e
  | _, .member _ target tail => fun start e =>
    tail.tree start (Expr.member ⟨start, target.token.span.stop⟩ e target.token.value)
  | _, .call _ arguments closing tail => fun start e =>
    tail.tree start (Expr.call ⟨start, closing.token.span.stop⟩ e arguments.tree)
  | _, .empty => ([] : List Expr)
  | _, .last e => [e.tree]
  | _, .more e _ rest => List.cons e.tree rest.tree
  | _, .noProperty => ([] : List (PropertyKey × Expr))
  | _, .lastProperty key colon e => [property key colon e e.tree]
  | _, .moreProperties key colon e _ rest => List.cons (property key colon e e.tree) rest.tree
  | _, .name t _ =>
    match literalWord? t.token.value with
    | some value => Expr.literal t.token.span value
    | none => Expr.identifier t.token.span t.token.value
  | _, .string t => Expr.literal t.token.span (.text t.token.value)
  | _, .number n => Expr.literal n.token.span (.number n.value)
  | _, .signed sign n =>
    Expr.literal ⟨sign.token.span.first, n.token.span.stop⟩
      (.number (if sign.token.kind = .minus then n.value.neg else n.value))
  | _, .regex t =>
    Expr.regex t.token.span (regexParts t.token.value).1 (regexParts t.token.value).2
  | _, .array opening elements closing =>
    Expr.array ⟨opening.token.span.first, closing.token.span.stop⟩ elements.tree
  | _, .object opening fields closing =>
    Expr.object ⟨opening.token.span.first, closing.token.span.stop⟩ fields.tree
  | _, .parenthesized _ e _ => e.tree

end Phrase

/-- A derivation of a source: an expression with an optional semicolon. -/
structure Derivation where
  expression : Phrase .expression
  semicolon : Option (Terminal .semicolon)

/-- The tokens of a source before its end. -/
def Derivation.tokens (d : Derivation) : List Token :=
  d.expression.tokens ++ d.semicolon.toList.map (·.token)

/-- The expression that a source denotes. -/
def Derivation.tree (d : Derivation) : Expr := d.expression.tree

/-- What may stand behind a derivation: something that would not continue it. -/
def Category.Follows : Category → List Token → Prop
  | .expression, rest | .postfixes, rest =>
    ∀ t ∈ rest.head?, t.kind ≠ .dot ∧ t.kind ≠ .leftParen ∧ t.kind ≠ .fatArrow
  | .sequence, rest => ∃ t ∈ rest.head?, t.kind = .rightParen ∨ t.kind = .rightBracket
  | .properties, rest => ∃ t ∈ rest.head?, t.kind = .rightBrace
  | .primary, rest => ∀ t ∈ rest.head?, t.kind ≠ .fatArrow

theorem Category.follows_expression {t : Token} {rest : List Token}
    (h : t.kind = .comma ∨ t.kind = .rightParen ∨ t.kind = .rightBracket ∨ t.kind = .rightBrace) :
    Category.expression.Follows (t :: rest) := by
  intro u hu
  obtain rfl : t = u := Option.some.inj hu
  rcases h with h | h | h | h <;> simp [h]

/-- The end of a row of expressions or properties ends its last expression. -/
theorem Category.Follows.expression {rest : List Token}
    (h : Category.sequence.Follows rest ∨ Category.properties.Follows rest) :
    Category.expression.Follows rest := by
  rcases h with ⟨t, ht, hkind⟩ | ⟨t, ht, hkind⟩
  · obtain ⟨more, rfl⟩ := List.head?_eq_some_iff.mp ht
    exact Category.follows_expression (.inr (hkind.imp_right .inl))
  · obtain ⟨more, rfl⟩ := List.head?_eq_some_iff.mp ht
    exact Category.follows_expression (.inr (.inr (.inr hkind)))

/-- The kinds of tokens that expressions begin with. -/
def StartsExpression (kind : TokenKind) : Prop :=
  kind ∈ [.identifier, .string, .number, .minus, .plus, .regex, .leftBracket, .leftBrace,
    .leftParen]

namespace Phrase

theorem startsExpression_first (d : Phrase .primary) : StartsExpression d.first.kind := by
  cases d with
  | number n => simp [first, StartsExpression, n.kind_eq]
  | signed sign n => rcases sign.kind_eq with h | h <;> simp [first, StartsExpression, h]
  | _ => simp [first, StartsExpression]

theorem tokens_primary (d : Phrase .primary) : ∃ more, d.tokens = d.first :: more := by
  cases d <;> exact ⟨_, rfl⟩

theorem tokens_expression (d : Phrase .expression) :
    ∃ t more, d.tokens = t :: more ∧ StartsExpression t.kind := by
  cases d with
  | expression head tail =>
    obtain ⟨more, hmore⟩ := head.tokens_primary
    exact ⟨head.first, more ++ tail.tokens, by rw [tokens, hmore, List.cons_append],
      head.startsExpression_first⟩

end Phrase

theorem Numeral.ext {m n : Numeral} (h : m.token = n.token) : m = n := by
  obtain ⟨token, kind_eq, value, denotes⟩ := m
  obtain ⟨token', kind_eq', value', denotes'⟩ := n
  obtain rfl : token = token' := h
  obtain rfl : value = value' := Option.some.inj (denotes.symm.trans denotes')
  rfl

theorem KeyToken.ext {k l : KeyToken} (h : k.token = l.token) : k = l := by
  have hkind := congrArg Token.kind h
  cases k with
  | name t =>
    cases l with
    | name u => exact congrArg KeyToken.name (Terminal.ext h)
    | text u => simp [token] at hkind
    | number n => simp [token, n.kind_eq] at hkind
  | text t =>
    cases l with
    | name u => simp [token] at hkind
    | text u => exact congrArg KeyToken.text (Terminal.ext h)
    | number n => simp [token, n.kind_eq] at hkind
  | number m =>
    cases l with
    | name u => simp [token, m.kind_eq] at hkind
    | text u => simp [token, m.kind_eq] at hkind
    | number n => exact congrArg KeyToken.number (Numeral.ext h)

theorem KeyToken.kind_ne_endOfSource (k : KeyToken) : k.token.kind ≠ .endOfSource := by
  cases k with
  | number n => simp [token, n.kind_eq]
  | _ => simp [token]

theorem KeyToken.kind_ne_rightBrace (k : KeyToken) : k.token.kind ≠ .rightBrace := by
  cases k with
  | number n => simp [token, n.kind_eq]
  | _ => simp [token]

namespace Phrase

variable {rest rest' : List Token}

theorem first_eq {d d' : Phrase .primary} (h : d.tokens ++ rest = d'.tokens ++ rest') :
    d.first = d'.first := by
  obtain ⟨more, hmore⟩ := d.tokens_primary
  obtain ⟨more', hmore'⟩ := d'.tokens_primary
  rw [hmore, hmore', List.cons_append, List.cons_append] at h
  exact (List.cons.inj h).1

/-- What ends a row of expressions or properties begins no expression. -/
theorem append_ne_of_follows {e : Phrase .expression} {more : List Token}
    (h : Category.sequence.Follows rest ∨ Category.properties.Follows rest) :
    e.tokens ++ more ≠ rest := by
  rintro rfl
  obtain ⟨t, others, htokens, hstarts⟩ := e.tokens_expression
  rw [htokens, List.cons_append] at h
  rcases h with ⟨u, hu, hkind⟩ | ⟨u, hu, hkind⟩ <;> obtain rfl : t = u := Option.some.inj hu
  · rcases hkind with hkind | hkind <;> simp [StartsExpression, hkind] at hstarts
  · simp [StartsExpression, hkind] at hstarts

/-- The end of a row is no comma. -/
theorem cons_comma_ne_of_follows {comma : Terminal .comma} {more : List Token}
    (h : Category.sequence.Follows rest ∨ Category.properties.Follows rest) :
    comma.token :: more ≠ rest := by
  rintro rfl
  rcases h with ⟨u, hu, hkind⟩ | ⟨u, hu, hkind⟩ <;> obtain rfl := Option.some.inj hu
  · simp at hkind
  · simp at hkind

/-- The end of an object is no key. -/
theorem cons_key_ne_of_follows {key : KeyToken} {more : List Token}
    (h : Category.properties.Follows rest) : key.token :: more ≠ rest := by
  rintro rfl
  obtain ⟨t, ht, hkind⟩ := h
  obtain rfl := Option.some.inj ht
  exact key.kind_ne_rightBrace hkind

/-- The kind of token that a primary expression begins with; both signs count as one. -/
def leadKind : Phrase .primary → TokenKind
  | .name _ _ => .identifier
  | .string _ => .string
  | .number _ => .number
  | .signed _ _ => .minus
  | .regex _ => .regex
  | .array _ _ _ => .leftBracket
  | .object _ _ _ => .leftBrace
  | .parenthesized _ _ _ => .leftParen

theorem leadKind_eq (d : Phrase .primary) :
    d.leadKind = if d.first.kind = .plus then .minus else d.first.kind := by
  cases d with
  | number n => simp [leadKind, first, n.kind_eq]
  | signed sign n => rcases sign.kind_eq with h | h <;> simp [leadKind, first, h]
  | _ => simp [leadKind, first]

theorem leadKind_eq_of_tokens {d d' : Phrase .primary}
    (h : d.tokens ++ rest = d'.tokens ++ rest') : d.leadKind = d'.leadKind := by
  rw [leadKind_eq, leadKind_eq, first_eq h]

/-- Postfixes and what follows an expression leave the primary expression before them alone. -/
theorem follows_primary (tail : Phrase .postfixes) (h : Category.postfixes.Follows rest) :
    Category.primary.Follows (tail.tokens ++ rest) := by
  intro u hu
  cases tail with
  | bare => exact (h u hu).2.2
  | member dot target tail =>
    obtain rfl := Option.some.inj hu
    simp
  | call opening arguments closing tail =>
    obtain rfl := Option.some.inj hu
    simp

/-- Brackets are told apart by what they enclose, if its tokens end where the brackets close. -/
theorem eq_of_brackets {left right : TokenKind} {opening opening' : Terminal left}
    {closing closing' : Terminal right} {c : Category} {d d' : Phrase c}
    (ih : d.tokens ++ closing.token :: rest = d'.tokens ++ closing'.token :: rest' →
      d = d' ∧ closing.token :: rest = closing'.token :: rest')
    (h : opening.token :: (d.tokens ++ closing.token :: rest) =
      opening'.token :: (d'.tokens ++ closing'.token :: rest')) :
    opening = opening' ∧ d = d' ∧ closing = closing' ∧ rest = rest' := by
  obtain ⟨hopening, hinner⟩ := List.cons.inj h
  obtain ⟨hd, hnext⟩ := ih hinner
  obtain ⟨hclosing, hrest⟩ := List.cons.inj hnext
  exact ⟨Terminal.ext hopening, hd, Terminal.ext hclosing, hrest⟩

/-- The grammar is unambiguous: whatever follows, the tokens of a derivation are those of no other
one. -/
theorem eq_of_tokens {c : Category} (d d' : Phrase c) (hrest : c.Follows rest)
    (hrest' : c.Follows rest') (h : d.tokens ++ rest = d'.tokens ++ rest') :
    d = d' ∧ rest = rest' := by
  -- By induction on the first derivation: the token at which two derivations of one category could
  -- part ways is the first one of a row, of postfixes or of a primary expression.
  induction d generalizing rest rest' with
  | expression head tail ihhead ihtail =>
    cases d' with
    | expression head' tail' =>
      simp only [tokens, List.append_assoc] at h
      obtain ⟨rfl, htail⟩ :=
        ihhead head' (follows_primary tail hrest) (follows_primary tail' hrest') h
      obtain ⟨rfl, hnext⟩ := ihtail tail' hrest hrest' htail
      exact ⟨rfl, hnext⟩
  | bare =>
    cases d' with
    | bare => exact ⟨rfl, h⟩
    | member dot target tail =>
      subst h
      exact absurd dot.kind_eq (hrest _ rfl).1
    | call opening arguments closing tail =>
      subst h
      exact absurd opening.kind_eq (hrest _ rfl).2.1
  | member dot target tail ih =>
    simp only [tokens, List.cons_append] at h
    cases d' with
    | bare =>
      subst h
      exact absurd dot.kind_eq (hrest' _ rfl).1
    | member dot' target' tail' =>
      simp only [tokens, List.cons_append, List.cons.injEq] at h
      obtain ⟨rfl, hnext⟩ := ih tail' hrest hrest' h.2.2
      rw [Terminal.ext h.1, Terminal.ext h.2.1]
      exact ⟨rfl, hnext⟩
    | call opening arguments closing tail' =>
      have hkind := congrArg Token.kind (List.cons.inj h).1
      simp at hkind
  | call opening arguments closing tail iharguments ihtail =>
    simp only [tokens, List.cons_append, List.append_assoc] at h
    cases d' with
    | bare =>
      subst h
      exact absurd opening.kind_eq (hrest' _ rfl).2.1
    | member dot target tail' =>
      have hkind := congrArg Token.kind (List.cons.inj h).1
      simp at hkind
    | call opening' arguments' closing' tail' =>
      simp only [tokens, List.cons_append, List.append_assoc] at h
      obtain ⟨rfl, rfl, rfl, htail⟩ := eq_of_brackets (iharguments arguments'
        ⟨_, rfl, .inl closing.kind_eq⟩ ⟨_, rfl, .inl closing'.kind_eq⟩) h
      obtain ⟨rfl, hnext⟩ := ihtail tail' hrest hrest' htail
      exact ⟨rfl, hnext⟩
  -- A row goes on only with an expression, and what closes it begins none.
  | empty =>
    cases d' with
    | empty => exact ⟨rfl, h⟩
    | last e => exact absurd h.symm (append_ne_of_follows (.inl hrest))
    | more e comma others =>
      rw [tokens, tokens, List.append_assoc] at h
      exact absurd h.symm (append_ne_of_follows (.inl hrest))
  | last e ih =>
    cases d' with
    | empty => exact absurd h (append_ne_of_follows (.inl hrest'))
    | last e' =>
      obtain ⟨rfl, hnext⟩ := ih e' (.expression (.inl hrest)) (.expression (.inl hrest')) h
      exact ⟨rfl, hnext⟩
    | more e' comma others =>
      rw [tokens, tokens, List.append_assoc] at h
      have hnext := (ih e' (.expression (.inl hrest))
        (Category.follows_expression (.inl comma.kind_eq)) h).2
      exact absurd hnext.symm (cons_comma_ne_of_follows (.inl hrest))
  | more e comma others ihe ihothers =>
    rw [tokens, List.append_assoc] at h
    cases d' with
    | empty => exact absurd h (append_ne_of_follows (.inl hrest'))
    | last e' =>
      have hnext := (ihe e' (Category.follows_expression (.inl comma.kind_eq))
        (.expression (.inl hrest')) h).2
      exact absurd hnext (cons_comma_ne_of_follows (.inl hrest'))
    | more e' comma' others' =>
      rw [tokens, List.append_assoc] at h
      obtain ⟨rfl, hothers⟩ := ihe e' (Category.follows_expression (.inl comma.kind_eq))
        (Category.follows_expression (.inl comma'.kind_eq)) h
      rw [List.cons.injEq] at hothers
      obtain ⟨rfl, hnext⟩ := ihothers others' hrest hrest' hothers.2
      rw [Terminal.ext hothers.1]
      exact ⟨rfl, hnext⟩
  | noProperty =>
    cases d' with
    | noProperty => exact ⟨rfl, h⟩
    | lastProperty key colon e | moreProperties key colon e comma others =>
      exact absurd h.symm (cons_key_ne_of_follows hrest)
  | lastProperty key colon e ih =>
    simp only [tokens, List.cons_append] at h
    cases d' with
    | noProperty => exact absurd h (cons_key_ne_of_follows hrest')
    | lastProperty key' colon' e' =>
      simp only [tokens, List.cons_append, List.cons.injEq] at h
      obtain ⟨rfl, hnext⟩ := ih e' (.expression (.inr hrest)) (.expression (.inr hrest')) h.2.2
      rw [KeyToken.ext h.1, Terminal.ext h.2.1]
      exact ⟨rfl, hnext⟩
    | moreProperties key' colon' e' comma others =>
      simp only [tokens, List.cons_append, List.append_assoc, List.cons.injEq] at h
      have hnext := (ih e' (.expression (.inr hrest))
        (Category.follows_expression (.inl comma.kind_eq)) h.2.2).2
      exact absurd hnext.symm (cons_comma_ne_of_follows (.inr hrest))
  | moreProperties key colon e comma others ihe ihothers =>
    simp only [tokens, List.cons_append, List.append_assoc] at h
    cases d' with
    | noProperty => exact absurd h (cons_key_ne_of_follows hrest')
    | lastProperty key' colon' e' =>
      simp only [tokens, List.cons_append, List.cons.injEq] at h
      have hnext := (ihe e' (Category.follows_expression (.inl comma.kind_eq))
        (.expression (.inr hrest')) h.2.2).2
      exact absurd hnext (cons_comma_ne_of_follows (.inr hrest'))
    | moreProperties key' colon' e' comma' others' =>
      simp only [tokens, List.cons_append, List.append_assoc, List.cons.injEq] at h
      obtain ⟨rfl, hothers⟩ := ihe e' (Category.follows_expression (.inl comma.kind_eq))
        (Category.follows_expression (.inl comma'.kind_eq)) h.2.2
      rw [List.cons.injEq] at hothers
      obtain ⟨rfl, hnext⟩ := ihothers others' hrest hrest' hothers.2
      rw [KeyToken.ext h.1, Terminal.ext h.2.1, Terminal.ext hothers.1]
      exact ⟨rfl, hnext⟩
  -- A primary expression is told by its first token.
  | name t free =>
    have hlead := leadKind_eq_of_tokens h
    cases d' with
    | name t' free' =>
      obtain ⟨ht, hnext⟩ := List.cons.inj h
      obtain rfl := Terminal.ext ht
      exact ⟨rfl, hnext⟩
    | _ => exact nomatch hlead
  | string t =>
    have hlead := leadKind_eq_of_tokens h
    cases d' with
    | string t' =>
      obtain ⟨ht, hnext⟩ := List.cons.inj h
      obtain rfl := Terminal.ext ht
      exact ⟨rfl, hnext⟩
    | _ => exact nomatch hlead
  | number n =>
    have hlead := leadKind_eq_of_tokens h
    cases d' with
    | number n' =>
      obtain ⟨hn, hnext⟩ := List.cons.inj h
      obtain rfl := Numeral.ext hn
      exact ⟨rfl, hnext⟩
    | _ => exact nomatch hlead
  | signed sign n =>
    have hlead := leadKind_eq_of_tokens h
    cases d' with
    | signed sign' n' =>
      simp only [tokens, List.cons_append, List.nil_append, List.cons.injEq] at h
      obtain rfl := SignToken.ext h.1
      obtain rfl := Numeral.ext h.2.1
      exact ⟨rfl, h.2.2⟩
    | _ => exact nomatch hlead
  | regex t =>
    have hlead := leadKind_eq_of_tokens h
    cases d' with
    | regex t' =>
      obtain ⟨ht, hnext⟩ := List.cons.inj h
      obtain rfl := Terminal.ext ht
      exact ⟨rfl, hnext⟩
    | _ => exact nomatch hlead
  | array opening elements closing ih =>
    have hlead := leadKind_eq_of_tokens h
    cases d' with
    | array opening' elements' closing' =>
      simp only [tokens, List.cons_append, List.append_assoc] at h
      obtain ⟨rfl, rfl, rfl, hnext⟩ := eq_of_brackets (ih elements'
        ⟨_, rfl, .inr closing.kind_eq⟩ ⟨_, rfl, .inr closing'.kind_eq⟩) h
      exact ⟨rfl, hnext⟩
    | _ => exact nomatch hlead
  | object opening fields closing ih =>
    have hlead := leadKind_eq_of_tokens h
    cases d' with
    | object opening' fields' closing' =>
      simp only [tokens, List.cons_append, List.append_assoc] at h
      obtain ⟨rfl, rfl, rfl, hnext⟩ := eq_of_brackets (ih fields'
        ⟨_, rfl, closing.kind_eq⟩ ⟨_, rfl, closing'.kind_eq⟩) h
      exact ⟨rfl, hnext⟩
    | _ => exact nomatch hlead
  | parenthesized opening e closing ih =>
    have hlead := leadKind_eq_of_tokens h
    cases d' with
    | parenthesized opening' e' closing' =>
      simp only [tokens, List.cons_append, List.append_assoc] at h
      obtain ⟨rfl, rfl, rfl, hnext⟩ := eq_of_brackets (ih e'
        (Category.follows_expression (.inr (.inl closing.kind_eq)))
        (Category.follows_expression (.inr (.inl closing'.kind_eq)))) h
      exact ⟨rfl, hnext⟩
    | _ => exact nomatch hlead

end Phrase

/-- A source has at most one derivation. -/
theorem Derivation.eq_of_tokens {d d' : Derivation} (h : d.tokens = d'.tokens) : d = d' := by
  obtain ⟨e, semicolon⟩ := d
  obtain ⟨e', semicolon'⟩ := d'
  have hfollows (mark : Option (Terminal .semicolon)) :
      Category.expression.Follows (mark.toList.map (·.token)) := by
    intro t ht
    rcases mark with _ | mark
    · exact nomatch ht
    · obtain rfl := Option.some.inj ht
      simp
  obtain ⟨rfl, hmarks⟩ := e.eq_of_tokens e' (hfollows semicolon) (hfollows semicolon') h
  cases semicolon <;> cases semicolon'
  · rfl
  · exact nomatch hmarks
  · exact nomatch hmarks
  · rw [Terminal.ext (List.cons.inj hmarks).1]

end Conform.Grammar
