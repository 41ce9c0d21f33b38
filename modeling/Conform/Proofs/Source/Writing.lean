import Conform.Proofs.Source.Completeness
import Conform.Proofs.Source.Scanning

/-!
# Writing expressions and reading them back

An expression is written without blanks: strings and keys between double quotes, and a number in
parentheses where a member of it is accessed or it is called, as the point would belong to it. What
is written is scanned as the tokens of a derivation, whose tree is the expression at other places.

## Main definitions

- `Expr.written` — an expression as source
- `Expr.Writable` — the expressions that sources can denote
- `Expr.nesting` — how deep brackets are nested in what is written
- `Expr.unplaced` — an expression without its places
- `Spells` — a text is scanned as the tokens of a derivation
- `Expr.ofSource_written` — reading what is written
-/

namespace Conform

open Grammar TokenStream

section Written

/-- A value as source. -/
def Scalar.written : Scalar → Text
  | .undefined => "undefined"
  | .null => "null"
  | .bool true => "true"
  | .bool false => "false"
  | .number n => n.text
  | .text t => t.doubleQuoted

/-- The values that are written as literals. Numbers are integers that are not too long. -/
def Scalar.Writable : Scalar → Prop
  | .number (.int n) => (Number.int n).isTooLong = false
  | .number (.float _) => False
  | _ => True

/-- A text between two marks. -/
def Text.between (opening closing : CodePoint) (w : Text) : Text := opening :: (w ++ [closing])

/-- Texts with commas between neighbours. -/
def Text.listed (ws : List Text) : Text := Text.join [','.toNat] ws

namespace Expr

/-- Whether an expression is a number literal. -/
def isNumber : Expr → Bool
  | .literal _ (.number _) => true
  | _ => false

/-- A text in front of a member access or a call; a number stands in parentheses. -/
def enclosed (number : Bool) (w : Text) : Text :=
  if number then Text.between '('.toNat ')'.toNat w else w

mutual

/-- An expression as source. -/
def written : Expr → Text
  | .identifier _ text => text
  | .literal _ value => value.written
  | .regex _ body flags => Regex.written body flags
  | .array _ elements => Text.between '['.toNat ']'.toNat (Text.listed (writtenAll elements))
  | .object _ properties => Text.between 0x7B 0x7D (Text.listed (writtenProperties properties))
  | .member _ target name => enclosed target.isNumber target.written ++ '.'.toNat :: name
  | .call _ callee arguments =>
    enclosed callee.isNumber callee.written ++
      Text.between '('.toNat ')'.toNat (Text.listed (writtenAll arguments))

/-- Expressions as source. -/
def writtenAll : List Expr → List Text
  | [] => []
  | e :: es => e.written :: writtenAll es

/-- Properties as source. -/
def writtenProperties : List (PropertyKey × Expr) → List Text
  | [] => []
  | (key, e) :: ps => (key.name.doubleQuoted ++ ':'.toNat :: e.written) :: writtenProperties ps

end

mutual

/-- How many brackets are open at once in what is written for an expression. -/
def nesting : Expr → Nat
  | .identifier _ _ | .literal _ _ | .regex _ _ _ => 0
  | .array _ elements => nestingAll elements + 1
  | .object _ properties => nestingProperties properties + 1
  | .member _ target _ => target.nesting + target.isNumber.toNat
  | .call _ callee arguments =>
    max (callee.nesting + callee.isNumber.toNat) (nestingAll arguments + 1)

/-- How many brackets are open at once in one of several expressions. -/
def nestingAll : List Expr → Nat
  | [] => 0
  | e :: es => max e.nesting (nestingAll es)

/-- How many brackets are open at once in one of several properties. -/
def nestingProperties : List (PropertyKey × Expr) → Nat
  | [] => 0
  | (_, e) :: ps => max e.nesting (nestingProperties ps)

end

/-- The expressions that are written as sources: names are lexically valid, those of identifiers
denote no values and begin no statements, and regular expressions are such as are found in
sources. -/
inductive Writable : Expr → Prop
  | identifier {span : Span} {text : Text} (name : text.IsIdentifier)
      (plain : literalWord? text = none) (free : text ∉ statementKeywords) :
      Writable (.identifier span text)
  | literal {span : Span} {value : Scalar} (value_writable : value.Writable) :
      Writable (.literal span value)
  | regex {span : Span} {body flags : Text} (delivered : Regex.Delivered body flags) :
      Writable (.regex span body flags)
  | array {span : Span} {elements : List Expr} (each : ∀ e ∈ elements, Writable e) :
      Writable (.array span elements)
  | object {span : Span} {properties : List (PropertyKey × Expr)}
      (each : ∀ property ∈ properties, Writable property.2) : Writable (.object span properties)
  | member {span : Span} {target : Expr} {name : Text} (target_writable : Writable target)
      (name_valid : name.IsIdentifier) : Writable (.member span target name)
  | call {span : Span} {callee : Expr} {arguments : List Expr} (callee_writable : Writable callee)
      (each : ∀ e ∈ arguments, Writable e) : Writable (.call span callee arguments)

/-- The place that stands for all others. -/
def nowhere : Span := ⟨Position.start, Position.start⟩

mutual

/-- An expression without its places. -/
def unplaced : Expr → Expr
  | .identifier _ text => .identifier nowhere text
  | .literal _ value => .literal nowhere value
  | .regex _ body flags => .regex nowhere body flags
  | .array _ elements => .array nowhere (unplacedAll elements)
  | .object _ properties => .object nowhere (unplacedProperties properties)
  | .member _ target name => .member nowhere target.unplaced name
  | .call _ callee arguments => .call nowhere callee.unplaced (unplacedAll arguments)

/-- Expressions without their places. -/
def unplacedAll : List Expr → List Expr
  | [] => []
  | e :: es => e.unplaced :: unplacedAll es

/-- Properties without their places. -/
def unplacedProperties : List (PropertyKey × Expr) → List (PropertyKey × Expr)
  | [] => []
  | (key, e) :: ps => (⟨nowhere, key.name⟩, e.unplaced) :: unplacedProperties ps

end

end Expr

end Written

section Nesting

/-- Brackets are balanced among some tokens, and at most so many are open at once. -/
def Nests (n : Nat) (tokens : List Token) : Prop :=
  ∀ room rest, n ≤ room → nestsWithin room (tokens ++ rest) = nestsWithin room rest

variable {n m : Nat} {tokens more : List Token} {t u : Token}

theorem nests_nil : Nests 0 [] := fun _ _ _ => rfl

theorem nests_plain (hopens : t.kind.opens = false) (hcloses : t.kind.closes = false) :
    Nests 0 [t] := fun _ _ _ => nestsWithin_plain hopens hcloses

theorem Nests.append (h : Nests n tokens) (h' : Nests m more) :
    Nests (max n m) (tokens ++ more) := by
  intro room rest hroom
  rw [List.append_assoc, h _ _ (Nat.le_trans (Nat.le_max_left n m) hroom),
    h' _ _ (Nat.le_trans (Nat.le_max_right n m) hroom)]

theorem Nests.brackets (h : Nests n tokens) (hopens : t.kind.opens = true)
    (hcloses : u.kind.closes = true) : Nests (n + 1) (t :: (tokens ++ [u])) := by
  intro room rest hroom
  have hpositive : 0 < room := Nat.lt_of_lt_of_le (Nat.succ_pos n) hroom
  rw [List.cons_append, List.append_assoc, Bool.eq_iff_iff, nestsWithin_opening hopens,
    h _ _ (Nat.le_sub_one_of_lt hroom), List.singleton_append, nestsWithin_closing hcloses,
    Nat.sub_add_cancel hpositive]
  exact and_iff_right hpositive

end Nesting

section Spelling

/-- Wherever a text stands in front of a rest of a kind, it is scanned as the tokens of a derivation
whose tree is as described. -/
def Spells (c : Category) (Q : Text → Prop) (n : Nat) (w : Text) (P : c.Tree → Prop) : Prop :=
  ∀ p, ∃ d : Phrase c, Scans Q p w d.tokens ∧ Nests n d.tokens ∧ P d.tree

variable {c : Category} {Q R : Text → Prop} {n m : Nat} {w v : Text} {P : c.Tree → Prop}

theorem Spells.mono (h : Spells c Q n w P) (hR : ∀ rest, R rest → Q rest) : Spells c R n w P := by
  intro p
  obtain ⟨d, hscans, hnests, htree⟩ := h p
  exact ⟨d, hscans.mono hR, hnests, htree⟩

/-- A single token is a terminal of its kind. -/
theorem Scans.terminal {kind : TokenKind} {value : Text} {span : Span} {p : Position}
    (h : Scans Q p w [⟨kind, value, span⟩]) :
    ∃ t : Terminal kind, t.token.value = value ∧ Scans Q p w [t.token] := ⟨⟨_, rfl⟩, rfl, h⟩

theorem exists_terminal {kind : TokenKind} {mark : CodePoint}
    (h : ∀ rest, Piece.scan mark rest = .ok (.token kind [mark] 0)) (p : Position) :
    ∃ t : Terminal kind, Scans (fun _ => True) p [mark] [t.token] := by
  obtain ⟨t, -, ht⟩ := (scans_mark (p := p) h).terminal
  exact ⟨t, ht⟩

theorem Grammar.Terminal.nests {kind : TokenKind} (t : Terminal kind)
    (hopens : kind.opens = false) (hcloses : kind.closes = false) : Nests 0 [t.token] :=
  nests_plain (by rwa [t.kind_eq]) (by rwa [t.kind_eq])

theorem Grammar.Numeral.nests (number : Numeral) : Nests 0 [number.token] :=
  nests_plain (by rw [number.kind_eq]; rfl) (by rw [number.kind_eq]; rfl)

/-- Two marks that are scanned as brackets of some kinds. -/
structure Brackets (left right : TokenKind) (opening closing : CodePoint) : Prop where
  scan_opening : ∀ rest, Piece.scan opening rest = .ok (.token left [opening] 0)
  scan_closing : ∀ rest, Piece.scan closing rest = .ok (.token right [closing] 0)
  opens : left.opens = true
  closes : right.closes = true
  closer : closing ∈ closers

theorem parentheses : Brackets .leftParen .rightParen '('.toNat ')'.toNat :=
  ⟨fun _ => rfl, fun _ => rfl, rfl, rfl, by decide⟩

theorem squareBrackets : Brackets .leftBracket .rightBracket '['.toNat ']'.toNat :=
  ⟨fun _ => rfl, fun _ => rfl, rfl, rfl, by decide⟩

theorem braces : Brackets .leftBrace .rightBrace 0x7B 0x7D :=
  ⟨fun _ => rfl, fun _ => rfl, rfl, rfl, by decide⟩

/-- A text between brackets. -/
theorem Spells.between {left right : TokenKind} {opening closing : CodePoint}
    (h : Spells c (Behind closers) n w P) (hb : Brackets left right opening closing)
    (p : Position) :
    ∃ (o : Terminal left) (d : Phrase c) (cl : Terminal right),
      Scans (fun _ => True) p (Text.between opening closing w)
        (o.token :: (d.tokens ++ [cl.token])) ∧
      Nests (n + 1) (o.token :: (d.tokens ++ [cl.token])) ∧ P d.tree := by
  obtain ⟨d, hscans, hnests, htree⟩ := h (p.after [opening])
  obtain ⟨o, ho⟩ := exists_terminal hb.scan_opening p
  obtain ⟨cl, hcl⟩ := exists_terminal hb.scan_closing ((p.after [opening]).after w)
  refine ⟨o, d, cl, ho.append ?_ fun _ _ => trivial, hnests.brackets ?_ ?_, htree⟩
  · exact hscans.append hcl fun rest _ => behind_cons hb.closer rest
  · rw [o.kind_eq, hb.opens]
  · rw [cl.kind_eq, hb.closes]

/-- A text behind another and a comma. -/
theorem Spells.behindComma {p : Position} {tokens : List Token} {n' : Nat} {w' : Text}
    (h : Spells c (Behind closers) n w P) (hscans : Scans (Behind closers) p w' tokens)
    (hnests : Nests n' tokens) :
    ∃ (comma : Terminal .comma) (d : Phrase c),
      Scans (Behind closers) p (w' ++ [','.toNat] ++ w) (tokens ++ comma.token :: d.tokens) ∧
      Nests (max n' n) (tokens ++ comma.token :: d.tokens) ∧ P d.tree := by
  obtain ⟨d, hscans', hnests', htree⟩ := h ((p.after w').after [','.toNat])
  obtain ⟨comma, hcomma⟩ : ∃ t : Terminal .comma, Scans _ _ [','.toNat] [t.token] :=
    exists_terminal (fun _ => rfl) (p.after w')
  have hcloser : ','.toNat ∈ closers := by decide
  refine ⟨comma, d, ?_, hnests.append ?_, htree⟩
  · rw [List.append_assoc]
    exact hscans.append (hcomma.append hscans' fun _ _ => trivial)
      fun rest _ => behind_cons hcloser (w ++ rest)
  · rw [← Nat.zero_max n]
    exact (comma.nests rfl rfl).append hnests'

/-- A text is an expression up to places, in front of a rest of a kind. -/
def Expr.Spelled (Q : Text → Prop) (n : Nat) (w : Text) (e : Expr) : Prop :=
  Spells .expression Q n w fun t : Expr => t.unplaced = e.unplaced

/-- A primary expression is an expression. -/
theorem Spells.bare {e : Expr} (h : Spells .primary Q n w fun t : Expr => t.unplaced = e.unplaced) :
    e.Spelled Q n w := by
  intro p
  obtain ⟨d, hscans, hnests, htree⟩ := h p
  have htokens : (Phrase.expression d .bare).tokens = d.tokens := List.append_nil d.tokens
  exact ⟨.expression d .bare, htokens ▸ hscans, htokens ▸ hnests, htree⟩

/-- An expression in parentheses is the same expression. -/
theorem Expr.Spelled.parenthesized {e : Expr} (h : e.Spelled (Behind closers) n w) :
    e.Spelled (fun _ => True) (n + 1) (Text.between '('.toNat ')'.toNat w) := by
  refine Spells.bare fun p => ?_
  obtain ⟨opening, d, closing, hscans, hnests, htree⟩ :=
    Spells.between h parentheses p
  exact ⟨.parenthesized opening d closing, hscans, hnests, htree⟩

end Spelling

namespace Grammar.Phrase

/-- Postfixes behind postfixes. -/
def append : Phrase .postfixes → Phrase .postfixes → Phrase .postfixes
  | .bare, others => others
  | .member dot target tail, others => .member dot target (tail.append others)
  | .call opening arguments closing tail, others =>
    .call opening arguments closing (tail.append others)

theorem tokens_append : ∀ tail others : Phrase .postfixes,
    (tail.append others).tokens = tail.tokens ++ others.tokens
  | .bare, others => by
    rw [append, tokens, List.nil_append]
  | .member dot target tail, others => by
    rw [append, tokens, tokens, tokens_append tail, List.cons_append, List.cons_append]
  | .call opening arguments closing tail, others => by
    rw [append, tokens, tokens, tokens_append tail, List.cons_append, List.append_assoc,
      List.cons_append]

theorem tree_append (start : Position) : ∀ (tail others : Phrase .postfixes) (e : Expr),
    (tail.append others).tree start e = others.tree start (tail.tree start e)
  | .bare, others, e => by
    rw [append, tree]
  | .member dot target tail, others, e => by
    rw [append, tree, tree]
    exact tree_append start tail others _
  | .call opening arguments closing tail, others, e => by
    rw [append, tree, tree]
    exact tree_append start tail others _

end Grammar.Phrase

section Spelled

variable {Q R : Text → Prop} {n m : Nat} {w v : Text} {e e' : Expr}

/-- An expression with postfixes behind it. -/
theorem Expr.Spelled.append (h : e.Spelled Q n w)
    (h' : Spells .postfixes R m v fun f : Position → Expr → Expr =>
      ∀ start t, t.unplaced = e.unplaced → (f start t).unplaced = e'.unplaced)
    (hQ : ∀ rest, R rest → Q (v ++ rest)) : e'.Spelled R (max n m) (w ++ v) := by
  intro p
  obtain ⟨d, hscans, hnests, htree⟩ := h p
  obtain ⟨others, hscans', hnests', htree'⟩ := h' (p.after w)
  cases d with
  | expression head tail =>
    have htokens : (Phrase.expression head (tail.append others)).tokens =
        (Phrase.expression head tail).tokens ++ others.tokens := by
      rw [Phrase.tokens, Phrase.tokens, Phrase.tokens_append, List.append_assoc]
    refine ⟨.expression head (tail.append others), ?_, ?_, ?_⟩
    · rw [htokens]
      exact hscans.append hscans' hQ
    · rw [htokens]
      exact hnests.append hnests'
    · rw [Phrase.tree]
      exact (congrArg Expr.unplaced (tail.tree_append _ others _)).trans (htree' _ _ htree)

theorem Expr.Spelled.member {span : Span} {name : Text} (h : e.Spelled (Behind followers) n w)
    (hname : name.IsIdentifier) :
    (Expr.member span e name).Spelled (Behind followers) n (w ++ '.'.toNat :: name) := by
  have hfollower : '.'.toNat ∈ followers := by decide
  rw [← Nat.max_zero n]
  refine h.append (v := '.'.toNat :: name) (fun p => ?_) fun rest _ =>
    behind_cons hfollower (name ++ rest)
  obtain ⟨dot, -, hdot⟩ := (scans_dot (p := p)).terminal
  obtain ⟨target, rfl, htarget⟩ := (scans_name (p := p.after ['.'.toNat]) hname).terminal
  refine ⟨.member dot target .bare, hdot.append htarget fun rest _ => ?_, ?_, ?_⟩
  · obtain ⟨c, cs, hcons⟩ : ∃ c cs, target.token.value = c :: cs :=
      List.exists_cons_of_ne_nil fun hnil => by simp [hnil, Text.IsIdentifier] at hname
    rw [hcons] at hname ⊢
    exact ⟨c, rfl, hname.1⟩
  · exact (dot.nests rfl rfl).append (target.nests rfl rfl)
  · exact fun start t ht => congrArg (Expr.member Expr.nowhere · target.token.value) ht

/-- A row of expressions. -/
theorem spells_listed {es : List Expr}
    (h : ∀ e ∈ es, e.Spelled (Behind closers) e.nesting e.written) :
    Spells .sequence (Behind closers) (Expr.nestingAll es) (Text.listed (Expr.writtenAll es))
      fun ts : List Expr => Expr.unplacedAll ts = Expr.unplacedAll es := by
  induction es with
  | nil => exact fun p => ⟨.empty, scans_nil _ p, nests_nil, rfl⟩
  | cons e es ih =>
    have hfirst := h e List.mem_cons_self
    have hothers := ih fun e he => h e (List.mem_cons_of_mem _ he)
    intro p
    obtain ⟨d, hscans, hnests, htree⟩ := hfirst p
    cases es with
    | nil =>
      rw [Expr.nestingAll, Expr.nestingAll, Nat.max_zero]
      exact ⟨.last d, hscans, hnests, congrArg (fun t : Expr => [t]) htree⟩
    | cons f fs =>
      obtain ⟨comma, others, hscans, hnests, htree'⟩ := hothers.behindComma hscans hnests
      exact ⟨.more d comma others, hscans, hnests, congrArg₂ List.cons htree htree'⟩

theorem Expr.Spelled.call {span : Span} {es : List Expr} (h : e.Spelled (Behind followers) n w)
    (hes : Spells .sequence (Behind closers) m v
      fun ts : List Expr => Expr.unplacedAll ts = Expr.unplacedAll es) :
    (Expr.call span e es).Spelled (Behind followers) (max n (m + 1))
      (w ++ Text.between '('.toNat ')'.toNat v) := by
  have hopening : '('.toNat ∈ followers := by decide
  refine h.append (fun p => ?_) fun rest _ => behind_cons hopening _
  obtain ⟨opening, d, closing, hscans, hnests, htree⟩ := hes.between parentheses p
  refine ⟨.call opening d closing .bare, hscans.mono fun _ _ => trivial, hnests, ?_⟩
  intro start t ht
  exact congrArg₂ (Expr.call Expr.nowhere) ht htree

theorem spelled_array {span : Span} {es : List Expr}
    (hes : Spells .sequence (Behind closers) n w
      fun ts : List Expr => Expr.unplacedAll ts = Expr.unplacedAll es) :
    (Expr.array span es).Spelled (fun _ => True) (n + 1)
      (Text.between '['.toNat ']'.toNat w) := by
  refine Spells.bare fun p => ?_
  obtain ⟨opening, d, closing, hscans, hnests, htree⟩ := hes.between squareBrackets p
  exact ⟨.array opening d closing, hscans, hnests, congrArg (Expr.array Expr.nowhere) htree⟩

/-- A key with its expression. -/
theorem scans_property {p : Position} {tokens : List Token} (key : Text)
    (h : Scans (Behind closers) (p.after (key.doubleQuoted ++ [':'.toNat])) w tokens) :
    ∃ (k : KeyToken) (colon : Terminal .colon), k.key = key ∧
      Scans (Behind closers) p (key.doubleQuoted ++ ':'.toNat :: w)
        (k.token :: colon.token :: tokens) := by
  rw [Position.after_append] at h
  obtain ⟨k, rfl, hkey⟩ := (scans_doubleQuoted (p := p) key).terminal
  obtain ⟨colon, hcolon⟩ : ∃ t : Terminal .colon, Scans _ _ [':'.toNat] [t.token] :=
    exists_terminal (fun _ => rfl) (p.after k.token.value.doubleQuoted)
  exact ⟨.text k, colon, rfl, hkey.append (hcolon.append h fun _ _ => trivial) fun _ _ => trivial⟩

/-- A row of properties. -/
theorem spells_properties {ps : List (PropertyKey × Expr)}
    (h : ∀ property ∈ ps, property.2.Spelled (Behind closers) property.2.nesting
      property.2.written) :
    Spells .properties (Behind closers) (Expr.nestingProperties ps)
      (Text.listed (Expr.writtenProperties ps)) fun ts : List (PropertyKey × Expr) =>
        Expr.unplacedProperties ts = Expr.unplacedProperties ps := by
  induction ps with
  | nil => exact fun p => ⟨.noProperty, scans_nil _ p, nests_nil, rfl⟩
  | cons property ps ih =>
    obtain ⟨key, e⟩ := property
    have hfirst := h _ List.mem_cons_self
    have hothers := ih fun property hp => h property (List.mem_cons_of_mem _ hp)
    intro p
    obtain ⟨d, hscans, hnests, htree⟩ := hfirst (p.after (key.name.doubleQuoted ++ [':'.toNat]))
    obtain ⟨k, colon, hkey, hscans⟩ := scans_property key.name hscans
    have hnests : Nests e.nesting (k.token :: colon.token :: d.tokens) := by
      intro room rest hroom
      rw [List.cons_append, List.cons_append, k.nestsWithin_cons,
        colon.nestsWithin_cons rfl rfl]
      exact hnests room rest hroom
    have hproperty (t : PropertyKey × Expr) (ht : t = Phrase.property k colon d d.tree) :
        ((⟨Expr.nowhere, t.1.name⟩, t.2.unplaced) : PropertyKey × Expr) =
          (⟨Expr.nowhere, key.name⟩, e.unplaced) := by
      subst ht
      exact congrArg₂ (fun name t => ((⟨Expr.nowhere, name⟩, t) : PropertyKey × Expr)) hkey htree
    cases ps with
    | nil =>
      rw [Expr.nestingProperties, Expr.nestingProperties, Nat.max_zero]
      exact ⟨.lastProperty k colon d, hscans, hnests, congrArg (fun t => [t]) (hproperty _ rfl)⟩
    | cons q qs =>
      obtain ⟨comma, others, hscans, hnests, htree'⟩ := hothers.behindComma hscans hnests
      exact ⟨.moreProperties k colon d comma others, hscans, hnests,
        congrArg₂ List.cons (hproperty _ rfl) htree'⟩

theorem spelled_object {span : Span} {ps : List (PropertyKey × Expr)}
    (hps : Spells .properties (Behind closers) n w fun ts : List (PropertyKey × Expr) =>
      Expr.unplacedProperties ts = Expr.unplacedProperties ps) :
    (Expr.object span ps).Spelled (fun _ => True) (n + 1) (Text.between 0x7B 0x7D w) := by
  refine Spells.bare fun p => ?_
  obtain ⟨opening, d, closing, hscans, hnests, htree⟩ := hps.between braces p
  exact ⟨.object opening d closing, hscans, hnests, congrArg (Expr.object Expr.nowhere) htree⟩

/-- A name, which denotes a value or is an identifier. -/
theorem spelled_name (hname : w.IsIdentifier) (hfree : w ∉ statementKeywords)
    (htree : ∀ (t : Terminal .identifier) (free : t.token.value ∉ statementKeywords),
      t.token.value = w → Expr.unplaced (Phrase.name t free).tree = e.unplaced) :
    e.Spelled (Behind followers) 0 w := by
  refine Spells.bare fun p => ?_
  obtain ⟨t, rfl, ht⟩ := (scans_name (p := p) hname).terminal
  exact ⟨.name t hfree, ht, t.nests rfl rfl, htree t hfree rfl⟩

theorem spelled_identifier {span : Span} (hname : w.IsIdentifier)
    (hplain : literalWord? w = none) (hfree : w ∉ statementKeywords) :
    (Expr.identifier span w).Spelled (Behind followers) 0 w := by
  refine spelled_name hname hfree fun t _ ht => ?_
  rw [Phrase.tree, ht, hplain]
  rfl

theorem spelled_word {span : Span} {value : Scalar} (hname : w.IsIdentifier)
    (hvalue : literalWord? w = some value) (hfree : w ∉ statementKeywords) :
    (Expr.literal span value).Spelled (Behind followers) 0 w := by
  refine spelled_name hname hfree fun t _ ht => ?_
  rw [Phrase.tree, ht, hvalue]
  rfl

theorem spelled_text {span : Span} (text : Text) :
    (Expr.literal span (.text text)).Spelled (fun _ => True) 0 text.doubleQuoted := by
  refine Spells.bare fun p => ?_
  obtain ⟨t, rfl, ht⟩ := (scans_doubleQuoted (p := p) text).terminal
  exact ⟨.string t, ht, t.nests rfl rfl, rfl⟩

theorem spelled_regex {span : Span} {body flags : Text} (h : Regex.Delivered body flags) :
    (Expr.regex span body flags).Spelled (Behind followers) 0 (Regex.written body flags) := by
  refine Spells.bare fun p => ?_
  obtain ⟨t, hvalue, ht⟩ := (scans_regex (p := p) h).terminal
  refine ⟨.regex t, ht, t.nests rfl rfl, ?_⟩
  rw [Phrase.tree, hvalue, h.regexParts]
  rfl

theorem exists_numeral {k : Nat} (h : (Number.int k).isTooLong = false) (p : Position) :
    ∃ number : Numeral, number.value = .int k ∧
      Scans (Behind closers) p (Text.ofNat k) [number.token] :=
  ⟨⟨_, rfl, .int k, numberValue?_ofNat h⟩, rfl, scans_ofNat k⟩

/-- An integer, with a minus sign if it is negative. -/
theorem spelled_integer {span : Span} {k : Int} (h : (Number.int k).isTooLong = false) :
    (Expr.literal span (.number (.int k))).Spelled (Behind closers) 0 (Text.ofInt k) := by
  refine Spells.bare fun p => ?_
  cases k with
  | ofNat k =>
    obtain ⟨number, hvalue, hscans⟩ := exists_numeral h p
    refine ⟨.number number, hscans, number.nests, ?_⟩
    rw [Phrase.tree, hvalue]
    rfl
  | negSucc k =>
    obtain ⟨minus, hminus⟩ : ∃ t : Terminal .minus, Scans _ _ ['-'.toNat] [t.token] :=
      exists_terminal (fun _ => rfl) p
    obtain ⟨number, hvalue, hscans⟩ := exists_numeral h (p.after ['-'.toNat])
    refine ⟨.signed ⟨minus.token, .inl minus.kind_eq⟩ number,
      hminus.append hscans fun _ _ => trivial, (minus.nests rfl rfl).append number.nests, ?_⟩
    rw [Phrase.tree, if_pos minus.kind_eq, hvalue]
    rfl

/-- What is written is the expression: alone, and as the target of a member access or a call. -/
structure Expr.Reads (e : Expr) : Prop where
  alone : e.Spelled (Behind closers) e.nesting e.written
  target : e.Spelled (Behind followers) (e.nesting + e.isNumber.toNat)
    (Expr.enclosed e.isNumber e.written)

theorem Expr.reads_of_followers (hnumber : e.isNumber = false)
    (h : e.Spelled (Behind followers) e.nesting e.written) : e.Reads := by
  refine ⟨h.mono fun _ hrest => hrest.of_closers, ?_⟩
  rw [hnumber]
  exact h

theorem Expr.reads_of_number (hnumber : e.isNumber = true)
    (h : e.Spelled (Behind closers) e.nesting e.written) : e.Reads := by
  refine ⟨h, ?_⟩
  rw [hnumber]
  exact h.parenthesized.mono fun _ _ => trivial

theorem Expr.reads_literal {span : Span} {value : Scalar} (h : value.Writable) :
    (Expr.literal span value).Reads := by
  have hword (value : Scalar) (hname : value.written.IsIdentifier)
      (hvalue : literalWord? value.written = some value) (hfree : value.written ∉ statementKeywords)
      (hnumber : (Expr.literal span value).isNumber = false) : (Expr.literal span value).Reads :=
    reads_of_followers hnumber (spelled_word hname hvalue hfree)
  match value with
  | .undefined => exact hword .undefined (by decide) rfl (by decide) rfl
  | .null => exact hword .null (by decide) rfl (by decide) rfl
  | .bool true => exact hword (.bool true) (by decide) rfl (by decide) rfl
  | .bool false => exact hword (.bool false) (by decide) rfl (by decide) rfl
  | .text t => exact reads_of_followers rfl ((spelled_text t).mono fun _ _ => trivial)
  | .number (.int n) => exact reads_of_number rfl (spelled_integer h)
  | .number (.float d) => exact h.elim

/-- What is written for an expression is read as the expression. The induction is on the ways in
which expressions can be written. -/
theorem Expr.Writable.reads (h : e.Writable) : e.Reads := by
  induction h with
  | identifier name plain free => exact reads_of_followers rfl (spelled_identifier name plain free)
  | literal value_writable => exact reads_literal value_writable
  | regex delivered => exact reads_of_followers rfl (spelled_regex delivered)
  | array each ih =>
    have hrow := spells_listed fun e he => (ih e he).alone
    exact reads_of_followers rfl ((spelled_array hrow).mono fun _ _ => trivial)
  | object each ih =>
    have hrow := spells_properties fun property hp => (ih property hp).alone
    exact reads_of_followers rfl ((spelled_object hrow).mono fun _ _ => trivial)
  | member target_writable name_valid ih =>
    exact reads_of_followers rfl (ih.target.member name_valid)
  | call callee_writable each ihcallee ih =>
    have hrow := spells_listed fun e he => (ih e he).alone
    exact reads_of_followers rfl (ihcallee.target.call hrow)

end Spelled

/-- The tokens of a derivation are read as its tree unless it is nested too deeply. -/
theorem ofTokens_tokens_or (d : Grammar.Derivation) {last : Token}
    (hlast : last.kind = .endOfSource) :
    Expr.ofTokens (d.tokens ++ [last]) = .ok d.tree ∨
      Expr.ofTokens (d.tokens ++ [last]) = .error .tooDeep := by
  rw [Expr.ofTokens_derivation d hlast]
  split
  · exact .inl rfl
  · exact .inr rfl

/-- The tokens of a derivation whose brackets are nested within the limit are read as its tree. -/
theorem ofTokens_tokens (d : Grammar.Derivation) {last : Token} (hlast : last.kind = .endOfSource)
    (hnest : nestsWithin (Parsing.nestingLimit - 1) (d.tokens ++ [last]) = true) :
    Expr.ofTokens (d.tokens ++ [last]) = .ok d.tree := by
  refine (ofTokens_tokens_or d hlast).resolve_right fun hdeep => ?_
  have hgives := Parsing.gives_source hlast d.kind_ne_endOfSource (p := Position.start)
    (Nat.le_add_right _ 2) (by decide) hnest
  rw [ofTokens_eq] at hdeep
  rw [Parsing.Gives] at hgives
  cases hrun : (Parsing.source (4 * (d.tokens ++ [last]).length + 4) Parsing.nestingLimit).run
      ⟨Position.start, d.tokens ++ [last]⟩ with
  | ok found =>
    rw [hrun] at hdeep
    cases hdeep
  | error e =>
    rw [hrun] at hdeep hgives
    cases hdeep
    exact hgives

/-- Reading what is written gives the expression back, up to places, if brackets are nested within
the limit. Beyond the limit the source may be refused as nested too deeply, but for no other
reason, and it is read as nothing else. -/
theorem Expr.ofSource_written {e : Expr} (h : e.Writable) :
    (e.nesting < Parsing.nestingLimit →
      ∃ e', Expr.ofSource e.written = .ok e' ∧ e'.unplaced = e.unplaced) ∧
    ((∃ e', Expr.ofSource e.written = .ok e' ∧ e'.unplaced = e.unplaced) ∨
      Expr.ofSource e.written = .error .tooDeep) := by
  obtain ⟨d, hscans, hnests, htree⟩ := h.reads.alone Position.start
  obtain ⟨last, hlast, htokens⟩ := hscans.ofSource (by simp [Behind])
  let derivation : Grammar.Derivation := ⟨d, none⟩
  have hderivation : derivation.tokens = d.tokens := List.append_nil d.tokens
  have hsource : Expr.ofSource e.written = Expr.ofTokens (derivation.tokens ++ [last]) := by
    rw [Expr.ofSource, htokens, hderivation]
  rw [hsource]
  constructor
  · intro hnesting
    refine ⟨d.tree, ofTokens_tokens derivation hlast ?_, htree⟩
    rw [hderivation, hnests _ _ (Nat.le_sub_one_of_lt hnesting)]
    exact nestsWithin_plain (by rw [hlast]; rfl) (by rw [hlast]; rfl)
  · exact (ofTokens_tokens_or derivation hlast).imp_left fun hok => ⟨d.tree, hok, htree⟩

/-- A call whose arguments are a regular expression, an array, a member of a number and an
object. -/
theorem Expr.ofSource_written_call :
    let e : Expr := .call nowhere (.member nowhere (.identifier nowhere "z") "m")
      [.regex nowhere "a[/]b" "gi", .array nowhere [.literal nowhere (.text "\"\n")],
        .member nowhere (.literal nowhere (.number (.int (-5)))) "if",
        .object nowhere [(⟨nowhere, "k\\"⟩, .literal nowhere (.bool true))]]
    e.Writable ∧ e.nesting < Parsing.nestingLimit ∧
      e.written = Text.ofString
        "z.m(/a[/]b/gi,[\"\\\"\\n\"],(-5).if,\x7b\"k\\\\\":true\x7d)" ∧
      ∃ e', Expr.ofSource e.written = .ok e' ∧ e'.unplaced = e.unplaced := by
  intro e
  have hregex : Regex.Delivered "a[/]b" "gi" := by
    have htokens : Token.ofSource (Text.ofString "/a[/]b/gi") = .ok
        [⟨.regex, "a[/]b/gi", ⟨⟨1, 1⟩, ⟨1, 10⟩⟩⟩, ⟨.endOfSource, [], ⟨⟨1, 10⟩, ⟨1, 10⟩⟩⟩] := by
      decide +kernel
    exact ⟨_, _, _, htokens, List.mem_cons_self, rfl, by decide +kernel⟩
  have htarget : Writable (.member nowhere (.identifier nowhere "z") "m") :=
    .member (.identifier (by decide) rfl (by decide)) (by decide)
  have htext : Writable (.array nowhere [.literal nowhere (.text "\"\n")]) :=
    .array (List.forall_mem_singleton.mpr (.literal trivial))
  have hshort : (Number.int (-5)).isTooLong = false := by decide +kernel
  have hnumber : Writable (.member nowhere (.literal nowhere (.number (.int (-5)))) "if") :=
    .member (.literal hshort) (by decide)
  have hobject : Writable
      (.object nowhere [(⟨nowhere, "k\\"⟩, .literal nowhere (.bool true))]) :=
    .object (List.forall_mem_singleton.mpr (.literal trivial))
  have hwritable : e.Writable := .call htarget
    (List.forall_mem_cons.mpr ⟨.regex hregex, List.forall_mem_cons.mpr ⟨htext,
      List.forall_mem_cons.mpr ⟨hnumber, List.forall_mem_singleton.mpr hobject⟩⟩⟩)
  exact ⟨hwritable, by decide, by decide, (ofSource_written hwritable).1 (by decide)⟩

end Conform
