import Conform.Proofs.Source.Writing

/-!
# The nodes of a tree and the tokens they are read from

Each node of the tree of a derivation is read from a row of its tokens: an expression from the row
of a derivation without the parentheses around it, a property from its key on. The children of a
node are read from disjoint parts of its row, one after the other.

## Main definitions

- `Expr.Node`, `Expr.Node.children`, `Expr.Node.Below` — the nodes of an expression
- `Span.Delimits` — a stretch goes from the first to the last token of a row
- `Expr.Node.ReadFrom` — a node is read from a row of tokens
- `Expr.Node.Parts` — nodes are read from parts of a row
- `Expr.Node.ReadFrom.parts` — so are the children of a node
- `Expr.Node.ReadFrom.below` — so are all nodes below it
-/

namespace Conform

open Grammar

namespace Expr

/-- The nodes of trees: expressions, and the properties of object expressions. -/
inductive Node
  | expression (e : Expr)
  | property (key : PropertyKey) (value : Expr)

namespace Node

/-- The stretch of source of a node. -/
def span : Node → Span
  | .expression e => e.span
  | .property key _ => key.span

/-- The nodes right below a node, in source order. -/
def children : Node → List Node
  | .expression (.identifier _ _) | .expression (.literal _ _) | .expression (.regex _ _ _) => []
  | .expression (.array _ elements) => elements.map .expression
  | .expression (.object _ properties) => properties.map fun p => .property p.1 p.2
  | .expression (.member _ target _) => [.expression target]
  | .expression (.call _ callee arguments) => .expression callee :: arguments.map .expression
  | .property _ value => [.expression value]

/-- The nodes of a tree: the whole one, and the children of its nodes. -/
def Below (tree : Node) : Node → Prop :=
  Relation.ReflTransGen (fun parent child => child ∈ parent.children) tree

/-- The sort of a node. -/
def sort : Node → NodeSort
  | .expression (.identifier _ _) => .identifier
  | .expression (.literal _ _) => .literal
  | .expression (.regex _ _ _) => .regex
  | .expression (.array _ _) => .array
  | .expression (.object _ _) => .object
  | .expression (.member _ _ _) => .member
  | .expression (.call _ _ _) => .call
  | .property _ _ => .property

/-- The walk from a node. -/
def walk : Node → List NodeSort
  | .expression e => e.walk
  | .property _ value => .property :: value.walk

theorem flatMap_walk_expression (es : List Expr) :
    (es.map .expression).flatMap walk = walkAll es := by
  induction es with
  | nil => rfl
  | cons e es ih => rw [List.map_cons, List.flatMap_cons, ih, walkAll, walk]

theorem flatMap_walk_property (ps : List (PropertyKey × Expr)) :
    (ps.map fun p => property p.1 p.2).flatMap walk = walkProperties ps := by
  induction ps with
  | nil => rfl
  | cons p ps ih =>
    rw [List.map_cons, List.flatMap_cons, ih, walkProperties, walk, List.cons_append]

/-- A walk passes a node and goes on with its children. -/
theorem walk_eq (node : Node) : node.walk = node.sort :: node.children.flatMap walk := by
  cases node with
  | property key value => simp [walk, sort, children]
  | expression e =>
    cases e with
    | array _ elements => simp [walk, Expr.walk, sort, children, flatMap_walk_expression]
    | object _ properties => simp [walk, Expr.walk, sort, children, flatMap_walk_property]
    | call _ callee arguments => simp [walk, Expr.walk, sort, children, flatMap_walk_expression]
    | _ => simp [walk, Expr.walk, sort, children]

end Node

end Expr

/-- A stretch goes from the beginning of the first token of a row to the end of the last one. -/
structure Span.Delimits (s : Span) (row : List Token) : Prop where
  first : row.head?.map (·.span.first) = some s.first
  stop : row.getLast?.map (·.span.stop) = some s.stop

theorem getLast?_stop (t : Token) (row : List Token) :
    (t :: row).getLast?.map (·.span.stop) = some (stopAfter t.span.stop row) := by
  rcases List.eq_nil_or_concat row with rfl | ⟨front, u, rfl⟩
  · rfl
  · rw [List.concat_eq_append, TokenStream.stopAfter_concat, ← List.cons_append,
      List.getLast?_concat]
    rfl

namespace Expr.Node

/-- A node is read from a row of tokens that its stretch delimits. Expressions are nested in it up
to a limit. -/
inductive ReadFrom (limit : Nat) : List Token → Node → Prop
  | expression {d : Phrase .expression} (levels : d.levels ≤ limit)
      (delimits : (show Expr from d.tree).span.Delimits d.tokens) :
      ReadFrom limit d.tokens (.expression d.tree)
  | property (key : KeyToken) (colon : Terminal .colon) {d : Phrase .expression}
      (levels : d.levels ≤ limit) :
      ReadFrom limit (key.token :: colon.token :: d.tokens)
        (.property (Phrase.property key colon d d.tree).1 d.tree)

/-- Nodes are read from disjoint parts of a row of tokens, from left to right. -/
inductive Parts (limit : Nat) : List Token → List Node → Prop
  | nil (row : List Token) : Parts limit row []
  | cons (gap : List Token) {row rest : List Token} {node : Node} {nodes : List Node}
      (first : ReadFrom limit row node) (more : Parts limit rest nodes) :
      Parts limit (gap ++ (row ++ rest)) (node :: nodes)

variable {limit : Nat} {row rest : List Token} {node : Node} {nodes more : List Node}

theorem ReadFrom.delimits (h : ReadFrom limit row node) : node.span.Delimits row := by
  cases h with
  | expression levels delimits => exact delimits
  | @property key colon d levels =>
    refine ⟨rfl, ?_⟩
    rw [List.getLast?_cons_cons, getLast?_stop]
    rfl

theorem Parts.behind (h : Parts limit row nodes) (gap : List Token) :
    Parts limit (gap ++ row) nodes := by
  cases h with
  | nil => exact .nil _
  | cons gap' first more =>
    rw [← List.append_assoc]
    exact .cons _ first more

theorem Parts.append (h : Parts limit row nodes) (h' : Parts limit rest more) :
    Parts limit (row ++ rest) (nodes ++ more) := by
  induction h with
  | nil row => exact h'.behind row
  | cons gap first _ ih =>
    rw [List.append_assoc, List.append_assoc]
    exact .cons gap first ih

theorem Parts.before (h : Parts limit row nodes) (rest : List Token) :
    Parts limit (row ++ rest) nodes := by
  simpa using h.append (.nil rest)

theorem ReadFrom.whole (h : ReadFrom limit row node) : Parts limit row [node] := by
  simpa using Parts.cons [] h (.nil [])

/-- A node is read from its part of the row. -/
theorem Parts.mem (h : Parts limit row nodes) (hnode : node ∈ nodes) :
    ∃ part, part <:+: row ∧ ReadFrom limit part node := by
  induction h with
  | nil => exact absurd hnode List.not_mem_nil
  | @cons gap row rest first nodes hfirst more ih =>
    rcases List.mem_cons.mp hnode with rfl | hnode
    · exact ⟨row, ⟨gap, rest, List.append_assoc gap row rest⟩, hfirst⟩
    · obtain ⟨part, hpart, hread⟩ := ih hnode
      refine ⟨part, hpart.trans (List.IsSuffix.isInfix ⟨gap ++ row, ?_⟩), hread⟩
      rw [List.append_assoc]

end Expr.Node

namespace Grammar.Phrase

theorem append_bare : ∀ tail : Phrase .postfixes, tail.append .bare = tail
  | .bare => by rw [append]
  | .member dot target tail => by rw [append, append_bare tail]
  | .call opening arguments closing tail => by rw [append, append_bare tail]

theorem append_assoc (others more : Phrase .postfixes) : ∀ tail : Phrase .postfixes,
    (tail.append others).append more = tail.append (others.append more)
  | .bare => by rw [append, append]
  | .member dot target tail => by rw [append, append, append, append_assoc others more tail]
  | .call opening arguments closing tail => by
    rw [append, append, append, append_assoc others more tail]

theorem levels_append (others : Phrase .postfixes) : ∀ tail : Phrase .postfixes,
    (tail.append others).levels = max tail.levels others.levels
  | .bare => by rw [append, levels, Nat.zero_max]
  | .member dot target tail => by rw [append, levels, levels, levels_append others tail]
  | .call opening arguments closing tail => by
    rw [append, levels, levels, levels_append others tail, Nat.max_assoc]

/-- An expression with more postfixes behind it. -/
def extend : Phrase .expression → Phrase .postfixes → Phrase .expression
  | .expression head tail, others => .expression head (tail.append others)

/-- Where an expression begins. -/
def start : Phrase .expression → Position
  | .expression head _ => head.first.span.first

variable (e : Phrase .expression) (tail others : Phrase .postfixes)

theorem extend_bare : e.extend .bare = e := by
  cases e with
  | expression head tail => rw [extend, append_bare]

theorem extend_append : e.extend (tail.append others) = (e.extend tail).extend others := by
  cases e with
  | expression head first => rw [extend, extend, extend, append_assoc]

theorem tokens_extend : (e.extend tail).tokens = e.tokens ++ tail.tokens := by
  cases e with
  | expression head first => rw [extend, tokens, tokens, tokens_append, List.append_assoc]

theorem tree_extend : (e.extend tail).tree = tail.tree e.start e.tree := by
  cases e with
  | expression head first => exact tree_append head.first.span.first first tail head.tree

theorem levels_extend : (e.extend tail).levels = max e.levels (tail.levels + 1) := by
  cases e with
  | expression head first =>
    rw [extend, levels, levels, levels_append]
    omega

/-- An expression that ends in a token is delimited by it and by the first one. -/
theorem delimits {front : List Token} {t : Token} (htokens : e.tokens = front ++ [t]) :
    Span.Delimits ⟨e.start, t.span.stop⟩ e.tokens := by
  constructor
  · cases e with
    | expression head tail =>
      obtain ⟨more, hmore⟩ := head.tokens_primary
      rw [tokens, hmore]
      rfl
  · rw [htokens, List.getLast?_concat]
    rfl

theorem start_extend : (e.extend tail).start = e.start := by
  cases e with
  | expression head first => rfl

end Grammar.Phrase

section Rows

open Conform.Expr

variable {limit : Nat} {row : List Token} {e : Expr}

/-- A tree is read from a part of a row, and so are its children. -/
structure Expr.Placed (limit : Nat) (row : List Token) (e : Expr) : Prop where
  self : Node.Parts limit row [.expression e]
  children : Node.Parts limit row (Node.expression e).children

/-- The tree of a derivation is read from a part of its tokens if expressions are nested within the
limit. Postfixes go on with an expression that is. -/
def Grammar.Phrase.Located (limit : Nat) : {c : Category} → Phrase c → Prop
  | .expression, d => d.levels ≤ limit → Placed limit d.tokens d.tree
  | .postfixes, d => ∀ e : Phrase .expression, (e.extend d).levels ≤ limit →
    Placed limit e.tokens e.tree → Placed limit (e.extend d).tokens (e.extend d).tree
  | .sequence, d => d.levels ≤ limit →
    Node.Parts limit d.tokens (List.map Node.expression d.tree)
  | .properties, d => d.levels ≤ limit →
    Node.Parts limit d.tokens
      (List.map (fun p : PropertyKey × Expr => Node.property p.1 p.2) d.tree)
  | .primary, d => (Phrase.expression d .bare).levels ≤ limit → Placed limit d.tokens d.tree

/-- What stands around a row makes no difference. -/
theorem Expr.Placed.around (h : e.Placed limit row) (front back : List Token) :
    e.Placed limit (front ++ (row ++ back)) :=
  ⟨(h.self.before back).behind front, (h.children.before back).behind front⟩

theorem located_expression {head : Phrase .primary} {tail : Phrase .postfixes}
    (ihhead : head.Located limit) (ihtail : tail.Located limit) :
    (Phrase.expression head tail).Located limit := by
  intro h
  have hhead : (Phrase.expression head .bare).levels ≤ limit := by
    simp only [Phrase.levels] at h ⊢
    omega
  have hbare : Placed limit (Phrase.expression head .bare).tokens
      (Phrase.expression head .bare).tree := by
    simpa only [Phrase.tokens, List.append_nil, Phrase.tree] using ihhead hhead
  have hextend : (Phrase.expression head .bare).extend tail = .expression head tail := by
    rw [Phrase.extend, Phrase.append]
  have hplaced := ihtail (.expression head .bare)
  rw [hextend] at hplaced
  exact hplaced h hbare

theorem located_bare : Phrase.bare.Located limit := by
  intro e _ he
  rwa [e.extend_bare]

/-- One more member access. -/
theorem placed_member {e : Phrase .expression} {dot : Terminal .dot}
    {target : Terminal .identifier}
    (hlevels : (e.extend (.member dot target .bare)).levels ≤ limit)
    (h : Placed limit e.tokens e.tree) :
    Placed limit (e.extend (.member dot target .bare)).tokens
      (e.extend (.member dot target .bare)).tree := by
  have htokens : (e.extend (.member dot target .bare)).tokens =
      e.tokens ++ [dot.token] ++ [target.token] := by
    rw [Phrase.tokens_extend, List.append_assoc]
    rfl
  have htree : (e.extend (.member dot target .bare)).tree =
      Expr.member ⟨e.start, target.token.span.stop⟩ e.tree target.token.value :=
    e.tree_extend _
  have hspan := Phrase.delimits _ htokens
  rw [Phrase.start_extend] at hspan
  refine ⟨(Node.ReadFrom.expression hlevels ?_).whole, ?_⟩
  · rw [htree]
    exact hspan
  · rw [htree, htokens, List.append_assoc]
    exact h.self.before _

/-- One more call. -/
theorem placed_call {e : Phrase .expression} {opening : Terminal .leftParen}
    {arguments : Phrase .sequence} {closing : Terminal .rightParen}
    (ih : arguments.Located limit)
    (hlevels : (e.extend (.call opening arguments closing .bare)).levels ≤ limit)
    (h : Placed limit e.tokens e.tree) :
    Placed limit (e.extend (.call opening arguments closing .bare)).tokens
      (e.extend (.call opening arguments closing .bare)).tree := by
  have htokens : (e.extend (.call opening arguments closing .bare)).tokens =
      e.tokens ++ ([opening.token] ++ arguments.tokens) ++ [closing.token] := by
    rw [Phrase.tokens_extend, List.append_assoc]
    rfl
  have htree : (e.extend (.call opening arguments closing .bare)).tree =
      Expr.call ⟨e.start, closing.token.span.stop⟩ e.tree arguments.tree :=
    e.tree_extend _
  have hspan := Phrase.delimits _ htokens
  rw [Phrase.start_extend] at hspan
  refine ⟨(Node.ReadFrom.expression hlevels ?_).whole, ?_⟩
  · rw [htree]
    exact hspan
  · have harguments : arguments.levels ≤ limit := by
      rw [Phrase.levels_extend, Phrase.levels] at hlevels
      omega
    rw [htree, htokens]
    exact (h.self.append ((ih harguments).behind [opening.token])).before [closing.token]

theorem located_member {dot : Terminal .dot} {target : Terminal .identifier}
    {tail : Phrase .postfixes} (ih : tail.Located limit) :
    (Phrase.member dot target tail).Located limit := by
  intro e h he
  have happend : e.extend (.member dot target tail) =
      (e.extend (.member dot target .bare)).extend tail := by
    rw [← Phrase.extend_append, Phrase.append, Phrase.append]
  rw [happend] at h ⊢
  refine ih _ h (placed_member ?_ he)
  rw [Phrase.levels_extend] at h
  omega

theorem located_call {opening : Terminal .leftParen} {arguments : Phrase .sequence}
    {closing : Terminal .rightParen} {tail : Phrase .postfixes}
    (iharguments : arguments.Located limit) (ihtail : tail.Located limit) :
    (Phrase.call opening arguments closing tail).Located limit := by
  intro e h he
  have happend : e.extend (.call opening arguments closing tail) =
      (e.extend (.call opening arguments closing .bare)).extend tail := by
    rw [← Phrase.extend_append, Phrase.append, Phrase.append]
  rw [happend] at h ⊢
  refine ihtail _ h (placed_call iharguments ?_ he)
  rw [Phrase.levels_extend] at h
  omega

theorem located_more {e : Phrase .expression} {comma : Terminal .comma} {others : Phrase .sequence}
    (ihe : e.Located limit) (ihothers : others.Located limit) :
    (Phrase.more e comma others).Located limit := by
  intro h
  rw [Phrase.levels] at h
  have he := ihe (by omega)
  have hothers := ihothers (by omega)
  exact he.self.append (hothers.behind [comma.token])

theorem located_lastProperty {key : KeyToken} {colon : Terminal .colon} {e : Phrase .expression} :
    (Phrase.lastProperty key colon e).Located limit :=
  fun h => (Node.ReadFrom.property key colon h).whole

theorem located_moreProperties {key : KeyToken} {colon : Terminal .colon} {e : Phrase .expression}
    {comma : Terminal .comma} {others : Phrase .properties} (ihothers : others.Located limit) :
    (Phrase.moreProperties key colon e comma others).Located limit := by
  intro h
  rw [Phrase.levels] at h
  have hothers := ihothers (by omega)
  have hlevels : e.levels ≤ limit := by omega
  have hproperty := Node.ReadFrom.property key colon hlevels
  exact hproperty.whole.append (hothers.behind [comma.token])

/-- A primary expression that is no expression in parentheses is delimited by its own tokens. -/
theorem located_primary {d : Phrase .primary}
    (hspan : (show Expr from d.tree).span.Delimits d.tokens)
    (hchildren : (Phrase.expression d .bare).levels ≤ limit →
      Node.Parts limit d.tokens (Node.expression d.tree).children) : d.Located limit := by
  intro h
  refine ⟨?_, hchildren h⟩
  have htokens : (Phrase.expression d .bare).tokens = d.tokens := List.append_nil d.tokens
  have hread : Node.ReadFrom limit (Phrase.expression d .bare).tokens (.expression d.tree) :=
    .expression h (htokens.symm ▸ hspan)
  rw [htokens] at hread
  exact hread.whole

theorem located_name {t : Terminal .identifier} {free : t.token.value ∉ statementKeywords} :
    (Phrase.name t free).Located limit := by
  rw [Phrase.Located, Phrase.tree]
  intro h
  -- A name denotes a value or is an identifier; neither has children.
  have hleaf (e : Expr) (he : (Phrase.name t free).tree = e) (hspan : e.span = t.token.span)
      (hchildren : (Node.expression e).children = []) : Placed limit [t.token] e := by
    subst he
    refine located_primary (d := .name t free) ?_ (fun _ => ?_) h
    · exact hspan ▸ ⟨rfl, rfl⟩
    · exact hchildren ▸ .nil _
  cases hword : literalWord? t.token.value with
  | some value => exact hleaf _ (by rw [Phrase.tree, hword]) rfl rfl
  | none => exact hleaf _ (by rw [Phrase.tree, hword]) rfl rfl

theorem delimits_brackets (opening closing : Token) (inner : List Token) :
    Span.Delimits ⟨opening.span.first, closing.span.stop⟩ (opening :: (inner ++ [closing])) := by
  refine ⟨rfl, ?_⟩
  rw [getLast?_stop, TokenStream.stopAfter_concat]

theorem located_array {opening : Terminal .leftBracket} {elements : Phrase .sequence}
    {closing : Terminal .rightBracket} (ih : elements.Located limit) :
    (Phrase.array opening elements closing).Located limit := by
  refine located_primary (delimits_brackets _ _ _) fun h => ?_
  have helements := ih (by simp only [Phrase.levels] at h; omega)
  exact (helements.before [closing.token]).behind [opening.token]

theorem located_object {opening : Terminal .leftBrace} {fields : Phrase .properties}
    {closing : Terminal .rightBrace} (ih : fields.Located limit) :
    (Phrase.object opening fields closing).Located limit := by
  refine located_primary (delimits_brackets _ _ _) fun h => ?_
  have hfields := ih (by simp only [Phrase.levels] at h; omega)
  exact (hfields.before [closing.token]).behind [opening.token]

/-- Parentheses leave no node. -/
theorem located_parenthesized {opening : Terminal .leftParen} {e : Phrase .expression}
    {closing : Terminal .rightParen} (ih : e.Located limit) :
    (Phrase.parenthesized opening e closing).Located limit := by
  intro h
  have he := ih (by simp only [Phrase.levels] at h; omega)
  exact he.around [opening.token] [closing.token]

/-- The trees of all derivations are located among their tokens. -/
theorem Grammar.Phrase.located {c : Category} (d : Phrase c) : d.Located limit := by
  induction d with
  | expression head tail ihhead ihtail => exact located_expression ihhead ihtail
  | bare => exact located_bare
  | member dot target tail ih => exact located_member ih
  | call opening arguments closing tail iharguments ihtail => exact located_call iharguments ihtail
  | empty => exact fun _ => .nil []
  | last e ih => exact fun h => (ih h).self
  | more e comma others ihe ihothers => exact located_more ihe ihothers
  | noProperty => exact fun _ => .nil []
  | lastProperty key colon e => exact located_lastProperty
  | moreProperties key colon e comma others _ ihothers => exact located_moreProperties ihothers
  | name t free => exact located_name
  | string t => exact located_primary ⟨rfl, rfl⟩ fun _ => .nil _
  | number n => exact located_primary ⟨rfl, rfl⟩ fun _ => .nil _
  | signed sign n => exact located_primary ⟨rfl, rfl⟩ fun _ => .nil _
  | regex t => exact located_primary ⟨rfl, rfl⟩ fun _ => .nil _
  | array opening elements closing ih => exact located_array ih
  | object opening fields closing ih => exact located_object ih
  | parenthesized opening e closing ih => exact located_parenthesized ih

/-- The children of a node are read from parts of its row. -/
theorem Expr.Node.ReadFrom.parts {node : Node} (h : ReadFrom limit row node) :
    Parts limit row node.children := by
  cases h with
  | @expression d levels delimits => exact (d.located levels).children
  | @property key colon d levels =>
    exact (d.located levels).self.behind [key.token, colon.token]

/-- All nodes below a node are read from parts of its row. -/
theorem Expr.Node.ReadFrom.below {tree node : Node} (h : ReadFrom limit row tree)
    (hnode : tree.Below node) : ∃ part, part <:+: row ∧ ReadFrom limit part node := by
  induction hnode with
  | refl => exact ⟨row, List.infix_rfl, h⟩
  | tail _ hchild ih =>
    obtain ⟨part, hpart, hread⟩ := ih
    obtain ⟨part', hpart', hread'⟩ := hread.parts.mem hchild
    exact ⟨part', hpart'.trans hpart, hread'⟩

end Rows

end Conform
