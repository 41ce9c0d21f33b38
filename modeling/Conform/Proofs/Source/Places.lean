import Conform.Proofs.Source.Writing

/-!
# Sources that differ in their places

Two sources can have the same tokens at different places. They are read alike, step by step: where
one of them is refused, so is the other one, at a corresponding place and for the same reason, and
their trees differ in places only. More fuel and more depth make no difference, except to a source
that is nested too deeply.

## Main definitions

- `Places` — a correspondence between the places of two sources
- `Token.AllAlike`, `Expr.Alike` — tokens and trees that differ in their places only
- `Parsing.Answers` — one run gives what another one gives, up to places
- `Parsing.Agrees`, `Parsing.lockstep` — all reading steps agree on streams that are alike
- `Expr.ofTokens_alike` — so does the reading of a whole source
-/

namespace Conform

open TokenStream

/-- Which beginnings and which ends of stretches of two sources belong together. -/
structure Places where
  first : Position → Position → Prop
  stop : Position → Position → Prop

/-- All places belong together. -/
def Places.any : Places := ⟨fun _ _ => True, fun _ _ => True⟩

/-- Each place belongs to itself. -/
def Places.same : Places := ⟨Eq, Eq⟩

section Unplaced

/-- A token without its place. -/
def Token.unplaced (t : Token) : Token := { t with span := Expr.nowhere }

theorem Token.label_unplaced (t : Token) : t.unplaced.label = t.label := rfl

/-- A fault without the places of the tokens that it names. -/
def SyntaxFault.unplaced : SyntaxFault → SyntaxFault
  | .expected what found => .expected what found.unplaced
  | .trailing found => .trailing found.unplaced
  | .unexpected found => .unexpected found.unplaced
  | fault => fault

/-- No fault is worded with a place. -/
theorem SyntaxFault.message_unplaced (fault : SyntaxFault) :
    fault.unplaced.message = fault.message := by
  cases fault with
  | expected what found => rw [unplaced, message, message, found.label_unplaced]
  | trailing found | unexpected found => rw [unplaced, message, message, found.label_unplaced]
  | _ => rfl

end Unplaced

section Alike

variable {R : Places}

/-- Two stretches belong together. -/
structure Span.Alike (R : Places) (s s' : Span) : Prop where
  first : R.first s.first s'.first
  stop : R.stop s.stop s'.stop

theorem Span.alike_any (s s' : Span) : s.Alike .any s' := ⟨trivial, trivial⟩

theorem Span.alike_same {s s' : Span} : s.Alike .same s' ↔ s = s' := by
  constructor
  · rintro ⟨hfirst, hstop⟩
    cases s
    cases s'
    exact congrArg₂ Span.mk hfirst hstop
  · rintro rfl
    exact ⟨rfl, rfl⟩

/-- Two tokens differ in their places only. -/
structure Token.Alike (R : Places) (t t' : Token) : Prop where
  unplaced : t.unplaced = t'.unplaced
  span : t.span.Alike R t'.span

theorem Token.Alike.kind {t t' : Token} (h : t.Alike R t') : t.kind = t'.kind :=
  (Token.mk.inj h.unplaced).1

theorem Token.Alike.value {t t' : Token} (h : t.Alike R t') : t.value = t'.value :=
  (Token.mk.inj h.unplaced).2.1

/-- The tokens of two sources, up to their ends, differ in their places only. -/
inductive Token.AllAlike (R : Places) : List Token → List Token → Prop
  | last {t t' : Token} (alike : t.Alike R t') (ends : t.kind = .endOfSource) :
      AllAlike R [t] [t']
  | cons {t t' : Token} {ts ts' : List Token} (alike : t.Alike R t') (more : AllAlike R ts ts') :
      AllAlike R (t :: ts) (t' :: ts')

theorem Token.AllAlike.length {ts ts' : List Token} (h : AllAlike R ts ts') :
    ts.length = ts'.length := by
  induction h with
  | last => rfl
  | cons alike more ih => exact congrArg (· + 1) ih

theorem Token.AllAlike.prepend {ts ts' : List Token} (h : AllAlike .any ts ts')
    (front : List Token) : AllAlike .any (front ++ ts) (front ++ ts') := by
  induction front with
  | nil => exact h
  | cons t front ih => exact .cons ⟨rfl, Span.alike_any _ _⟩ ih

theorem Token.AllAlike.symm {ts ts' : List Token} (h : AllAlike .any ts ts') :
    AllAlike .any ts' ts := by
  induction h with
  | last alike ends => exact .last ⟨alike.unplaced.symm, Span.alike_any _ _⟩ (alike.kind ▸ ends)
  | cons alike more ih => exact .cons ⟨alike.unplaced.symm, Span.alike_any _ _⟩ ih

theorem Token.AllAlike.unplaced {ts ts' : List Token} (h : AllAlike R ts ts') :
    ts.map Token.unplaced = ts'.map Token.unplaced := by
  induction h with
  | last alike => exact congrArg (fun t => [t]) alike.unplaced
  | cons alike more ih => exact congrArg₂ List.cons alike.unplaced ih

mutual

/-- Two expressions differ in their places only. -/
inductive Expr.Alike (R : Places) : Expr → Expr → Prop
  | identifier {s s' : Span} (span : s.Alike R s') (text : Text) :
      Expr.Alike R (.identifier s text) (.identifier s' text)
  | literal {s s' : Span} (span : s.Alike R s') (value : Scalar) :
      Expr.Alike R (.literal s value) (.literal s' value)
  | regex {s s' : Span} (span : s.Alike R s') (body flags : Text) :
      Expr.Alike R (.regex s body flags) (.regex s' body flags)
  | array {s s' : Span} {es es' : List Expr} (span : s.Alike R s')
      (elements : Expr.AllAlike R es es') : Expr.Alike R (.array s es) (.array s' es')
  | object {s s' : Span} {ps ps' : List (PropertyKey × Expr)} (span : s.Alike R s')
      (properties : Expr.PropertiesAlike R ps ps') : Expr.Alike R (.object s ps) (.object s' ps')
  | member {s s' : Span} {e e' : Expr} (span : s.Alike R s') (target : Expr.Alike R e e')
      (name : Text) : Expr.Alike R (.member s e name) (.member s' e' name)
  | call {s s' : Span} {e e' : Expr} {es es' : List Expr} (span : s.Alike R s')
      (callee : Expr.Alike R e e') (arguments : Expr.AllAlike R es es') :
      Expr.Alike R (.call s e es) (.call s' e' es')

/-- Expressions in two rows differ in their places only. -/
inductive Expr.AllAlike (R : Places) : List Expr → List Expr → Prop
  | nil : Expr.AllAlike R [] []
  | cons {e e' : Expr} {es es' : List Expr} (head : Expr.Alike R e e')
      (more : Expr.AllAlike R es es') : Expr.AllAlike R (e :: es) (e' :: es')

/-- Properties in two rows differ in their places only. -/
inductive Expr.PropertiesAlike (R : Places) :
    List (PropertyKey × Expr) → List (PropertyKey × Expr) → Prop
  | nil : Expr.PropertiesAlike R [] []
  | cons {s s' : Span} {e e' : Expr} {ps ps' : List (PropertyKey × Expr)} (span : s.Alike R s')
      (name : Text) (value : Expr.Alike R e e') (more : Expr.PropertiesAlike R ps ps') :
      Expr.PropertiesAlike R ((⟨s, name⟩, e) :: ps) ((⟨s', name⟩, e') :: ps')

end

theorem Expr.Alike.span {e e' : Expr} (h : e.Alike R e') : e.span.Alike R e'.span := by
  cases h <;> assumption

/-- Messages speak alike of expressions that are alike. -/
theorem Expr.Alike.label {e e' : Expr} : e.Alike R e' → e.label = e'.label
  | .identifier _ _ | .literal _ _ | .regex _ _ _ | .array _ _ | .object _ _ => rfl
  | .member _ target _ => by rw [Expr.label, Expr.label, target.label]
  | .call _ callee _ => by rw [Expr.label, Expr.label, callee.label]

mutual

theorem Expr.Alike.unplaced {e e' : Expr} : e.Alike R e' → e.unplaced = e'.unplaced
  | .identifier _ _ | .literal _ _ | .regex _ _ _ => rfl
  | .array _ elements => congrArg (Expr.array Expr.nowhere) elements.unplacedAll
  | .object _ properties => congrArg (Expr.object Expr.nowhere) properties.unplacedProperties
  | .member _ target name => congrArg (Expr.member Expr.nowhere · name) target.unplaced
  | .call _ callee arguments =>
    congrArg₂ (Expr.call Expr.nowhere) callee.unplaced arguments.unplacedAll

theorem Expr.AllAlike.unplacedAll {es es' : List Expr} :
    Expr.AllAlike R es es' → Expr.unplacedAll es = Expr.unplacedAll es'
  | .nil => rfl
  | .cons head more => congrArg₂ List.cons head.unplaced more.unplacedAll

theorem Expr.PropertiesAlike.unplacedProperties {ps ps' : List (PropertyKey × Expr)} :
    Expr.PropertiesAlike R ps ps' → Expr.unplacedProperties ps = Expr.unplacedProperties ps'
  | .nil => rfl
  | .cons _ name value more =>
    congrArg₂ (fun e rest => ((⟨Expr.nowhere, name⟩, e) : PropertyKey × Expr) :: rest)
      value.unplaced more.unplacedProperties

end

mutual

theorem Expr.Alike.eq {e e' : Expr} : e.Alike .same e' → e = e'
  | .identifier span _ | .literal span _ | .regex span _ _ => by rw [Span.alike_same.mp span]
  | .array span elements => by rw [Span.alike_same.mp span, elements.eq]
  | .object span properties => by rw [Span.alike_same.mp span, properties.eq]
  | .member span target _ => by rw [Span.alike_same.mp span, target.eq]
  | .call span callee arguments => by rw [Span.alike_same.mp span, callee.eq, arguments.eq]

theorem Expr.AllAlike.eq {es es' : List Expr} : Expr.AllAlike .same es es' → es = es'
  | .nil => rfl
  | .cons head more => by rw [head.eq, more.eq]

theorem Expr.PropertiesAlike.eq {ps ps' : List (PropertyKey × Expr)} :
    Expr.PropertiesAlike .same ps ps' → ps = ps'
  | .nil => rfl
  | .cons span _ value more => by rw [Span.alike_same.mp span, value.eq, more.eq]

end

end Alike

/-- Two streams differ in their places only. -/
structure TokenStream.Alike (R : Places) (s s' : TokenStream) : Prop where
  stop : R.stop s.stop s'.stop
  rest : Token.AllAlike R s.rest s'.rest

section Streams

variable {R : Places} {s s' : TokenStream}

theorem TokenStream.Alike.current (h : s.Alike R s') : s.current.Alike R s'.current := by
  obtain ⟨stop, rest⟩ := s
  obtain ⟨stop', rest'⟩ := s'
  cases h.rest with
  | last alike => exact alike
  | cons alike => exact alike

/-- So do the streams behind their current tokens. -/
theorem TokenStream.Alike.next (h : s.Alike R s') (hkind : s.current.kind ≠ .endOfSource) :
    TokenStream.Alike R ⟨s.current.span.stop, s.rest.drop 1⟩
      ⟨s'.current.span.stop, s'.rest.drop 1⟩ := by
  refine ⟨h.current.span.stop, ?_⟩
  obtain ⟨stop, rest⟩ := s
  obtain ⟨stop', rest'⟩ := s'
  cases h.rest with
  | last alike ends => exact absurd ends hkind
  | cons alike more => exact more

end Streams

namespace Parsing

/-- One run answers as another one does, up to places, unless that is nested too deeply for its fuel
or its depth. -/
inductive Answers {α : Type} (R : Places) (Q : α → α → Prop) :
    Except SourceError α → Except SourceError α → Prop
  | tooDeep (other : Except SourceError α) : Answers R Q (.error .tooDeep) other
  | refused {fault fault' : SyntaxFault} {p p' : Position} (same : fault.unplaced = fault'.unplaced)
      (place : R.first p p') : Answers R Q (.error (.fault fault p)) (.error (.fault fault' p'))
  | read {a a' : α} (alike : Q a a') : Answers R Q (.ok a) (.ok a')

/-- Two steps agree: they answer alike, and leave streams that are alike. -/
def Agrees {α : Type} (R : Places) (m : Parsing α) (s : TokenStream) (m' : Parsing α)
    (s' : TokenStream) (Q : α → α → Prop) : Prop :=
  Answers R (fun found found' => Q found.1 found'.1 ∧ found.2.Alike R found'.2) (m.run s)
    (m'.run s')

section Steps

variable {α β : Type} {R : Places} {m m' : Parsing α} {s s' : TokenStream} {Q : α → α → Prop}
  {t t' : Token}

theorem agrees_pure {a a' : α} (h : Q a a') (hs : s.Alike R s') :
    Agrees R (pure a) s (pure a') s' Q := .read ⟨h, hs⟩

theorem agrees_tooDeep : Agrees R (throw .tooDeep) s m' s' Q := .tooDeep _

theorem agrees_refuse {fault fault' : SyntaxFault} (h : fault.unplaced = fault'.unplaced)
    (ht : t.Alike R t') : Agrees R (refuse fault t) s (refuse fault' t') s' Q :=
  .refused h ht.span.first

/-- One step after another. -/
theorem Agrees.bind {f f' : α → Parsing β} {P : β → β → Prop} (h : Agrees R m s m' s' Q)
    (hf : ∀ a a' s₁ s₁', Q a a' → s₁.Alike R s₁' → Agrees R (f a) s₁ (f' a') s₁' P) :
    Agrees R (m >>= f) s (m' >>= f') s' P := by
  unfold Agrees at h ⊢
  rw [StateT.run_bind, StateT.run_bind]
  generalize m.run s = x at h ⊢
  generalize m'.run s' = x' at h ⊢
  cases h with
  | tooDeep => exact .tooDeep _
  | refused same place => exact .refused same place
  | read alike => exact hf _ _ _ _ alike.1 alike.2

/-- Looking at the current token leaves the streams as they are. -/
theorem agrees_peek {f f' : Token → Parsing β} {P : β → β → Prop}
    (h : Agrees R (f s.current) s (f' s'.current) s' P) :
    Agrees R (peek >>= f) s (peek >>= f') s' P := h

theorem agrees_pass (hs : s.Alike R s') (hkind : s.current.kind ≠ .endOfSource) :
    Agrees R (pass s.current) s (pass s'.current) s' fun _ _ => True :=
  .read ⟨trivial, hs.next hkind⟩

theorem agrees_accept {kind : TokenKind} (hs : s.Alike R s') (hkind : kind ≠ .endOfSource) :
    Agrees R (accept kind) s (accept kind) s' Eq := by
  unfold Agrees
  rw [run_accept, run_accept, ← hs.current.kind]
  by_cases h : s.current.kind = kind
  · rw [if_pos h, if_pos h]
    exact .read ⟨rfl, hs.next (h ▸ hkind)⟩
  · rw [if_neg h, if_neg h]
    exact .read ⟨rfl, hs⟩

theorem agrees_expect {kind : TokenKind} (hs : s.Alike R s') (hkind : kind ≠ .endOfSource)
    (what : Text) : Agrees R (expect kind what) s (expect kind what) s' (Token.Alike R) := by
  unfold Agrees
  rw [run_expect, run_expect, ← hs.current.kind]
  by_cases h : s.current.kind = kind
  · rw [if_pos h, if_pos h]
    exact .read ⟨hs.current, hs.next (h ▸ hkind)⟩
  · rw [if_neg h, if_neg h]
    exact .refused (congrArg (SyntaxFault.expected what) hs.current.unplaced) hs.current.span.first

theorem agrees_take (hs : s.Alike R s') : Agrees R take s take s' (Token.Alike R) := by
  unfold Agrees
  rw [run_take, run_take, ← hs.current.kind]
  by_cases h : s.current.kind ≠ .endOfSource
  · rw [if_pos h, if_pos h]
    exact .read ⟨hs.current, hs.next h⟩
  · rw [if_neg h, if_neg h]
    exact .read ⟨hs.current, hs⟩

theorem agrees_spanFrom (hs : s.Alike R s') (ht : t.Alike R t') :
    Agrees R (spanFrom t) s (spanFrom t') s' (Span.Alike R) :=
  .read ⟨⟨ht.span.first, hs.stop⟩, hs⟩

theorem agrees_numberOf (hs : s.Alike R s') (ht : t.Alike R t') :
    Agrees R (numberOf t) s (numberOf t') s' Eq := by
  unfold numberOf
  rw [← ht.value]
  split
  · exact agrees_pure rfl hs
  · exact agrees_refuse rfl ht

theorem agrees_propertyName (hs : s.Alike R s') (ht : t.Alike R t') :
    Agrees R (propertyName t) s (propertyName t') s' Eq := by
  unfold propertyName
  rw [← ht.kind, ← ht.value]
  split
  · exact agrees_pure rfl hs
  · exact agrees_pure rfl hs
  · refine (agrees_numberOf hs ht).bind fun n n' s₁ s₁' hn hs₁ => ?_
    exact agrees_pure (congrArg keyOfNumber hn) hs₁
  · exact agrees_refuse rfl ht
  · exact agrees_refuse (congrArg (SyntaxFault.expected _) ht.unplaced) ht

theorem agrees_refuseArrow (hs : s.Alike R s') :
    Agrees R refuseArrow s refuseArrow s' fun _ _ => True := by
  refine agrees_peek ?_
  rw [← hs.current.kind]
  split
  · exact agrees_refuse rfl hs.current
  · exact agrees_pure trivial hs

theorem agrees_refuseStatement (hs : s.Alike R s') (ht : t.Alike R t') :
    Agrees R (refuseStatement t) s (refuseStatement t') s' fun _ _ => True := by
  unfold refuseStatement
  rw [← ht.kind, ← ht.value]
  split
  · exact agrees_refuse rfl ht
  · exact agrees_pure trivial hs

end Steps

/-- The reading steps with some fuel agree with those that have more fuel and more depth. -/
structure Lockstep (R : Places) (fuel fuel' : Nat) : Prop where
  expression : ∀ {depth depth' : Nat} {s s' : TokenStream}, depth ≤ depth' → s.Alike R s' →
    Agrees R (expression fuel depth) s (expression fuel' depth') s' (Expr.Alike R)
  postfixes : ∀ {depth depth' : Nat} {s s' : TokenStream} {start start' : Token} {e e' : Expr},
    depth ≤ depth' → s.Alike R s' → start.Alike R start' → e.Alike R e' →
      Agrees R (postfixes fuel depth start e) s (postfixes fuel' depth' start' e') s'
        (Expr.Alike R)
  sequence : ∀ {depth depth' : Nat} {s s' : TokenStream} {closing : TokenKind} {what : Text},
    closing ≠ .endOfSource → depth ≤ depth' → s.Alike R s' →
      Agrees R (sequence fuel depth closing what) s (sequence fuel' depth' closing what) s'
        (Expr.AllAlike R)
  properties : ∀ {depth depth' : Nat} {s s' : TokenStream}, depth ≤ depth' → s.Alike R s' →
    Agrees R (properties fuel depth) s (properties fuel' depth') s' (Expr.PropertiesAlike R)
  primary : ∀ {depth depth' : Nat} {s s' : TokenStream}, depth ≤ depth' → s.Alike R s' →
    Agrees R (primary fuel depth) s (primary fuel' depth') s' (Expr.Alike R)

section Lockstep

variable {R : Places} {fuel fuel' depth depth' : Nat} {s s' : TokenStream}

theorem agrees_expression (ih : Lockstep R fuel fuel') (hdepth : depth ≤ depth')
    (hs : s.Alike R s') :
    Agrees R (expression (fuel + 1) depth) s (expression (fuel' + 1) depth') s' (Expr.Alike R) := by
  rw [expression, expression]
  by_cases hzero : depth = 0
  · rw [if_pos hzero]
    exact agrees_tooDeep
  · rw [if_neg hzero, if_neg (by omega)]
    refine agrees_peek ((agrees_refuseStatement hs hs.current).bind fun _ _ s₁ s₁' _ hs₁ => ?_)
    refine (ih.primary (by omega) hs₁).bind fun e e' s₂ s₂' he hs₂ => ?_
    refine (ih.postfixes (by omega) hs₂ hs.current he).bind fun e e' s₃ s₃' he hs₃ => ?_
    exact (agrees_refuseArrow hs₃).bind fun _ _ s₄ s₄' _ hs₄ => agrees_pure he hs₄

theorem agrees_postfixes (ih : Lockstep R fuel fuel') {start start' : Token} {e e' : Expr}
    (hdepth : depth ≤ depth') (hs : s.Alike R s') (hstart : start.Alike R start')
    (he : e.Alike R e') :
    Agrees R (postfixes (fuel + 1) depth start e) s (postfixes (fuel' + 1) depth' start' e') s'
      (Expr.Alike R) := by
  rw [postfixes, postfixes]
  refine (agrees_accept hs (by decide)).bind fun dot _ s₁ s₁' hdot hs₁ => ?_
  subst hdot
  split
  · refine (agrees_expect hs₁ (by decide) _).bind fun t t' s₂ s₂' ht hs₂ => ?_
    refine (agrees_spanFrom hs₂ hstart).bind fun span span' s₃ s₃' hspan hs₃ => ?_
    rw [← ht.value]
    exact ih.postfixes hdepth hs₃ hstart (.member hspan he t.value)
  · refine (agrees_accept hs₁ (by decide)).bind fun called _ s₂ s₂' hcalled hs₂ => ?_
    subst hcalled
    split
    · refine (ih.sequence (by decide) hdepth hs₂).bind fun es es' s₃ s₃' hes hs₃ => ?_
      refine (agrees_spanFrom hs₃ hstart).bind fun span span' s₄ s₄' hspan hs₄ => ?_
      exact ih.postfixes hdepth hs₄ hstart (.call hspan he hes)
    · exact agrees_pure he hs₂

theorem agrees_sequence (ih : Lockstep R fuel fuel') {closing : TokenKind} {what : Text}
    (hclosing : closing ≠ .endOfSource) (hdepth : depth ≤ depth') (hs : s.Alike R s') :
    Agrees R (sequence (fuel + 1) depth closing what) s
      (sequence (fuel' + 1) depth' closing what) s' (Expr.AllAlike R) := by
  rw [sequence, sequence]
  refine agrees_peek ?_
  rw [← hs.current.kind]
  split
  · rename_i hend
    refine (agrees_pass hs (hend ▸ hclosing)).bind fun _ _ s₁ s₁' _ hs₁ => ?_
    exact agrees_pure .nil hs₁
  · split
    · exact agrees_refuse rfl hs.current
    · refine (ih.expression hdepth hs).bind fun e e' s₁ s₁' he hs₁ => ?_
      refine (agrees_accept hs₁ (by decide)).bind fun comma _ s₂ s₂' hcomma hs₂ => ?_
      subst hcomma
      split
      · refine (ih.sequence hclosing hdepth hs₂).bind fun es es' s₃ s₃' hes hs₃ => ?_
        exact agrees_pure (.cons he hes) hs₃
      · refine (agrees_expect hs₂ hclosing what).bind fun _ _ s₃ s₃' _ hs₃ => ?_
        exact agrees_pure (.cons he .nil) hs₃

theorem agrees_properties (ih : Lockstep R fuel fuel') (hdepth : depth ≤ depth')
    (hs : s.Alike R s') :
    Agrees R (properties (fuel + 1) depth) s (properties (fuel' + 1) depth') s'
      (Expr.PropertiesAlike R) := by
  rw [properties, properties]
  refine agrees_peek ?_
  rw [← hs.current.kind]
  split
  · rename_i hend
    refine (agrees_pass hs (by rw [hend]; decide)).bind fun _ _ s₁ s₁' _ hs₁ => ?_
    exact agrees_pure .nil hs₁
  · refine (agrees_take hs).bind fun t t' s₁ s₁' ht hs₁ => ?_
    refine (agrees_propertyName hs₁ ht).bind fun name _ s₂ s₂' hname hs₂ => ?_
    subst hname
    refine agrees_peek ?_
    rw [← hs₂.current.kind, ← ht.kind]
    split
    · exact (agrees_refuse (Q := fun _ _ => False) rfl ht).bind fun _ _ _ _ h => h.elim
    · refine (agrees_expect hs₂ (by decide) _).bind fun _ _ s₃ s₃' _ hs₃ => ?_
      refine (ih.expression hdepth hs₃).bind fun e e' s₄ s₄' he hs₄ => ?_
      refine (agrees_spanFrom hs₄ ht).bind fun span span' s₅ s₅' hspan hs₅ => ?_
      refine (agrees_accept hs₅ (by decide)).bind fun comma _ s₆ s₆' hcomma hs₆ => ?_
      subst hcomma
      split
      · refine (ih.properties hdepth hs₆).bind fun ps ps' s₇ s₇' hps hs₇ => ?_
        exact agrees_pure (.cons hspan name he hps) hs₇
      · refine (agrees_expect hs₆ (by decide) _).bind fun _ _ s₇ s₇' _ hs₇ => ?_
        exact agrees_pure (.cons hspan name he .nil) hs₇

/-- A number behind a sign. -/
theorem agrees_signed {t t' : Token} (hs : s.Alike R s') (ht : t.Alike R t')
    (sign : Number → Number) :
    Agrees R (do
        let operand ← expect .number "a number"
        let n ← numberOf operand
        return Expr.literal (← spanFrom t) (.number (sign n))) s (do
        let operand ← expect .number "a number"
        let n ← numberOf operand
        return Expr.literal (← spanFrom t') (.number (sign n))) s' (Expr.Alike R) := by
  refine (agrees_expect hs (by decide) _).bind fun operand operand' s₁ s₁' hoperand hs₁ => ?_
  refine (agrees_numberOf hs₁ hoperand).bind fun n _ s₂ s₂' hn hs₂ => ?_
  subst hn
  refine (agrees_spanFrom hs₂ ht).bind fun span span' s₃ s₃' hspan hs₃ => ?_
  exact agrees_pure (.literal hspan _) hs₃

theorem agrees_primary (ih : Lockstep R fuel fuel') (hdepth : depth ≤ depth')
    (hs : s.Alike R s') :
    Agrees R (primary (fuel + 1) depth) s (primary (fuel' + 1) depth') s' (Expr.Alike R) := by
  rw [primary, primary]
  refine (agrees_take hs).bind fun t t' s₁ s₁' ht hs₁ => ?_
  rw [← ht.kind]
  cases hkind : t.kind with
  | identifier =>
    dsimp only
    rw [← ht.value]
    split
    · exact agrees_pure (.literal ht.span _) hs₁
    · exact agrees_pure (.identifier ht.span _) hs₁
  | string =>
    dsimp only
    rw [← ht.value]
    exact agrees_pure (.literal ht.span _) hs₁
  | number =>
    refine (agrees_numberOf hs₁ ht).bind fun n _ s₂ s₂' hn hs₂ => ?_
    subst hn
    exact agrees_pure (.literal ht.span _) hs₂
  | minus => exact agrees_signed hs₁ ht .neg
  | plus => exact agrees_signed hs₁ ht id
  | regex =>
    dsimp only
    rw [← ht.value]
    exact agrees_pure (.regex ht.span _ _) hs₁
  | leftBracket =>
    refine (ih.sequence (by decide) hdepth hs₁).bind fun es es' s₂ s₂' hes hs₂ => ?_
    refine (agrees_spanFrom hs₂ ht).bind fun span span' s₃ s₃' hspan hs₃ => ?_
    exact agrees_pure (.array hspan hes) hs₃
  | leftBrace =>
    refine (ih.properties hdepth hs₁).bind fun ps ps' s₂ s₂' hps hs₂ => ?_
    refine (agrees_spanFrom hs₂ ht).bind fun span span' s₃ s₃' hspan hs₃ => ?_
    exact agrees_pure (.object hspan hps) hs₃
  | leftParen =>
    refine (ih.expression hdepth hs₁).bind fun e e' s₂ s₂' he hs₂ => ?_
    refine (agrees_expect hs₂ (by decide) _).bind fun _ _ s₃ s₃' _ hs₃ => ?_
    exact (agrees_refuseArrow hs₃).bind fun _ _ s₄ s₄' _ hs₄ => agrees_pure he hs₄
  | fatArrow | spread => exact agrees_refuse rfl ht
  | _ => exact agrees_refuse (congrArg SyntaxFault.unexpected ht.unplaced) ht

/-- All reading steps go in lockstep, whatever the fuel. -/
theorem lockstep : ∀ {fuel fuel' : Nat}, fuel ≤ fuel' → Lockstep R fuel fuel'
  | 0, _, _ => by
    constructor <;> intros
    · rw [expression]
      exact agrees_tooDeep
    · rw [postfixes]
      exact agrees_tooDeep
    · rw [sequence]
      exact agrees_tooDeep
    · rw [properties]
      exact agrees_tooDeep
    · rw [primary]
      exact agrees_tooDeep
  | fuel + 1, fuel' + 1, h =>
    have ih := lockstep (Nat.le_of_succ_le_succ h)
    { expression := agrees_expression ih
      postfixes := agrees_postfixes ih
      sequence := agrees_sequence ih
      properties := agrees_properties ih
      primary := agrees_primary ih }

/-- Whole sources are read alike. -/
theorem agrees_source (hfuel : fuel ≤ fuel') (hdepth : depth ≤ depth') (hs : s.Alike R s') :
    Agrees R (source fuel depth) s (source fuel' depth') s' (Expr.Alike R) := by
  refine agrees_peek ?_
  rw [← hs.current.kind]
  split
  · exact (agrees_refuse (Q := fun _ _ => False) rfl hs.current).bind fun _ _ _ _ h => h.elim
  · refine ((lockstep hfuel).expression hdepth hs).bind fun e e' s₁ s₁' he hs₁ => ?_
    refine (agrees_accept hs₁ (by decide)).bind fun _ _ s₂ s₂' _ hs₂ => ?_
    refine agrees_peek ?_
    rw [← hs₂.current.kind]
    split
    · exact agrees_pure he hs₂
    · exact agrees_refuse (congrArg SyntaxFault.trailing hs₂.current.unplaced) hs₂.current

end Lockstep

end Parsing

/-- Tokens that differ in their places only are read alike. -/
theorem Expr.ofTokens_alike {R : Places} {tokens tokens' : List Token}
    (h : Token.AllAlike R tokens tokens') (hstart : R.stop Position.start Position.start) :
    Parsing.Answers R (Expr.Alike R) (Expr.ofTokens tokens) (Expr.ofTokens tokens') := by
  have hagrees : Parsing.Agrees R (Parsing.source (4 * tokens.length + 4) Parsing.nestingLimit)
      ⟨Position.start, tokens⟩ (Parsing.source (4 * tokens'.length + 4) Parsing.nestingLimit)
      ⟨Position.start, tokens'⟩ (Expr.Alike R) :=
    Parsing.agrees_source (Nat.le_of_eq (by rw [h.length])) le_rfl ⟨hstart, h⟩
  unfold Parsing.Agrees at hagrees
  rw [ofTokens_eq, ofTokens_eq]
  generalize StateT.run (Parsing.source (4 * tokens.length + 4) _) _ = run at hagrees ⊢
  generalize StateT.run (Parsing.source (4 * tokens'.length + 4) _) _ = run' at hagrees ⊢
  cases hagrees with
  | tooDeep => exact .tooDeep _
  | refused same place => exact .refused same place
  | read alike => exact .read alike.1

theorem Token.AllAlike.same {last : Token} (hlast : last.kind = .endOfSource)
    (tokens : List Token) : AllAlike .same (tokens ++ [last]) (tokens ++ [last]) := by
  induction tokens with
  | nil => exact .last ⟨rfl, Span.alike_same.mpr rfl⟩ hlast
  | cons t tokens ih => exact .cons ⟨rfl, Span.alike_same.mpr rfl⟩ ih

/-- No more brackets are open at once than there are tokens. -/
theorem nestsWithin_of_length_le {room : Nat} {tokens : List Token} (h : tokens.length ≤ room) :
    nestsWithin room tokens = true := by
  induction tokens generalizing room with
  | nil => rfl
  | cons t tokens ih =>
    have hroom : tokens.length < room := h
    rw [nestsWithin]
    split
    · rw [Bool.and_eq_true, decide_eq_true_iff]
      exact ⟨Nat.zero_lt_of_lt hroom, ih (Nat.le_sub_one_of_lt hroom)⟩
    · refine ih (hroom.le.trans ?_)
      split
      · exact Nat.le_succ room
      · exact le_rfl

/-- Exactly those tokens are read that derive from the grammar with expressions nested within the
limit, however deep their brackets are nested. -/
theorem Expr.ofTokens_eq_ok_iff {tokens : List Token} {last : Token}
    (hlast : last.kind = .endOfSource) (honly : ∀ t ∈ tokens, t.kind ≠ .endOfSource) (e : Expr) :
    Expr.ofTokens (tokens ++ [last]) = .ok e ↔ ∃ d : Grammar.Derivation, d.tokens = tokens ∧
      d.tree = e ∧ d.expression.levels ≤ Parsing.nestingLimit := by
  constructor
  · intro h
    -- With more depth than there are tokens, the source is read as the same tree.
    obtain ⟨depth, hlimit, hdepth⟩ : ∃ depth, Parsing.nestingLimit ≤ depth ∧
        (tokens ++ [last]).length < depth :=
      ⟨_, Nat.le_max_left _ ((tokens ++ [last]).length + 1), Nat.le_max_right _ _⟩
    have hgives : Parsing.Gives (Parsing.source (4 * (tokens ++ [last]).length + 4) depth)
        ⟨Position.start, tokens ++ [last]⟩
        fun e _ => ∃ d : Grammar.Derivation, d.tokens = tokens ∧ d.tree = e :=
      Parsing.gives_source hlast honly (by omega) (Nat.zero_lt_of_lt hdepth)
        (nestsWithin_of_length_le (Nat.le_sub_one_of_lt hdepth))
    have hagrees := Parsing.agrees_source (R := .same)
      (le_refl (4 * (tokens ++ [last]).length + 4)) hlimit
      (s := ⟨Position.start, tokens ++ [last]⟩) ⟨rfl, Token.AllAlike.same hlast tokens⟩
    unfold Parsing.Gives at hgives
    unfold Parsing.Agrees at hagrees
    have hrun := h
    rw [ofTokens_eq] at hrun
    generalize StateT.run (Parsing.source _ Parsing.nestingLimit) _ = run at hrun hagrees
    generalize StateT.run (Parsing.source _ depth) _ = run' at hgives hagrees
    cases hagrees with
    | tooDeep | refused => exact nomatch hrun
    | read alike =>
      obtain ⟨d, rfl, htree⟩ := hgives
      cases hrun
      refine ⟨d, rfl, htree.trans alike.1.eq.symm, ?_⟩
      by_contra hlevels
      rw [ofTokens_derivation d hlast, if_neg hlevels] at h
      exact nomatch h
  · rintro ⟨d, rfl, rfl, hlevels⟩
    rw [ofTokens_derivation d hlast, if_pos hlevels]

end Conform
