import Conform.Compile.Basic
import Conform.Proofs.Source.Places

/-!
# Compiling sources that differ in their places

Expressions that differ in their places only have the same value, or fail in the same way at
corresponding nodes. So two sources whose tokens differ in their places only compile to the same
schema, or are refused alike.

## Main definitions

- `CompileError.unplaced` — an error without its place
- `EvaluationError.Alike`, `CompileError.Alike` — the same error at corresponding places
- `Expr.Alike.meaning` — expressions that are alike mean the same
- `Compiles` — one source compiles as another one does
- `compile_alike` — sources compile alike if their tokens are alike
-/

namespace Conform

section Unplaced

/-- A refusal without its place. -/
def SourceError.unplaced : SourceError → SourceError
  | .fault reason _ => .fault reason.unplaced Position.start
  | .tooDeep => .tooDeep

/-- An evaluation error without its place. -/
def EvaluationError.unplaced : EvaluationError → EvaluationError
  | .fault reason _ => .fault reason Expr.nowhere
  | e => e

/-- An error without its place. -/
def CompileError.unplaced : CompileError → CompileError
  | .notText => .notText
  | .source e => .source e.unplaced
  | .evaluation e => .evaluation e.unplaced
  | .notSchema typeName _ => .notSchema typeName Position.start

/-- What is reported of an error without its place are its kind and its message. -/
theorem CompileError.report_unplaced (e : CompileError) :
    e.unplaced.report = e.report.map fun report => { report with position := Position.start } := by
  cases e with
  | notText | notSchema => rfl
  | source e =>
    cases e with
    | tooDeep => rfl
    | fault fault position =>
      let reportOf (message : Text) : Except SizeError CompileReport :=
        .ok ⟨.malformed, message, Position.start⟩
      have hreport := congrArg reportOf fault.message_unplaced
      cases fault with
      | lexical fault => cases fault <;> rfl
      | _ => exact hreport
  | evaluation e => cases e <;> rfl

end Unplaced

section Evaluation

variable {R : Places} {v : Version} {α β : Type}

/-- The same evaluation error, at nodes that belong together. -/
inductive EvaluationError.Alike (R : Places) : EvaluationError → EvaluationError → Prop
  | fault (fault : EvaluationFault) {s s' : Span} (span : s.Alike R s') :
      EvaluationError.Alike R (.fault fault s) (.fault fault s')
  | same (e : EvaluationError) (unplaced : ∀ fault span, e ≠ .fault fault span) :
      EvaluationError.Alike R e e

/-- One evaluation gives what another one gives, or fails alike. -/
inductive Evaluation.Alike (R : Places) : Evaluation α → Evaluation α → Prop
  | value (a : α) : Evaluation.Alike R (.ok a) (.ok a)
  | failed {e e' : EvaluationError} (alike : e.Alike R e') :
      Evaluation.Alike R (.error e) (.error e')

theorem Evaluation.Alike.bind {x x' : Evaluation α} {f f' : α → Evaluation β}
    (h : Evaluation.Alike R x x') (hf : ∀ a, Evaluation.Alike R (f a) (f' a)) :
    Evaluation.Alike R (x >>= f) (x' >>= f') := by
  cases h with
  | value a => exact hf a
  | failed alike => exact .failed alike

theorem alike_failed {fault fault' : EvaluationFault} {node node' : Expr}
    (hnode : node.Alike R node') (h : fault = fault') :
    Evaluation.Alike R (failEvaluation fault node : Evaluation α)
      (failEvaluation fault' node') := by
  subst h
  exact .failed (.fault fault hnode.span)

/-- A part that is nested too deeply fails in both. -/
theorem alike_budget {budget : Nat} {f f' : PUnit → Evaluation α}
    (h : Evaluation.Alike R (f ⟨⟩) (f' ⟨⟩)) :
    Evaluation.Alike R (if budget = 0 then throw .tooDeep >>= f else f ⟨⟩)
      (if budget = 0 then throw .tooDeep >>= f' else f' ⟨⟩) := by
  split
  · exact .failed (.same .tooDeep nofun)
  · exact h

theorem alike_patternOf {node node' : Expr} (h : node.Alike R node') (body flags : Text) :
    Evaluation.Alike R (patternOf node body flags) (patternOf node' body flags) := by
  unfold patternOf
  split
  · exact .value _
  iterate 4 exact .failed (.same _ nofun)
  · exact alike_failed h rfl

theorem alike_memberMeaning {node node' target target' : Expr} (h : node.Alike R node')
    (htarget : target.Alike R target') (name : Text) (meaning : Meaning) :
    Evaluation.Alike R (memberMeaning v node target name meaning)
      (memberMeaning v node' target' name meaning) := by
  unfold memberMeaning
  rw [htarget.label]
  split
  · split
    · exact .value _
    · exact alike_failed h rfl
  · split
    · exact .value _
    · exact alike_failed h rfl
  all_goals exact alike_failed h rfl

theorem alike_callResult {node node' : Expr} (h : node.Alike R node') (name : Text)
    (built : Build Schema) :
    Evaluation.Alike R (callResult node name built) (callResult node' name built) := by
  unfold callResult
  split
  · exact .value _
  · exact alike_failed h rfl
  iterate 2 exact .failed (.same _ nofun)
  · exact alike_failed h rfl

theorem alike_settled {node node' : Expr} (h : node.Alike R node') (meaning : Meaning) :
    Evaluation.Alike R (settled node meaning) (settled node' meaning) := by
  unfold settled
  split
  · exact .value _
  · exact alike_failed h (by rw [h.label])

mutual

/-- Expressions that differ in their places only mean the same, or fail alike. -/
theorem Expr.Alike.meaning {e e' : Expr} :
    e.Alike R e' → ∀ budget, Evaluation.Alike R (e.meaning v budget) (e'.meaning v budget)
  | .identifier span name, budget => by
    rw [Expr.meaning, Expr.meaning]
    split
    · exact .value _
    · exact alike_failed (.identifier span name) rfl
  | .literal _ _, _ => .value _
  | .regex span body flags, _ =>
    (alike_patternOf (.regex span body flags) body flags).bind fun _ => .value _
  | .array _ elements, budget => by
    rw [Expr.meaning, Expr.meaning]
    exact alike_budget ((elements.valuesOf (budget - 1)).bind fun _ => .value _)
  | .object _ properties, budget => by
    rw [Expr.meaning, Expr.meaning]
    exact alike_budget ((properties.fieldsOf (budget - 1)).bind fun _ => .value _)
  | .member span target name, budget => by
    rw [Expr.meaning, Expr.meaning]
    exact alike_budget ((target.meaning (budget - 1)).bind fun meaning =>
      alike_memberMeaning (.member span target name) target name meaning)
  | .call span callee arguments, budget => by
    have hcall := Expr.Alike.call span callee arguments
    rw [Expr.meaning, Expr.meaning]
    refine alike_budget ((callee.meaning (budget - 1)).bind fun meaning => ?_)
    cases meaning with
    | constructor c =>
      exact (arguments.valuesOf (budget - 1)).bind fun _ => alike_callResult hcall _ _
    | method name m =>
      exact (arguments.valuesOf (budget - 1)).bind fun _ => alike_callResult hcall _ _
    | value a => exact alike_failed hcall (by rw [callee.label])
    | root => exact alike_failed hcall (by rw [callee.label])

theorem Expr.AllAlike.valuesOf {es es' : List Expr} :
    Expr.AllAlike R es es' →
      ∀ budget, Evaluation.Alike R (valuesOf v budget es) (valuesOf v budget es')
  | .nil, _ => .value []
  | .cons head more, budget =>
    (head.meaning budget).bind fun meaning => (alike_settled head meaning).bind fun _ =>
      (more.valuesOf budget).bind fun _ => .value _

theorem Expr.PropertiesAlike.fieldsOf {ps ps' : List (PropertyKey × Expr)} :
    Expr.PropertiesAlike R ps ps' →
      ∀ budget, Evaluation.Alike R (fieldsOf v budget ps) (fieldsOf v budget ps')
  | .nil, _ => .value []
  | .cons _ _ value more, budget =>
    (value.meaning budget).bind fun meaning => (alike_settled value meaning).bind fun _ =>
      (more.fieldsOf budget).bind fun _ => .value _

end

/-- They have the same value, or fail alike. -/
theorem Expr.Alike.evaluate {e e' : Expr} (h : e.Alike R e') :
    Evaluation.Alike R (e.evaluate v) (e'.evaluate v) :=
  (h.meaning Expr.evaluationLimit).bind (alike_settled h)

end Evaluation

section Compilation

variable {R : Places}

/-- The same compile error at places that belong together. -/
inductive CompileError.Alike (R : Places) : CompileError → CompileError → Prop
  | refused {fault fault' : SyntaxFault} {p p' : Position} (same : fault.unplaced = fault'.unplaced)
      (place : R.first p p') :
      CompileError.Alike R (.source (.fault fault p)) (.source (.fault fault' p'))
  | evaluation {e e' : EvaluationError} (alike : e.Alike R e') :
      CompileError.Alike R (.evaluation e) (.evaluation e')
  | notSchema (typeName : Text) {p p' : Position} (place : R.first p p') :
      CompileError.Alike R (.notSchema typeName p) (.notSchema typeName p')

/-- One source compiles as another one does, unless that is nested too deeply. -/
inductive Compiles (R : Places) :
    Except CompileError Schema → Except CompileError Schema → Prop
  | tooDeep (other : Except CompileError Schema) :
      Compiles R (.error (.source .tooDeep)) other
  | failed {e e' : CompileError} (alike : e.Alike R e') : Compiles R (.error e) (.error e')
  | schema (s : Schema) : Compiles R (.ok s) (.ok s)

/-- Sources compile alike if their tokens differ in their places only. -/
theorem compile_alike {source source' : Text} {tokens tokens' : List Token}
    (htokens : Token.ofSource source = .ok tokens)
    (htokens' : Token.ofSource source' = .ok tokens') (h : Token.AllAlike R tokens tokens')
    (hstart : R.stop Position.start Position.start) (v : Version) :
    Compiles R (compile v source) (compile v source') := by
  have hread := Expr.ofTokens_alike h hstart
  unfold compile Expr.ofSource
  rw [htokens, htokens']
  dsimp only
  generalize Expr.ofTokens tokens = read at hread ⊢
  generalize Expr.ofTokens tokens' = read' at hread ⊢
  cases hread with
  | tooDeep => exact .tooDeep _
  | refused same place => exact .failed (.refused same place)
  | @read tree tree' alike =>
    have hevaluated := alike.evaluate (v := v)
    dsimp only
    generalize tree.evaluate v = evaluated at hevaluated ⊢
    generalize tree'.evaluate v = evaluated' at hevaluated ⊢
    cases hevaluated with
    | failed alike => exact .failed (.evaluation alike)
    | value a =>
      cases a with
      | schema s => exact .schema s
      | _ => exact .failed (.notSchema _ alike.span.first)

end Compilation

end Conform
