import Conform.Proofs.Compile.Sandbox
import Conform.Proofs.Pattern.Excess
import Conform.Proofs.Schema.Refusals
import Conform.Proofs.Source.Faults

/-!
# How compiling fails

A source that does not compile is answered with a report, except where it holds something too large:
a hexadecimal number that is too long to be written in decimal, a length beyond the doubles, a
precision or a count of repetitions beyond what patterns can have.

## Main definitions

- `Expr.Asks` — the numbers in the arguments of a call from which lengths may be taken
- `Expr.Oversized`, `Oversized` — what is too large in an expression and in a source
- `compile_failure` — without such a thing there is a schema or a report
-/

namespace Conform

namespace Expr

/-- The numbers in the arguments of a call from which lengths may be taken: the first argument, and
the values of options. -/
inductive Asks (arguments : List Expr) : Option Text → Number → Prop
  | direct {span : Span} {n : Number} {rest : List Expr}
      (first : arguments = .literal span (.number n) :: rest) : Asks arguments none n
  | option {span valueSpan : Span} {properties : List (PropertyKey × Expr)} {key : PropertyKey}
      {n : Number} (given : .object span properties ∈ arguments)
      (property : (key, .literal valueSpan (.number n)) ∈ properties) :
      Asks arguments (some key.name) n

/-- What an expression holds that is too large. -/
inductive Oversized (tree : Expr) : SizeError → Prop
  /-- A length that has no nearest double. -/
  | length {place : Place} {span : Span} {callee : Expr} {arguments : List Expr}
      (node : tree.At place (.call span callee arguments)) {key : Option Text} {n : Nat}
      (asked : Asks arguments key (.int n))
      (length : key ∈ [none, some precisionKey, some positionKey])
      (large : Double.overflow ≤ n) : Oversized tree .integerTooLarge
  /-- A precision that patterns cannot count to. -/
  | precision {place : Place} {span : Span} {callee : Expr} {arguments : List Expr}
      (node : tree.At place (.call span callee arguments)) {n : Number}
      (asked : Asks arguments (some precisionKey) n) (large : Regex.countLimit ≤ n.wholePart) :
      Oversized tree .repetitionTooLarge
  /-- A count of repetitions that patterns cannot count to. -/
  | repetition {place : Place} {span : Span} {source flags : Text}
      (node : tree.At place (.regex span source flags))
      (excess : Regex.Excess (Pattern.respell source) .repetitionTooLarge) :
      Oversized tree .repetitionTooLarge
  /-- A count of repetitions with too many digits. -/
  | count {place : Place} {span : Span} {source flags : Text}
      (node : tree.At place (.regex span source flags)) {digits : Nat}
      (excess : Regex.Excess (Pattern.respell source) (.countTooLong digits)) :
      Oversized tree (.countTooLong digits)
  /-- Two repertoires in one regular expression. -/
  | repertoires {place : Place} {span : Span} {source flags : Text}
      (node : tree.At place (.regex span source flags))
      (excess : Regex.Excess (Pattern.respell source) .incompatibleFlags) :
      Oversized tree .incompatibleFlags

/-- An evaluation fails with a report or over what an expression holds. -/
def Explains (tree : Expr) (e : EvaluationError) : Prop :=
  ∀ size, (CompileError.evaluation e).report = .error size → tree.Oversized size

variable {tree : Expr} {v : Version} {place : Place} {budget : Nat} {span : Span}

theorem failEvaluation_fails {α : Type} (fault : EvaluationFault) (node : Expr) :
    FailsOnly tree.Explains (failEvaluation fault node : Evaluation α) :=
  (failsOnly_error _).mpr fun _ h => nomatch h

theorem patternOf_fails {source flags : Text} (node : tree.At place (.regex span source flags)) :
    FailsOnly tree.Explains (patternOf (.regex span source flags) source flags) := by
  unfold patternOf
  split
  · exact failsOnly_ok _
  · rename_i hfailure
    refine (failsOnly_error _).mpr fun size hsize => ?_
    cases hsize
    exact .repetition node (Pattern.ofLiteral_fails source flags _ hfailure)
  · rename_i digits hfailure
    refine (failsOnly_error _).mpr fun size hsize => ?_
    cases hsize
    exact .count node (Pattern.ofLiteral_fails source flags _ hfailure)
  · rename_i hfailure
    refine (failsOnly_error _).mpr fun size hsize => ?_
    cases hsize
    exact .repertoires node (Pattern.ofLiteral_fails source flags _ hfailure)
  · exact (failsOnly_error _).mpr fun _ h => nomatch h
  · exact failEvaluation_fails _ _

theorem memberMeaning_fails (node target : Expr) (name : Text) (meaning : Meaning) :
    FailsOnly tree.Explains (memberMeaning v node target name meaning) := by
  unfold memberMeaning
  split
  · split
    · exact failsOnly_ok _
    · exact failEvaluation_fails _ _
  · split
    · exact failsOnly_ok _
    · exact failEvaluation_fails _ _
  all_goals exact failEvaluation_fails _ _

theorem settled_fails (node : Expr) (meaning : Meaning) :
    FailsOnly tree.Explains (settled node meaning) := by
  unfold settled
  split
  · exact failsOnly_ok _
  · exact failEvaluation_fails _ _

theorem callResult_fails {callee : Expr} {arguments : List Expr}
    (node : tree.At place (.call span callee arguments)) (name : Text) {build : Build Schema}
    (hbuild : FailsOnly (Excess (Asks arguments)) build) :
    FailsOnly tree.Explains (callResult (.call span callee arguments) name build) := by
  unfold callResult
  split
  · exact failsOnly_ok _
  · exact failEvaluation_fails _ _
  · refine (failsOnly_error _).mpr fun size hsize => ?_
    cases hsize
    cases hbuild _ rfl with
    | integer asked length large => exact .length node asked length large
  · refine (failsOnly_error _).mpr fun size hsize => ?_
    cases hsize
    cases hbuild _ rfl with
    | repetition asked large => exact .precision node asked large
  · exact failEvaluation_fails _ _

/-- Only a literal stands for a scalar. -/
theorem eq_literal {e : Expr} {scalar : Scalar}
    (h : e.meaning v budget = .ok (.value (.scalar scalar))) :
    ∃ span, e = .literal span scalar := by
  cases e with
  | literal span value =>
    rw [Expr.meaning] at h
    cases h
    exact ⟨span, rfl⟩
  | identifier span name => exact nomatch (meaning_identifier h).2
  | regex span source flags =>
    rw [Expr.meaning] at h
    obtain ⟨p, -, h⟩ := bind_eq_ok.mp h
    exact nomatch h
  | array span elements =>
    obtain ⟨values, -, heq⟩ := meaning_array h
    exact nomatch heq
  | object span properties =>
    obtain ⟨fields, -, heq⟩ := meaning_object h
    exact nomatch heq
  | member span target name =>
    obtain ⟨found, -, ⟨-, c, -, heq⟩ | ⟨s, m, -, -, heq⟩⟩ := meaning_member h
    · exact nomatch heq
    · exact nomatch heq
  | call span callee arguments =>
    obtain ⟨-, -, s, heq⟩ := meaning_call h
    exact nomatch heq

/-- Only an object stands for an object. -/
theorem eq_object {e : Expr} {fields : List (Text × Value)}
    (h : e.meaning v budget = .ok (.value (.object fields))) :
    ∃ span properties raw, e = .object span properties ∧
      fieldsOf v (budget - 1) properties = .ok raw ∧ fields = Fields.ofList raw := by
  cases e with
  | object span properties =>
    obtain ⟨raw, hraw, heq⟩ := meaning_object h
    cases heq
    exact ⟨span, properties, raw, rfl, hraw, rfl⟩
  | literal span value =>
    rw [Expr.meaning] at h
    exact nomatch h
  | identifier span name => exact nomatch (meaning_identifier h).2
  | regex span source flags =>
    rw [Expr.meaning] at h
    obtain ⟨p, -, h⟩ := bind_eq_ok.mp h
    exact nomatch h
  | array span elements =>
    obtain ⟨values, -, heq⟩ := meaning_array h
    exact nomatch heq
  | member span target name =>
    obtain ⟨found, -, ⟨-, c, -, heq⟩ | ⟨s, m, -, -, heq⟩⟩ := meaning_member h
    · exact nomatch heq
    · exact nomatch heq
  | call span callee arguments =>
    obtain ⟨-, -, s, heq⟩ := meaning_call h
    exact nomatch heq

/-- A value belongs to one of the expressions. -/
theorem exists_of_mem_values {es : List Expr} {values : List Value}
    (h : valuesOf v budget es = .ok values) {value : Value} (hvalue : value ∈ values) :
    ∃ e ∈ es, e.meaning v budget = .ok (.value value) := by
  induction es generalizing values with
  | nil =>
    cases h
    exact absurd hvalue List.not_mem_nil
  | cons e es ih =>
    rw [valuesOf] at h
    obtain ⟨meaning, hmeaning, h⟩ := bind_eq_ok.mp h
    obtain ⟨first, hfirst, h⟩ := bind_eq_ok.mp h
    obtain ⟨rest, hrest, h⟩ := bind_eq_ok.mp h
    cases h
    rcases List.mem_cons.mp hvalue with rfl | hvalue
    · exact ⟨e, List.mem_cons_self, settled_eq_ok hfirst ▸ hmeaning⟩
    · obtain ⟨e', he', hmeaning'⟩ := ih hrest hvalue
      exact ⟨e', List.mem_cons_of_mem e he', hmeaning'⟩

/-- A field belongs to one of the properties. -/
theorem exists_of_mem_fields {ps : List (PropertyKey × Expr)} {fields : List (Text × Value)}
    (h : fieldsOf v budget ps = .ok fields) {name : Text} {value : Value}
    (hfield : (name, value) ∈ fields) :
    ∃ key e, (key, e) ∈ ps ∧ key.name = name ∧ e.meaning v budget = .ok (.value value) := by
  induction ps generalizing fields with
  | nil =>
    cases h
    exact absurd hfield List.not_mem_nil
  | cons p ps ih =>
    obtain ⟨key, e⟩ := p
    rw [fieldsOf] at h
    obtain ⟨meaning, hmeaning, h⟩ := bind_eq_ok.mp h
    obtain ⟨first, hfirst, h⟩ := bind_eq_ok.mp h
    obtain ⟨rest, hrest, h⟩ := bind_eq_ok.mp h
    cases h
    rcases List.mem_cons.mp hfield with heq | hfield
    · cases heq
      exact ⟨key, e, List.mem_cons_self, rfl, settled_eq_ok hfirst ▸ hmeaning⟩
    · obtain ⟨key', e', hmem, hname, hmeaning'⟩ := ih hrest hfield
      exact ⟨key', e', List.mem_cons_of_mem _ hmem, hname, hmeaning'⟩

/-- The numbers in values come from those in the expressions that have them. -/
theorem asks_of_values {arguments : List Expr} {values : List Value}
    (h : valuesOf v budget arguments = .ok values) {key : Option Text} {n : Number}
    (hasks : Conform.Asks values key n) : Asks arguments key n := by
  cases hasks with
  | direct first =>
    cases arguments with
    | nil =>
      cases h
      exact nomatch first
    | cons e rest =>
      rw [valuesOf] at h
      obtain ⟨meaning, hmeaning, h⟩ := bind_eq_ok.mp h
      obtain ⟨value, hvalue, h⟩ := bind_eq_ok.mp h
      obtain ⟨values, -, h⟩ := bind_eq_ok.mp h
      cases h
      obtain rfl : value = .scalar (.number n) := first
      obtain ⟨span, rfl⟩ := eq_literal (settled_eq_ok hvalue ▸ hmeaning)
      exact .direct rfl
  | option given set =>
    obtain ⟨e, he, hmeaning⟩ := exists_of_mem_values h given
    obtain ⟨span, properties, raw, rfl, hraw, rfl⟩ := eq_object hmeaning
    obtain ⟨key, e', hproperty, rfl, hmeaning'⟩ :=
      exists_of_mem_fields hraw (Fields.mem_ofList (Fields.mem_of_get? set))
    obtain ⟨valueSpan, rfl⟩ := eq_literal hmeaning'
    exact .option he hproperty

theorem Explains.tooDeep : tree.Explains .tooDeep := fun _ h => nomatch h

/-- A part of an expression is evaluated if there is room for it. -/
theorem failsOnly_budget {α : Type} {rest : PUnit → Evaluation α}
    (h : FailsOnly tree.Explains (rest ())) :
    FailsOnly tree.Explains (if budget = 0 then throw .tooDeep >>= rest else rest ()) := by
  split
  · exact (failsOnly_error _).mpr .tooDeep
  · exact h

mutual

theorem meaning_fails (v : Version) (budget : Nat) :
    ∀ (e : Expr) {place : Place}, tree.At place e → FailsOnly tree.Explains (e.meaning v budget)
  | .identifier span name, _, _ => by
    rw [Expr.meaning]
    split
    · exact failsOnly_ok _
    · exact failEvaluation_fails _ _
  | .literal span value, _, _ => failsOnly_ok _
  | .regex span source flags, _, node => (patternOf_fails node).bind fun _ _ => failsOnly_pure _
  | .array span elements, _, node => by
    rw [Expr.meaning]
    refine failsOnly_budget (.bind ?_ fun _ _ => failsOnly_pure _)
    exact valuesOf_fails v (budget - 1) elements fun e he => ⟨_, node.element he⟩
  | .object span properties, _, node => by
    rw [Expr.meaning]
    refine failsOnly_budget (.bind ?_ fun _ _ => failsOnly_pure _)
    exact fieldsOf_fails v (budget - 1) properties fun p hp => ⟨_, node.property hp⟩
  | .member span target name, _, node => by
    rw [Expr.meaning]
    exact failsOnly_budget (.bind (meaning_fails v (budget - 1) target node.target) fun _ _ =>
      memberMeaning_fails _ _ _ _)
  | .call span callee arguments, _, node => by
    have harguments : FailsOnly tree.Explains (valuesOf v (budget - 1) arguments) :=
      valuesOf_fails v (budget - 1) arguments fun e he => ⟨_, node.argument he⟩
    rw [Expr.meaning]
    refine failsOnly_budget (.bind (meaning_fails v (budget - 1) callee node.callee) ?_)
    intro found _
    cases found with
    | constructor c =>
      exact .bind harguments fun values _ => callResult_fails node _ (c.build_fails values)
    | method name m =>
      refine .bind harguments fun values hvalues => callResult_fails node _ ?_
      exact (m.call_fails values).mono fun _ he => he.mono fun _ _ => asks_of_values hvalues
    | value _ | root => exact failEvaluation_fails _ _

theorem valuesOf_fails (v : Version) (budget : Nat) :
    ∀ (es : List Expr), (∀ e ∈ es, ∃ place, tree.At place e) →
      FailsOnly tree.Explains (valuesOf v budget es)
  | [], _ => failsOnly_ok _
  | e :: es, nodes => by
    obtain ⟨place, node⟩ := nodes e List.mem_cons_self
    have hrest := valuesOf_fails v budget es fun e he => nodes e (List.mem_cons_of_mem _ he)
    rw [valuesOf]
    exact .bind (meaning_fails v budget e node) fun _ _ => .bind (settled_fails _ _) fun _ _ =>
      .bind hrest fun _ _ => failsOnly_pure _

theorem fieldsOf_fails (v : Version) (budget : Nat) :
    ∀ (ps : List (PropertyKey × Expr)), (∀ p ∈ ps, ∃ place, tree.At place p.2) →
      FailsOnly tree.Explains (fieldsOf v budget ps)
  | [], _ => failsOnly_ok _
  | (key, e) :: ps, nodes => by
    obtain ⟨place, node⟩ := nodes (key, e) List.mem_cons_self
    have hrest := fieldsOf_fails v budget ps fun p hp => nodes p (List.mem_cons_of_mem _ hp)
    rw [fieldsOf]
    exact .bind (meaning_fails v budget e node) fun _ _ => .bind (settled_fails _ _) fun _ _ =>
      .bind hrest fun _ _ => failsOnly_pure _

end

theorem evaluate_fails (tree : Expr) (v : Version) :
    FailsOnly tree.Explains (tree.evaluate v) :=
  (meaning_fails v evaluationLimit tree .whole).bind fun _ _ => settled_fails _ _

end Expr

/-- What a source holds that is too large: a hexadecimal number, or something in its expression. -/
inductive Oversized (source : Text) : SizeError → Prop
  | hexNumber {before rest : Text} (written : source = before ++ rest)
      (long : Piece.HexTooLong rest) : Oversized source .numberTooLong
  | expression {tree : Expr} (parsed : Expr.ofSource source = .ok tree) {size : SizeError}
      (large : tree.Oversized size) : Oversized source size

/-- A source that cannot be read is answered with a report, unless a number in it is too long. -/
theorem oversized_of_source {source : Text} {fault : SourceError} {size : SizeError}
    (h : Expr.ofSource source = .error fault)
    (hreport : (CompileError.source fault).report = .error size) : Oversized source size := by
  unfold Expr.ofSource at h
  split at h
  · rename_i e htokens
    cases h
    cases hfault : e.fault with
    | hexNumberTooLong =>
      rw [hfault] at hreport
      cases hreport
      obtain ⟨before, rest, rfl, hlong⟩ := listFrom_fails 0 Position.start source e htokens hfault
      exact .hexNumber rfl hlong
    | _ =>
      rw [hfault] at hreport
      exact nomatch hreport
  · rename_i tokens _
    have hsyntactic := ofTokens_fails tokens fault h
    cases fault with
    | tooDeep => exact nomatch hreport
    | fault what position =>
      cases what with
      | lexical flaw => exact hsyntactic.elim
      | _ => exact nomatch hreport

/-- An error of compiling that is no report tells what is too large in the source. -/
theorem oversized_of_compile {v : Version} {source : Text} {e : CompileError} {size : SizeError}
    (hcompile : compile v source = .error e) (hreport : e.report = .error size) :
    Oversized source size := by
  unfold compile at hcompile
  cases htree : Expr.ofSource source with
  | error fault =>
    rw [htree] at hcompile
    cases hcompile
    exact oversized_of_source htree hreport
  | ok tree =>
    rw [htree] at hcompile
    cases hvalue : tree.evaluate v with
    | error fault =>
      simp only [hvalue] at hcompile
      cases hcompile
      exact .expression htree (Expr.evaluate_fails tree v fault hvalue size hreport)
    | ok value =>
      simp only [hvalue] at hcompile
      cases value with
      | schema s => exact nomatch hcompile
      | _ =>
        cases hcompile
        exact nomatch hreport

/-- A source that holds nothing too large compiles to a schema, or it is answered with a report; and
any other error tells what is too large in the source. -/
theorem compile_failure (v : Version) (source : Text) :
    (∃ s, compile v source = .ok s) ∨
      (∃ e report, compile v source = .error e ∧ e.report = .ok report) ∨
      ∃ e size, compile v source = .error e ∧ e.report = .error size ∧ Oversized source size := by
  cases hcompile : compile v source with
  | ok s => exact .inl ⟨s, rfl⟩
  | error e =>
    refine .inr ?_
    cases hreport : e.report with
    | ok report => exact .inl ⟨e, report, rfl, hreport⟩
    | error size => exact .inr ⟨e, size, rfl, hreport, oversized_of_compile hcompile hreport⟩

/-- A number literal, a length, a count of repetitions and a precision that are too large. -/
theorem compile_tooLarge :
    (∃ e, compile .v3_24_2 (Text.ofString "z.literal(0x" ++ List.replicate 3600 'F'.toNat ++
        Text.ofString ")") = .error e ∧ e.report = .error .numberTooLong) ∧
      (∃ e, compile .v3_24_2 (Text.ofString "z.string().min(1" ++ List.replicate 400 '0'.toNat ++
        Text.ofString ")") = .error e ∧ e.report = .error .integerTooLarge) ∧
      (∃ e, compile .v3_24_2 "z.string().regex(/a\x7b4294967295\x7d/)" = .error e ∧
        e.report = .error .repetitionTooLarge) ∧
      ∃ e, compile .v3_24_2 "z.string().time(\x7bprecision: 4294967295\x7d)" = .error e ∧
        e.report = .error .repetitionTooLarge := by
  have hfailed {v : Version} {source : Text} {size : SizeError}
      (h : (match compile v source with
        | .ok _ => false
        | .error e => decide (e.report = .error size)) = true) :
      ∃ e, compile v source = .error e ∧ e.report = .error size := by
    cases hcompile : compile v source with
    | ok s =>
      rw [hcompile] at h
      exact nomatch h
    | error e =>
      rw [hcompile] at h
      exact ⟨e, rfl, of_decide_eq_true h⟩
  refine ⟨hfailed ?_, hfailed ?_, hfailed ?_, hfailed ?_⟩ <;> decide +kernel

end Conform
