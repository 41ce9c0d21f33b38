import Conform.Compile.Basic
import Conform.Proofs.Schema.Built

/-!
# Compiled schemas can be built

The values of expressions are put together from literals by calls of constructors and methods, so
that a source compiles to a schema that can be built.

## Main definitions

- `Meaning.Built` — what an expression stands for is built
- `meaning_built` — along an expression
- `compile_built` — for a whole source
-/

namespace Conform

/-- What an expression stands for is built: a value is, and so is the receiver of a method. -/
def Meaning.Built : Meaning → Prop
  | .value v => v.Built
  | .method name m =>
    ∃ (receiver : Schema) (version : Version),
      receiver.Built ∧ receiver.method? version name = some m
  | _ => True

theorem settled_built {node : Expr} {meaning : Meaning} {v : Value} (hmeaning : meaning.Built)
    (h : settled node meaning = .ok v) : v.Built := by
  cases meaning with
  | value w =>
    cases h
    exact hmeaning
  | _ => exact nomatch h

theorem memberMeaning_built {version : Version} {node target : Expr} {name : Text}
    {meaning result : Meaning} (hmeaning : meaning.Built)
    (h : memberMeaning version node target name meaning = .ok result) : result.Built := by
  unfold memberMeaning at h
  split at h
  · split at h
    · cases h
      trivial
    · exact nomatch h
  · split at h
    · rename_i hbound
      cases h
      exact ⟨_, version, hmeaning, hbound⟩
    · exact nomatch h
  all_goals exact nomatch h

theorem callResult_built {node : Expr} {name : Text} {build : Build Schema} {result : Meaning}
    (hbuild : ∀ s, build = .ok s → s.Built) (h : callResult node name build = .ok result) :
    result.Built := by
  unfold callResult at h
  split at h
  · cases h
    exact hbuild _ rfl
  all_goals exact nomatch h

/-- An evaluation that has a result was within its budget. -/
theorem eq_ok_of_budget {α : Type} {budget : Nat} {rest : PUnit → Evaluation α} {a : α}
    (h : (if budget = 0 then throw .tooDeep >>= rest else rest ()) = .ok a) : rest () = .ok a := by
  by_cases hbudget : budget = 0
  · rw [if_pos hbudget] at h
    exact nomatch h
  · rwa [if_neg hbudget] at h

mutual

/-- Expressions mean what can be built. -/
theorem meaning_built (version : Version) (budget : Nat) :
    ∀ (e : Expr) {meaning : Meaning}, e.meaning version budget = .ok meaning → meaning.Built
  | .identifier span name, meaning, h => by
    rw [Expr.meaning] at h
    split at h
    · cases h
      trivial
    · exact nomatch h
  | .literal span value, meaning, h => by
    cases h
    exact .scalar value
  | .regex span source flags, meaning, h => by
    obtain ⟨pattern, _, h⟩ := bind_eq_ok.mp h
    cases h
    exact .pattern pattern
  | .array span elements, meaning, h => by
    rw [Expr.meaning] at h
    replace h := eq_ok_of_budget h
    obtain ⟨values, hvalues, h⟩ := bind_eq_ok.mp h
    cases h
    exact .array (valuesOf_built version (budget - 1) elements hvalues)
  | .object span properties, meaning, h => by
    rw [Expr.meaning] at h
    replace h := eq_ok_of_budget h
    obtain ⟨fields, hfields, h⟩ := bind_eq_ok.mp h
    cases h
    -- A key that is written twice has been inserted twice, so no key occurs twice.
    refine .object (Fields.distinct_ofList fields) fun p hp => ?_
    exact fieldsOf_built version (budget - 1) properties hfields p (Fields.mem_ofList hp)
  | .member span target name, meaning, h => by
    rw [Expr.meaning] at h
    replace h := eq_ok_of_budget h
    obtain ⟨inner, hinner, h⟩ := bind_eq_ok.mp h
    exact memberMeaning_built (meaning_built version (budget - 1) target hinner) h
  | .call span callee arguments, meaning, h => by
    rw [Expr.meaning] at h
    replace h := eq_ok_of_budget h
    obtain ⟨inner, hinner, h⟩ := bind_eq_ok.mp h
    have hcallee := meaning_built version (budget - 1) callee hinner
    cases inner with
    | constructor c =>
      obtain ⟨args, hargs, h⟩ := bind_eq_ok.mp h
      have hbuilt := valuesOf_built version (budget - 1) arguments hargs
      exact callResult_built (fun s hs => .constructed c args hbuilt hs) h
    | method name m =>
      obtain ⟨args, hargs, h⟩ := bind_eq_ok.mp h
      have hbuilt := valuesOf_built version (budget - 1) arguments hargs
      obtain ⟨receiver, other, hreceiver, hbound⟩ := hcallee
      exact callResult_built
        (fun s hs => .called hreceiver other name hbound args hbuilt hs) h
    | value _ | root => exact nomatch h

theorem valuesOf_built (version : Version) (budget : Nat) :
    ∀ (es : List Expr) {values : List Value}, valuesOf version budget es = .ok values →
      ∀ v ∈ values, v.Built
  | [], values, h => by
    cases h
    exact fun v hv => absurd hv List.not_mem_nil
  | e :: es, values, h => by
    rw [valuesOf] at h
    obtain ⟨meaning, hmeaning, h⟩ := bind_eq_ok.mp h
    obtain ⟨value, hvalue, h⟩ := bind_eq_ok.mp h
    obtain ⟨rest, hrest, h⟩ := bind_eq_ok.mp h
    cases h
    exact List.forall_mem_cons.mpr ⟨settled_built (meaning_built version budget e hmeaning) hvalue,
      valuesOf_built version budget es hrest⟩

theorem fieldsOf_built (version : Version) (budget : Nat) :
    ∀ (ps : List (PropertyKey × Expr)) {fields : List (Text × Value)},
      fieldsOf version budget ps = .ok fields → ∀ p ∈ fields, p.2.Built
  | [], fields, h => by
    cases h
    exact fun p hp => absurd hp List.not_mem_nil
  | (key, e) :: ps, fields, h => by
    rw [fieldsOf] at h
    obtain ⟨meaning, hmeaning, h⟩ := bind_eq_ok.mp h
    obtain ⟨value, hvalue, h⟩ := bind_eq_ok.mp h
    obtain ⟨rest, hrest, h⟩ := bind_eq_ok.mp h
    cases h
    exact List.forall_mem_cons.mpr ⟨settled_built (meaning_built version budget e hmeaning) hvalue,
      fieldsOf_built version budget ps hrest⟩

end

/-- A source compiles to a schema that can be built. -/
theorem compile_built {version : Version} {source : Text} {s : Schema}
    (h : compile version source = .ok s) : s.Built := by
  unfold compile at h
  split at h
  · exact nomatch h
  · rename_i tree _
    split at h
    · exact nomatch h
    · rename_i found hevaluate
      cases h
      obtain ⟨meaning, hmeaning, hsettled⟩ := bind_eq_ok.mp hevaluate
      exact settled_built (meaning_built version Expr.evaluationLimit tree hmeaning) hsettled
    · exact nomatch h

end Conform
