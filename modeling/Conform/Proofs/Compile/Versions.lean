import Conform.Proofs.Compile.Built

/-!
# Newer versions compile what older ones do

A version has all that an older one has, under the same names: no name is given to something else
and no method of all schemas takes the name of a method that some schemas have of their own. What
an expression stands for in a version it stands for in every newer one.

## Main definitions

- `find?_mono` — names found in a version are found in newer ones
- `Schema.method?_mono` — so are the methods of schemas
- `Evaluation.Keeps` — one evaluation gives what another one gives
- `meaning_mono` — along an expression
- `compile_mono` — for a whole source
-/

namespace Conform

variable {older newer : Version}

namespace Version

theorem includes_mono (h : older.rank ≤ newer.rank) {since : Version}
    (hsince : older.includes since = true) : newer.includes since = true :=
  decide_eq_true (Nat.le_trans (of_decide_eq_true hsince) h)

section Names

variable {α : Type} {all : List α} {name : α → Text} {since : α → Version} {text : Text} {x : α}

/-- What can be found by a name has it. -/
theorem mem_names {p : α → Bool} (hp : ∀ y, p y = true → (name y == text) = true)
    (hfind : all.find? p = some x) : text ∈ all.map name :=
  List.mem_map.mpr ⟨x, List.mem_of_find?_eq_some hfind, eq_of_beq (hp x (List.find?_some hfind))⟩

/-- Of things with different names the one found by its name in a version is the one found in a
newer version, where more of them are to choose from. -/
theorem find?_mono (hnames : (all.map name).Nodup) (h : older.rank ≤ newer.rank)
    (hfind : (all.find? fun y => name y == text && older.includes (since y)) = some x) :
    (all.find? fun y => name y == text && newer.includes (since y)) = some x := by
  induction all with
  | nil => exact nomatch hfind
  | cons y all ih =>
    rw [List.map_cons, List.nodup_cons] at hnames
    rw [List.find?_cons] at hfind ⊢
    cases hold : name y == text && older.includes (since y) with
    | true =>
      rw [hold] at hfind
      have hboth := Bool.and_eq_true_iff.mp hold
      rw [hboth.1, includes_mono h hboth.2]
      exact hfind
    | false =>
      rw [hold] at hfind
      -- If only the newer version had `y` under this name, there would be two things with it.
      have htext : text ∈ all.map name :=
        mem_names (fun _ hy => (Bool.and_eq_true_iff.mp hy).1) hfind
      have hother : (name y == text) = false :=
        beq_false_of_ne fun hname => hnames.1 (hname ▸ htext)
      rw [hother]
      exact ih hnames.2 hfind

end Names

variable {name : Text}

theorem constructor?_mono (h : older.rank ≤ newer.rank) {c : Constructor}
    (hfind : older.constructor? name = some c) : newer.constructor? name = some c :=
  find?_mono (by decide) h hfind

theorem commonMethod?_mono (h : older.rank ≤ newer.rank) {m : CommonMethod}
    (hfind : older.commonMethod? name = some m) : newer.commonMethod? name = some m :=
  find?_mono (by decide) h hfind

theorem stringMethod?_mono (h : older.rank ≤ newer.rank) {m : StringMethod}
    (hfind : older.stringMethod? name = some m) : newer.stringMethod? name = some m :=
  find?_mono (by decide) h hfind

theorem numberMethod?_mono (h : older.rank ≤ newer.rank) {m : NumberMethod}
    (hfind : older.numberMethod? name = some m) : newer.numberMethod? name = some m :=
  find?_mono (by decide) h hfind

theorem enumMethod?_mono (h : older.rank ≤ newer.rank) {m : EnumMethod}
    (hfind : older.enumMethod? name = some m) : newer.enumMethod? name = some m :=
  find?_mono (by decide) h hfind

/-- No version has a method of every schema with a name that none of them has. -/
theorem commonMethod?_eq_none (v : Version) (h : name ∉ CommonMethod.all.map CommonMethod.name) :
    v.commonMethod? name = none := by
  refine List.find?_eq_none.mpr fun m hm hfound => h ?_
  rw [← eq_of_beq (Bool.and_eq_true_iff.mp hfound).1]
  exact List.mem_map_of_mem hm

end Version

namespace Schema

open Version

variable {s : Schema} {name : Text} {m : Method}

theorem ownMethod?_mono (h : older.rank ≤ newer.rank) (hfind : s.ownMethod? older name = some m) :
    s.ownMethod? newer name = some m := by
  obtain ⟨description, form⟩ := s
  cases form with
  | string checks =>
    obtain ⟨own, hown, rfl⟩ := Option.map_eq_some_iff.mp hfind
    exact Option.map_eq_some_iff.mpr ⟨own, stringMethod?_mono h hown, rfl⟩
  | number checks =>
    obtain ⟨own, hown, rfl⟩ := Option.map_eq_some_iff.mp hfind
    exact Option.map_eq_some_iff.mpr ⟨own, numberMethod?_mono h hown, rfl⟩
  | enum options =>
    obtain ⟨own, hown, rfl⟩ := Option.map_eq_some_iff.mp hfind
    exact Option.map_eq_some_iff.mpr ⟨own, enumMethod?_mono h hown, rfl⟩
  | _ => exact hfind

/-- The names of the methods that only some schemas have. -/
def ownNames : List Text :=
  [StringMethod.all.map StringMethod.name, NumberMethod.all.map NumberMethod.name,
    ArrayMethod.all.map ArrayMethod.name, ObjectMethod.all.map ObjectMethod.name,
    EnumMethod.all.map EnumMethod.name, [restName, unwrapName, removeDefaultName]].flatten

theorem mem_ownNames {v : Version} (hfind : s.ownMethod? v name = some m) : name ∈ ownNames := by
  obtain ⟨description, form⟩ := s
  rw [ownNames, List.mem_flatten]
  cases form with
  | string checks =>
    obtain ⟨own, hown, _⟩ := Option.map_eq_some_iff.mp hfind
    exact ⟨_, .head _, mem_names (fun _ hy => (Bool.and_eq_true_iff.mp hy).1) hown⟩
  | number checks =>
    obtain ⟨own, hown, _⟩ := Option.map_eq_some_iff.mp hfind
    exact ⟨_, .tail _ (.head _), mem_names (fun _ hy => (Bool.and_eq_true_iff.mp hy).1) hown⟩
  | array element checks =>
    obtain ⟨own, hown, _⟩ := Option.map_eq_some_iff.mp hfind
    exact ⟨_, .tail _ (.tail _ (.head _)), mem_names (fun _ => id) hown⟩
  | object shape unknownKeys catchall strictMessage =>
    obtain ⟨own, hown, _⟩ := Option.map_eq_some_iff.mp hfind
    exact ⟨_, .tail _ (.tail _ (.tail _ (.head _))), mem_names (fun _ => id) hown⟩
  | enum options =>
    obtain ⟨own, hown, _⟩ := Option.map_eq_some_iff.mp hfind
    exact ⟨_, .tail _ (.tail _ (.tail _ (.tail _ (.head _)))),
      mem_names (fun _ hy => (Bool.and_eq_true_iff.mp hy).1) hown⟩
  | tuple | optional | nullable | default =>
    have hname := (Option.ite_none_right_eq_some.mp hfind).1
    exact ⟨_, .tail _ (.tail _ (.tail _ (.tail _ (.tail _ (.head _))))), by simp [hname]⟩
  | _ => exact nomatch hfind

/-- The methods of every schema and those that only some schemas have are told apart by their
names. -/
theorem ownNames_disjoint : ∀ t ∈ ownNames, t ∉ CommonMethod.all.map CommonMethod.name := by
  decide

/-- A schema keeps its methods in newer versions. -/
theorem method?_mono (h : older.rank ≤ newer.rank) (hfind : s.method? older name = some m) :
    s.method? newer name = some m := by
  unfold method? at hfind ⊢
  cases hcommon : older.commonMethod? name with
  | some common =>
    rw [commonMethod?_mono h hcommon]
    rwa [hcommon] at hfind
  | none =>
    rw [hcommon] at hfind
    rw [newer.commonMethod?_eq_none (ownNames_disjoint name (mem_ownNames hfind))]
    exact ownMethod?_mono h hfind

end Schema

/-- What the first evaluation gives the second one gives, too. -/
def Evaluation.Keeps {α : Type} (x y : Evaluation α) : Prop := ∀ a, x = .ok a → y = .ok a

namespace Evaluation

variable {α β : Type} {x y : Evaluation α} {f g : α → Evaluation β}

theorem Keeps.refl (x : Evaluation α) : Keeps x x := fun _ => id

theorem Keeps.bind (hx : Keeps x y) (hf : ∀ a, Keeps (f a) (g a)) :
    Keeps (x >>= f) (y >>= g) := by
  intro b h
  obtain ⟨a, ha, hb⟩ := bind_eq_ok.mp h
  exact bind_eq_ok.mpr ⟨a, hx a ha, hf a b hb⟩

/-- The second evaluation has at least the budget of the first one. -/
theorem Keeps.within {less more : Nat} (hbudget : less ≤ more) {p q : PUnit → Evaluation α}
    (h : Keeps (p ()) (q ())) :
    Keeps (if less = 0 then throw .tooDeep >>= p else p ())
      (if more = 0 then throw .tooDeep >>= q else q ()) := by
  by_cases hless : less = 0
  · rw [if_pos hless]
    exact fun _ hthrow => nomatch hthrow
  · have hmore : more ≠ 0 := by omega
    rw [if_neg hless, if_neg hmore]
    exact h

end Evaluation

open Evaluation

theorem memberMeaning_mono (h : older.rank ≤ newer.rank) (node target : Expr) (name : Text)
    (meaning : Meaning) :
    Keeps (memberMeaning older node target name meaning)
      (memberMeaning newer node target name meaning) := by
  intro result hold
  unfold memberMeaning at hold ⊢
  split at hold
  · split at hold
    · rename_i c hc
      rw [Version.constructor?_mono h hc]
      exact hold
    · exact nomatch hold
  · split at hold
    · rename_i m hm
      rw [Schema.method?_mono h hm]
      exact hold
    · exact nomatch hold
  all_goals exact nomatch hold

mutual

/-- What an expression stands for in a version it stands for in a newer one, and with more room. -/
theorem meaning_mono (h : older.rank ≤ newer.rank) {less more : Nat} (hbudget : less ≤ more) :
    ∀ e : Expr, Keeps (e.meaning older less) (e.meaning newer more)
  | .identifier span name => by
    rw [Expr.meaning, Expr.meaning]
    exact .refl _
  | .literal span value => .refl _
  | .regex span source flags => .refl _
  | .array span elements => by
    rw [Expr.meaning, Expr.meaning]
    have helements := valuesOf_mono h (Nat.sub_le_sub_right hbudget 1) elements
    exact .within hbudget (.bind helements fun _ => .refl _)
  | .object span properties => by
    rw [Expr.meaning, Expr.meaning]
    have hproperties := fieldsOf_mono h (Nat.sub_le_sub_right hbudget 1) properties
    exact .within hbudget (.bind hproperties fun _ => .refl _)
  | .member span target name => by
    rw [Expr.meaning, Expr.meaning]
    have htarget := meaning_mono h (Nat.sub_le_sub_right hbudget 1) target
    exact .within hbudget
      (.bind htarget (memberMeaning_mono h (.member span target name) target name))
  | .call span callee arguments => by
    rw [Expr.meaning, Expr.meaning]
    have hcallee := meaning_mono h (Nat.sub_le_sub_right hbudget 1) callee
    have harguments := valuesOf_mono h (Nat.sub_le_sub_right hbudget 1) arguments
    refine .within hbudget (.bind hcallee fun meaning => ?_)
    cases meaning with
    | constructor c => exact .bind harguments fun _ => .refl _
    | method name m => exact .bind harguments fun _ => .refl _
    | value _ | root => exact .refl _

theorem valuesOf_mono (h : older.rank ≤ newer.rank) {less more : Nat} (hbudget : less ≤ more) :
    ∀ es : List Expr, Keeps (valuesOf older less es) (valuesOf newer more es)
  | [] => .refl _
  | e :: es => by
    rw [valuesOf, valuesOf]
    exact .bind (meaning_mono h hbudget e) fun _ => .bind (.refl _) fun _ =>
      .bind (valuesOf_mono h hbudget es) fun _ => .refl _

theorem fieldsOf_mono (h : older.rank ≤ newer.rank) {less more : Nat} (hbudget : less ≤ more) :
    ∀ ps : List (PropertyKey × Expr), Keeps (fieldsOf older less ps) (fieldsOf newer more ps)
  | [] => .refl _
  | (key, e) :: ps => by
    rw [fieldsOf, fieldsOf]
    exact .bind (meaning_mono h hbudget e) fun _ => .bind (.refl _) fun _ =>
      .bind (fieldsOf_mono h hbudget ps) fun _ => .refl _

end

theorem evaluate_mono (h : older.rank ≤ newer.rank) (e : Expr) :
    Keeps (e.evaluate older) (e.evaluate newer) :=
  .bind (meaning_mono h (Nat.le_refl _) e) fun _ => .refl _

/-- A source that compiles in a version compiles to the same schema in every newer version, and a
value has the same violations under both. -/
theorem compile_mono (h : older.rank ≤ newer.rank) {source : Text} {s : Schema}
    (hold : compile older source = .ok s) :
    compile newer source = .ok s ∧ ∀ (policyName : Option Text) (value : Value),
      (compile newer source).map (fun t => t.validate policyName value) =
        (compile older source).map fun t => t.validate policyName value := by
  have hnew : compile newer source = .ok s := by
    unfold compile at hold ⊢
    split at hold
    · exact nomatch hold
    · rename_i tree _
      split at hold
      · exact nomatch hold
      · rename_i found hevaluate
        rw [evaluate_mono h tree _ hevaluate]
        exact hold
      · exact nomatch hold
  exact ⟨hnew, fun policyName value => by rw [hnew, hold]⟩

/-- A source of the oldest version in the newest one. -/
theorem compile_mono_oldestToNewest :
    let source : Text := "z.object(\x7b a: z.array(z.number().int()) \x7d).strict()"
    ∃ s, Version.v3_18_0.rank ≤ Version.v3_24_2.rank ∧ compile .v3_18_0 source = .ok s ∧
      compile .v3_24_2 source = .ok s ∧ ∀ (policyName : Option Text) (value : Value),
        (compile .v3_24_2 source).map (fun t => t.validate policyName value) =
          (compile .v3_18_0 source).map fun t => t.validate policyName value := by
  intro source
  have hrank : Version.v3_18_0.rank ≤ Version.v3_24_2.rank := by decide
  have hold : compile .v3_18_0 source = .ok (.plain (.object
      [(Text.ofString "a", .plain (.array (.plain (.number [⟨.int, none⟩])) []))]
      (some .strict) none none)) := by with_unfolding_all rfl
  exact ⟨_, hrank, hold, compile_mono hrank hold⟩

end Conform
