import Conform.Pattern.Reader
import Conform.Proofs.Failing
import Conform.Source.Parsing
import Mathlib.Data.List.TakeWhile

/-!
# The faults of sources

A piece of source is refused with a fault that is reported, except for a hexadecimal number that is
too long to be written in decimal. The reading of expressions has no part in that: it fails over
tokens only.

## Main definitions

- `Piece.HexTooLong` — a text begins with such a number
- `listFrom_fails` — the tokens of a source
- `SourceError.Syntactic`, `ofTokens_fails` — the expression of tokens
-/

namespace Conform

section Scanning

/-- The source does not hold a hexadecimal number that is too long. -/
def Flaw.Ordinary (flaw : Flaw) : Prop := flaw.fault ≠ .hexNumberTooLong

namespace Piece

theorem decimalNumber_fails (t : Text) : FailsOnly Flaw.Ordinary (decimalNumber t) := by
  unfold decimalNumber
  dsimp only
  split
  · split
    · exact (failsOnly_error _).mpr nofun
    · exact failsOnly_ok _
  · exact failsOnly_ok _

/-- A hexadecimal number that begins a text and is too long. -/
def HexTooLong (t : Text) : Prop :=
  ∃ x digits after, t = '0'.toNat :: x :: (digits ++ after) ∧ (x = 'x'.toNat ∨ x = 'X'.toNat) ∧
    (∀ c ∈ digits, (Text.hexValue? c).isSome) ∧
    (Number.int (Regex.digitsIn 16 digits)).isTooLong = true

theorem number_fails (t : Text) :
    FailsOnly (fun flaw => flaw.fault = .hexNumberTooLong → HexTooLong t) (number t) := by
  have hdecimal : FailsOnly (fun flaw => flaw.fault = .hexNumberTooLong → HexTooLong t)
      (decimalNumber t) :=
    (decimalNumber_fails t).mono fun flaw hflaw htoo => absurd htoo hflaw
  unfold number
  split
  · rename_i z x rest
    split
    · rename_i hmark
      obtain ⟨rfl, hx⟩ := hmark
      unfold hexNumber
      dsimp only
      split
      · exact (failsOnly_error _).mpr nofun
      · split
        · rename_i hlarge
          refine (failsOnly_error _).mpr fun _ => ⟨x, _, _,
            congrArg (_ :: x :: ·) (List.takeWhile_append_dropWhile).symm, hx,
            fun c hc => List.mem_takeWhile_imp (p := fun c => (Text.hexValue? c).isSome) hc, ?_⟩
          rw [Number.isTooLong, Int.natAbs_natCast]
          exact decide_eq_true hlarge
        · exact failsOnly_ok _
    · exact hdecimal
  · exact hdecimal

theorem numericEscape_fails (letter : CodePoint) (t : Text) :
    FailsOnly (· ≠ .hexNumberTooLong) (numericEscape letter t) := by
  unfold numericEscape
  dsimp only
  split
  · split
    · exact (failsOnly_error _).mpr nofun
    · split
      · exact failsOnly_ok _
      · exact (failsOnly_error _).mpr nofun
  · split
    · exact failsOnly_ok _
    · unfold escapeFault
      split <;> exact (failsOnly_error _).mpr nofun

theorem escape_fails (t : Text) : FailsOnly (· ≠ .hexNumberTooLong) (escape t) := by
  unfold escape
  split
  · exact (failsOnly_error _).mpr nofun
  · split
    · exact failsOnly_ok _
    · split
      · exact failsOnly_ok _
      · split
        · rename_i c cs _ _ _ _
          intro fault hfault
          cases hescape : numericEscape c cs with
          | ok found =>
            rw [hescape] at hfault
            exact nomatch hfault
          | error fault' =>
            rw [hescape] at hfault
            cases hfault
            exact numericEscape_fails c cs _ hescape
        · exact failsOnly_ok _

theorem stringRest_fails (quote : CodePoint) (skip offset : Nat) (value t : Text) :
    FailsOnly Flaw.Ordinary (stringRest quote skip offset value t) := by
  fun_induction stringRest with
  | case1 => exact (failsOnly_error _).mpr nofun
  | case2 skip offset value c cs ih => exact ih
  | case3 => exact failsOnly_ok _
  | case4 => exact (failsOnly_error _).mpr nofun
  | case5 => exact (failsOnly_error _).mpr nofun
  | case6 offset value cs _ _ _ part length hescape ih => exact ih
  | case7 _ _ cs fault hescape =>
    exact (failsOnly_error _).mpr (escape_fails cs fault hescape)
  | case8 _ _ _ _ _ _ _ _ ih => exact ih

theorem regex_fails (t : Text) : FailsOnly Flaw.Ordinary (regex t) := by
  unfold regex
  split
  · exact (failsOnly_error _).mpr nofun
  · split
    · exact (failsOnly_error _).mpr nofun
    · exact failsOnly_ok _

theorem mark_fails (c : CodePoint) (cs : Text) : FailsOnly Flaw.Ordinary (mark c cs) := by
  unfold mark
  split
  · exact failsOnly_ok _
  · split
    · exact failsOnly_ok _
    · split
      · exact failsOnly_ok _
      · exact (failsOnly_error _).mpr nofun

theorem scan_fails (c : CodePoint) (cs : Text) :
    FailsOnly (fun flaw => flaw.fault = .hexNumberTooLong → HexTooLong (c :: cs)) (scan c cs) := by
  have hordinary {x : Except Flaw Piece} (hx : FailsOnly Flaw.Ordinary x) :
      FailsOnly (fun flaw => flaw.fault = .hexNumberTooLong → HexTooLong (c :: cs)) x :=
    hx.mono fun flaw hflaw htoo => absurd htoo hflaw
  unfold scan
  split
  · exact failsOnly_ok _
  · split
    · exact failsOnly_ok _
    · split
      · split
        · exact failsOnly_ok _
        · exact hordinary ((failsOnly_error _).mpr nofun)
      · split
        · exact failsOnly_ok _
        · split
          · exact number_fails _
          · split
            · exact hordinary (stringRest_fails _ _ _ _ _)
            · split
              · exact hordinary (regex_fails _)
              · exact hordinary (mark_fails _ _)

end Piece

/-- The tokens of a source cannot be told only if one of its pieces is faulty. -/
theorem listFrom_fails (skip : Nat) (p : Position) (t : Text) :
    FailsOnly (fun e => e.fault = .hexNumberTooLong → ∃ before rest, t = before ++ rest ∧
      Piece.HexTooLong rest) (Token.listFrom skip p t) := by
  -- What is found in the rest of the source is found in the source.
  have hrest {c : CodePoint} {cs : Text} {e : LexicalError}
      (h : e.fault = .hexNumberTooLong → ∃ before rest, cs = before ++ rest ∧
        Piece.HexTooLong rest) (he : e.fault = .hexNumberTooLong) :
      ∃ before rest, c :: cs = before ++ rest ∧ Piece.HexTooLong rest := by
    obtain ⟨before, rest, rfl, hhex⟩ := h he
    exact ⟨c :: before, rest, rfl, hhex⟩
  fun_induction Token.listFrom with
  | case1 => exact failsOnly_ok _
  | case2 skip p c cs ih => exact ih.mono fun _ => hrest
  | case3 p c cs flaw hscan =>
    exact (failsOnly_error _).mpr fun he => ⟨[], c :: cs, rfl, Piece.scan_fails c cs flaw hscan he⟩
  | case4 p c cs n hscan ih => exact ih.mono fun _ => hrest
  | case5 p c cs kind value n hscan e herror ih =>
    exact (failsOnly_error _).mpr (hrest (ih e herror))
  | case6 => exact failsOnly_ok _

end Scanning

section Parsing

/-- The error is not about a single piece of source. -/
def SourceError.Syntactic : SourceError → Prop
  | .fault (.lexical _) _ => False
  | _ => True

namespace Parsing

/-- A reading step fails only over tokens, not over pieces of source. -/
def Syntactic {α : Type} (m : Parsing α) : Prop :=
  ∀ s, FailsOnly SourceError.Syntactic (m.run s)

variable {α β : Type} {m : Parsing α}

theorem syntactic_pure (a : α) : Syntactic (pure a) := fun _ => failsOnly_ok _

theorem Syntactic.bind {f : α → Parsing β} (hm : Syntactic m) (hf : ∀ a, Syntactic (f a)) :
    Syntactic (m >>= f) := by
  intro s
  rw [StateT.run_bind]
  exact (hm s).bind fun found _ => hf found.1 found.2

theorem Syntactic.ite {P : Prop} [Decidable P] {m' : Parsing α} (hm : Syntactic m)
    (hm' : Syntactic m') : Syntactic (if P then m else m') := by
  split
  · exact hm
  · exact hm'

theorem syntactic_tooDeep : Syntactic (throw .tooDeep : Parsing α) :=
  fun _ => (failsOnly_error _).mpr trivial

theorem syntactic_refuse {fault : SyntaxFault} (place : Token)
    (hfault : ∀ flaw, fault ≠ .lexical flaw) : Syntactic (refuse fault place : Parsing α) := by
  intro s
  refine (failsOnly_error _).mpr ?_
  cases fault with
  | lexical flaw => exact absurd rfl (hfault flaw)
  | _ => trivial

theorem syntactic_peek : Syntactic peek := fun _ => failsOnly_ok _

theorem syntactic_pass (t : Token) : Syntactic (pass t) := fun _ => failsOnly_ok _

theorem syntactic_spanFrom (start : Token) : Syntactic (spanFrom start) := fun _ => failsOnly_ok _

theorem syntactic_accept (kind : TokenKind) : Syntactic (accept kind) :=
  .bind syntactic_peek fun t => .ite (.bind (syntactic_pass t) fun _ => syntactic_pure _)
    (syntactic_pure _)

theorem syntactic_expect (kind : TokenKind) (what : Text) : Syntactic (expect kind what) :=
  .bind syntactic_peek fun t => .ite (.bind (syntactic_pass t) fun _ => syntactic_pure _)
    (syntactic_refuse t (by simp))

theorem syntactic_take : Syntactic take :=
  .bind syntactic_peek fun t => .ite (.bind (syntactic_pass t) fun _ => syntactic_pure _)
    (syntactic_pure _)

theorem syntactic_numberOf (t : Token) : Syntactic (numberOf t) := by
  unfold numberOf
  split
  · exact syntactic_pure _
  · exact syntactic_refuse t (by simp)

theorem syntactic_propertyName (t : Token) : Syntactic (propertyName t) := by
  unfold propertyName
  split
  · exact syntactic_pure _
  · exact syntactic_pure _
  · exact .bind (syntactic_numberOf t) fun _ => syntactic_pure _
  · exact syntactic_refuse t (by simp)
  · exact syntactic_refuse t (by simp)

theorem syntactic_refuseArrow : Syntactic refuseArrow :=
  .bind syntactic_peek fun t => .ite (syntactic_refuse t (by simp)) (syntactic_pure _)

theorem syntactic_refuseStatement (t : Token) : Syntactic (refuseStatement t) :=
  .ite (syntactic_refuse t (by simp)) (syntactic_pure _)

/-- The steps that read expressions fail only over tokens. -/
structure SyntacticUpTo (fuel : Nat) : Prop where
  expression : ∀ depth, Syntactic (expression fuel depth)
  postfixes : ∀ depth start e, Syntactic (postfixes fuel depth start e)
  sequence : ∀ depth closing what, Syntactic (sequence fuel depth closing what)
  properties : ∀ depth, Syntactic (properties fuel depth)
  primary : ∀ depth, Syntactic (primary fuel depth)

section Steps

variable {fuel : Nat}

theorem syntactic_expression (ih : SyntacticUpTo fuel) (depth : Nat) :
    Syntactic (expression (fuel + 1) depth) := by
  rw [expression]
  refine .ite (.bind syntactic_tooDeep fun _ => ?_) ?_
  all_goals
    refine .bind syntactic_peek fun start => ?_
    refine .bind (syntactic_refuseStatement start) fun _ => ?_
    refine .bind (ih.primary _) fun e => ?_
    refine .bind (ih.postfixes _ start e) fun e => ?_
    exact .bind syntactic_refuseArrow fun _ => syntactic_pure e

theorem syntactic_postfixes (ih : SyntacticUpTo fuel) (depth : Nat) (start : Token) (e : Expr) :
    Syntactic (postfixes (fuel + 1) depth start e) := by
  rw [postfixes]
  refine .bind (syntactic_accept _) fun dot => .ite ?_ ?_
  · refine .bind (syntactic_expect _ _) fun name => ?_
    exact .bind (syntactic_spanFrom _) fun span => ih.postfixes _ _ _
  · refine .bind (syntactic_accept _) fun called => .ite ?_ (syntactic_pure e)
    refine .bind (ih.sequence _ _ _) fun arguments => ?_
    exact .bind (syntactic_spanFrom _) fun span => ih.postfixes _ _ _

theorem syntactic_sequence (ih : SyntacticUpTo fuel) (depth : Nat) (closing : TokenKind)
    (what : Text) : Syntactic (sequence (fuel + 1) depth closing what) := by
  rw [sequence]
  refine .bind syntactic_peek fun t => .ite ?_ (.ite (syntactic_refuse t (by simp)) ?_)
  · exact .bind (syntactic_pass t) fun _ => syntactic_pure _
  · refine .bind (ih.expression _) fun e => ?_
    refine .bind (syntactic_accept _) fun comma => .ite ?_ ?_
    · exact .bind (ih.sequence _ _ _) fun es => syntactic_pure _
    · exact .bind (syntactic_expect _ _) fun _ => syntactic_pure _

theorem syntactic_properties (ih : SyntacticUpTo fuel) (depth : Nat) :
    Syntactic (properties (fuel + 1) depth) := by
  rw [properties]
  refine .bind syntactic_peek fun t => .ite ?_ ?_
  · exact .bind (syntactic_pass t) fun _ => syntactic_pure _
  · refine .bind syntactic_take fun keyToken => ?_
    refine .bind (syntactic_propertyName keyToken) fun key => ?_
    refine .bind syntactic_peek fun next => ?_
    refine .ite (.bind (syntactic_refuse keyToken (by simp)) fun _ => ?_) ?_
    all_goals
      refine .bind (syntactic_expect _ _) fun _ => ?_
      refine .bind (ih.expression _) fun e => ?_
      refine .bind (syntactic_spanFrom _) fun span => ?_
      refine .bind (syntactic_accept _) fun comma => .ite ?_ ?_
      · exact .bind (ih.properties _) fun rest => syntactic_pure _
      · exact .bind (syntactic_expect _ _) fun _ => syntactic_pure _

/-- A number behind a sign. -/
theorem syntactic_signed (t : Token) (sign : Number → Number) : Syntactic (do
    let operand ← expect .number "a number"
    let n ← numberOf operand
    return Expr.literal (← spanFrom t) (.number (sign n))) :=
  .bind (syntactic_expect _ _) fun operand => .bind (syntactic_numberOf operand) fun _ =>
    .bind (syntactic_spanFrom t) fun _ => syntactic_pure _

theorem syntactic_primary (ih : SyntacticUpTo fuel) (depth : Nat) :
    Syntactic (primary (fuel + 1) depth) := by
  rw [primary]
  refine .bind syntactic_take fun t => ?_
  split
  · split
    · exact syntactic_pure _
    · exact syntactic_pure _
  · exact syntactic_pure _
  · exact .bind (syntactic_numberOf t) fun n => syntactic_pure _
  · exact syntactic_signed t .neg
  · exact syntactic_signed t id
  · exact syntactic_pure _
  · exact .bind (ih.sequence _ _ _) fun es => .bind (syntactic_spanFrom t) fun _ =>
      syntactic_pure _
  · exact .bind (ih.properties _) fun ps => .bind (syntactic_spanFrom t) fun _ =>
      syntactic_pure _
  · refine .bind (ih.expression _) fun e => ?_
    refine .bind (syntactic_expect _ _) fun _ => ?_
    exact .bind syntactic_refuseArrow fun _ => syntactic_pure e
  · exact syntactic_refuse t (by simp)
  · exact syntactic_refuse t (by simp)
  · exact syntactic_refuse t (by simp)

end Steps

theorem syntacticUpTo (fuel : Nat) : SyntacticUpTo fuel := by
  induction fuel with
  | zero =>
    constructor <;> intros
    · rw [expression]
      exact syntactic_tooDeep
    · rw [postfixes]
      exact syntactic_tooDeep
    · rw [sequence]
      exact syntactic_tooDeep
    · rw [properties]
      exact syntactic_tooDeep
    · rw [primary]
      exact syntactic_tooDeep
  | succ fuel ih =>
    exact ⟨syntactic_expression ih, syntactic_postfixes ih, syntactic_sequence ih,
      syntactic_properties ih, syntactic_primary ih⟩

end Parsing

/-- Reading tokens does not fail over a piece of source. -/
theorem ofTokens_fails (tokens : List Token) :
    FailsOnly SourceError.Syntactic (Expr.ofTokens tokens) := by
  have hsource (fuel depth : Nat) : Parsing.Syntactic (Parsing.source fuel depth) := by
    have hrest : Parsing.Syntactic (do
        let e ← Parsing.expression fuel depth
        let _ ← Parsing.accept .semicolon
        let trailing ← Parsing.peek
        if trailing.kind = .endOfSource then return e
        else Parsing.refuse (.trailing trailing) trailing) :=
      .bind ((Parsing.syntacticUpTo fuel).expression depth) fun e =>
        .bind (Parsing.syntactic_accept _) fun _ => .bind Parsing.syntactic_peek fun trailing =>
          .ite (Parsing.syntactic_pure e) (Parsing.syntactic_refuse trailing (by simp))
    exact .bind Parsing.syntactic_peek fun first =>
      .ite (.bind (Parsing.syntactic_refuse first (by simp)) fun _ => hrest) hrest
  exact (hsource _ _ _).bind fun found _ => failsOnly_ok found.1

end Parsing

end Conform
