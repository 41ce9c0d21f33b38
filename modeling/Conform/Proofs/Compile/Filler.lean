import Conform.Proofs.Compile.Places
import Conform.Proofs.Source.Boundaries

/-!
# White space and comments make no difference

White space and complete comments may be inserted wherever tokens are separate, next to each other
or not. The source keeps its tokens, and with them its tree and its schema or its error, all at
other places.

## Main definitions

- `Token.Boundary.filler_irrelevant` — what is inserted at a boundary makes no difference
-/

namespace Conform

/-- What two sources are read as is the same up to places if each answers as the other one. -/
theorem read_unplaced {x x' : Except SourceError Expr}
    (h : Parsing.Answers .any (Expr.Alike .any) x x')
    (h' : Parsing.Answers .any (Expr.Alike .any) x' x) :
    (x'.map Expr.unplaced).mapError SourceError.unplaced =
      (x.map Expr.unplaced).mapError SourceError.unplaced := by
  cases h with
  | tooDeep =>
    cases h' with
    | tooDeep => rfl
  | refused same =>
    exact congrArg (fun fault => Except.error (SourceError.fault fault Position.start)) same.symm
  | read alike => exact congrArg Except.ok alike.unplaced.symm

theorem EvaluationError.Alike.unplaced {R : Places} {e e' : EvaluationError} (h : e.Alike R e') :
    e.unplaced = e'.unplaced := by
  cases h <;> rfl

theorem CompileError.Alike.unplaced {R : Places} {e e' : CompileError} (h : e.Alike R e') :
    e.unplaced = e'.unplaced := by
  cases h with
  | refused same =>
    exact congrArg (fun fault => CompileError.source (.fault fault Position.start)) same
  | evaluation alike => exact congrArg CompileError.evaluation alike.unplaced
  | notSchema => rfl

/-- Two sources compile to the same schema, or to the same error up to places, if each compiles as
the other one. -/
theorem compiled_unplaced {x x' : Except CompileError Schema} (h : Compiles .any x x')
    (h' : Compiles .any x' x) :
    x'.mapError CompileError.unplaced = x.mapError CompileError.unplaced := by
  cases h with
  | tooDeep =>
    cases h' with
    | tooDeep => rfl
    | failed alike => exact nomatch alike
  | failed alike => exact congrArg Except.error alike.unplaced.symm
  | schema s => rfl

/-- White space and complete comments make no difference between tokens: the source has the same
tokens at other places. So it is read as the same tree up to places or refused for the same reason,
and it compiles to the same schema or fails in the same way, in every version. -/
theorem Token.Boundary.filler_irrelevant {source filler : Text} {tokens : List Token} {place : Nat}
    (h : Token.ofSource source = .ok tokens) (hplace : Token.Boundary source tokens place)
    (hfiller : filler.IsFiller) :
    let changed := source.take place ++ filler ++ source.drop place
    (∃ tokens', Token.ofSource changed = .ok tokens' ∧
      tokens'.map Token.unplaced = tokens.map Token.unplaced) ∧
    ((Expr.ofSource changed).map Expr.unplaced).mapError SourceError.unplaced =
      ((Expr.ofSource source).map Expr.unplaced).mapError SourceError.unplaced ∧
    ∀ v, (compile v changed).mapError CompileError.unplaced =
      (compile v source).mapError CompileError.unplaced := by
  intro changed
  obtain ⟨tokens', h', halike⟩ := hplace.insert h hfiller
  refine ⟨⟨tokens', h', halike.unplaced.symm⟩, ?_, fun v => ?_⟩
  · unfold Expr.ofSource
    rw [h, h']
    exact read_unplaced (Expr.ofTokens_alike halike trivial)
      (Expr.ofTokens_alike halike.symm trivial)
  · exact compiled_unplaced (compile_alike h h' halike trivial v)
      (compile_alike h' h halike.symm trivial v)

/-- Two comments between a comma and a regular expression, which begins as they do. -/
theorem Token.Boundary.filler_irrelevant_slash :
    let source : Text := "z.m(1.,/a/g)"
    let filler : Text := "//x\n/* y */"
    let changed : Text := "z.m(1.,//x\n/* y *//a/g)"
    let tokens : List Token :=
      [⟨.identifier, "z", ⟨⟨1, 1⟩, ⟨1, 2⟩⟩⟩, ⟨.dot, ".", ⟨⟨1, 2⟩, ⟨1, 3⟩⟩⟩,
        ⟨.identifier, "m", ⟨⟨1, 3⟩, ⟨1, 4⟩⟩⟩, ⟨.leftParen, "(", ⟨⟨1, 4⟩, ⟨1, 5⟩⟩⟩,
        ⟨.number, "1.", ⟨⟨1, 5⟩, ⟨1, 7⟩⟩⟩, ⟨.comma, ",", ⟨⟨1, 7⟩, ⟨1, 8⟩⟩⟩,
        ⟨.regex, "a/g", ⟨⟨1, 8⟩, ⟨1, 12⟩⟩⟩, ⟨.rightParen, ")", ⟨⟨1, 12⟩, ⟨1, 13⟩⟩⟩,
        ⟨.endOfSource, [], ⟨⟨1, 13⟩, ⟨1, 13⟩⟩⟩]
    Token.ofSource source = .ok tokens ∧ Token.Boundary source tokens 7 ∧ filler.IsFiller ∧
      ∃ tokens', Token.ofSource changed = .ok tokens' ∧
        tokens'.map Token.unplaced = tokens.map Token.unplaced := by
  intro source filler changed tokens
  have htokens : Token.ofSource source = .ok tokens := by decide +kernel
  have hslice : source.slice 6 7 = [','.toNat] := by decide
  have hcovers : Token.Covers source ⟨.comma, ",", ⟨⟨1, 7⟩, ⟨1, 8⟩⟩⟩ 6 7 := by
    refine ⟨by decide, by decide, by decide, ?_⟩
    rw [hslice]
    exact .mark rfl
  have hplace := (Token.Boundary.of_covers htokens (by decide) hcovers).2
  have hblock : ¬['*'.toNat, '/'.toNat] <:+: [' '.toNat, 'y'.toNat, ' '.toNat] ++ ['*'.toNat] := by
    decide
  have hline : Text.newline ∉ ['x'.toNat] := by decide
  have hfiller : filler.IsFiller := .line hline (.block hblock .nil)
  have hchanged : source.take 7 ++ filler ++ source.drop 7 = changed := by decide
  rw [← hchanged]
  exact ⟨htokens, hplace, hfiller,
    (Token.Boundary.filler_irrelevant htokens hplace hfiller).1⟩

end Conform
