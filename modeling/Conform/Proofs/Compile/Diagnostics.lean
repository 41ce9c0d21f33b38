import Conform.Proofs.Compile.Places
import Conform.Proofs.Source.Boundaries
import Conform.Proofs.Text.Splitting

/-!
# Where compile errors point

The position of a compile error is in its source: on one of its lines, at a code point of that line
or behind the last one. What is wrong with a piece of source is reported at a place inside it; all
other errors are reported at the beginning of a token, unless the source is nested too deeply.

## Main definitions

- `Position.PointsInto` — a position is on a line of a source
- `Places.at` — the places where tokens begin
- `compile_error_located` — where the errors of a source are reported
-/

namespace Conform

section Lines

/-- A position is on a line of a source, at one of its code points or behind the last one. -/
structure Position.PointsInto (source : Text) (p : Position) : Prop where
  line_pos : 1 ≤ p.line
  line_le : p.line ≤ 1 + source.count Text.newline
  column_pos : 1 ≤ p.column
  column_le : ∃ line, (source.splitAll Text.newline)[p.line - 1]? = some line ∧
    p.column ≤ 1 + line.length

namespace Text

variable {mark c : CodePoint}

/-- What stands in front of a place, back to the last mark, belongs to the piece at that place. -/
theorem splitAll_before (mark : CodePoint) (before rest : Text) :
    ∃ line, (splitAll mark (before ++ rest))[before.count mark]? = some line ∧
      (before.reverse.takeWhile (· != mark)).length ≤ line.length := by
  induction before with
  | nil =>
    obtain ⟨piece, others, hsplit⟩ :=
      List.exists_cons_of_ne_nil (splitAll_ne_nil mark rest)
    exact ⟨piece, by rw [List.nil_append, hsplit]; rfl, Nat.zero_le _⟩
  | cons c before ih =>
    obtain ⟨line, hline, hlength⟩ := ih
    rw [List.reverse_cons, List.takeWhile_append, List.cons_append]
    by_cases hc : c = mark
    · subst hc
      refine ⟨line, by rwa [splitAll_mark, List.count_cons_self], ?_⟩
      split
      · rename_i hall
        rwa [List.takeWhile_cons_of_neg (by simp), List.append_nil, ← hall]
      · exact hlength
    · obtain ⟨piece, others, hsplit, hcons⟩ := splitAll_cons hc (before ++ rest)
      rw [hsplit] at hline
      rw [hcons, List.count_cons_of_ne hc]
      cases hcount : before.count mark with
      | zero =>
        -- The place is on the first line still, which the code point belongs to.
        rw [hcount] at hline
        obtain rfl : piece = line := Option.some.inj hline
        refine ⟨c :: piece, rfl, ?_⟩
        split
        · rename_i hall
          rw [List.takeWhile_cons_of_pos (by simpa using hc), List.length_append, ← hall]
          exact Nat.succ_le_succ hlength
        · exact hlength.trans (Nat.le_succ _)
      | succ n =>
        rw [hcount] at hline
        refine ⟨line, hline, ?_⟩
        have hmark : ¬(before.reverse.takeWhile (· != mark)).length = before.reverse.length := by
          intro hall
          have hmem : mark ∈ before.reverse := by
            rw [List.mem_reverse, ← List.count_pos_iff, hcount]
            exact Nat.succ_pos n
          rw [← (List.takeWhile_prefix _).eq_of_length hall] at hmem
          exact absurd (List.mem_takeWhile_imp hmem) (by simp)
        rwa [if_neg hmark]

end Text

/-- The position behind a part of a source is in the source. -/
theorem Position.pointsInto_after (before rest : Text) :
    (Position.start.after before).PointsInto (before ++ rest) := by
  rw [← Position.ofOffset_length before rest]
  unfold Position.ofOffset
  rw [List.take_left]
  refine ⟨Nat.le_add_right 1 _, ?_, Nat.le_add_right 1 _, ?_⟩
  · rw [List.count_append]
    exact Nat.add_le_add_left (Nat.le_add_right _ _) 1
  · obtain ⟨line, hline, hlength⟩ := Text.splitAll_before Text.newline before rest
    refine ⟨line, ?_, Nat.add_le_add_left hlength 1⟩
    rwa [Nat.add_sub_cancel_left]

theorem Position.pointsInto_start (source : Text) : Position.start.PointsInto source :=
  pointsInto_after [] source

end Lines

section Sources

variable {p : Position} {text source : Text} {tokens : List Token}

/-- A piece of source is found faulty at a place that is in front of its end. -/
theorem listFrom_error_position {skip : Nat} {e : LexicalError}
    (h : Token.listFrom skip p text = .error e) :
    ∃ before rest, text = before ++ rest ∧ e.position = p.after before := by
  -- A place behind a code point is behind the text up to it.
  have hcons {q : Position} {c : CodePoint} {cs : Text} {e : LexicalError}
      (h : ∃ before rest, cs = before ++ rest ∧ e.position = (q.next c).after before) :
      ∃ before rest, c :: cs = before ++ rest ∧ e.position = q.after before := by
    obtain ⟨before, rest, rfl, hposition⟩ := h
    exact ⟨c :: before, rest, rfl, hposition⟩
  fun_induction Token.listFrom with
  | case1 => cases h
  | case2 skip p c cs ih => exact hcons (ih h)
  | case3 p c cs flaw hscan =>
    cases h
    exact ⟨_, _, (List.take_append_drop flaw.offset (c :: cs)).symm, rfl⟩
  | case4 p c cs n hscan ih => exact hcons (ih h)
  | case5 p c cs kind value n hscan e' herror ih =>
    cases h
    exact hcons (ih herror)
  | case6 => cases h

/-- Tokens are alike themselves if their places belong together. -/
theorem Token.Pieces.alike {R : Places} (h : Pieces p text tokens)
    (hR : ∀ t ∈ tokens, t.span.Alike R t.span) : Token.AllAlike R tokens tokens := by
  induction h with
  | done => exact .last ⟨rfl, hR _ List.mem_cons_self⟩ rfl
  | trivia piece more ih => exact ih hR
  | token written ends more ih =>
    exact .cons ⟨rfl, hR _ List.mem_cons_self⟩ (ih fun t ht => hR t (List.mem_cons_of_mem _ ht))

/-- The places where tokens begin, each of which belongs to itself. -/
def Places.at (tokens : List Token) : Places :=
  ⟨fun p _ => ∃ t ∈ tokens, p = t.span.first, fun _ _ => True⟩

theorem CompileError.report_refused {fault : SyntaxFault} {p : Position} {report : CompileReport}
    (h : (CompileError.source (.fault fault p)).report = .ok report) : report.position = p := by
  cases fault with
  | lexical flaw => cases flaw <;> cases h <;> rfl
  | _ =>
    cases h
    rfl

/-- The errors of a source that can be split into tokens are reported at the beginning of a token,
unless the source is nested too deeply. -/
theorem compile_error_token {v : Version} {e : CompileError} {report : CompileReport}
    (htokens : Token.ofSource source = .ok tokens) (h : compile v source = .error e)
    (hreport : e.report = .ok report) :
    (e = .source .tooDeep ∨ e = .evaluation .tooDeep) ∧ report.position = Position.start ∨
      ∃ t ∈ tokens, report.position = t.span.first := by
  have halike : Token.AllAlike (.at tokens) tokens tokens :=
    (pieces_of_listFrom htokens).alike fun t ht => ⟨⟨t, ht, rfl⟩, trivial⟩
  have hcompiles := compile_alike htokens htokens halike trivial v
  rw [h] at hcompiles
  cases hcompiles with
  | tooDeep =>
    cases hreport
    exact .inl ⟨.inl rfl, rfl⟩
  | failed alike =>
    cases alike with
    | refused same place =>
      rw [CompileError.report_refused hreport]
      exact .inr place
    | notSchema typeName place =>
      cases hreport
      exact .inr place
    | evaluation alike =>
      cases alike with
      | fault reason span =>
        cases hreport
        exact .inr span.first
      | same _ unplaced =>
        rename_i reason
        cases reason with
        | fault reason span => exact absurd rfl (unplaced reason span)
        | tooDeep =>
          cases hreport
          exact .inl ⟨.inr rfl, rfl⟩
        | _ => exact nomatch hreport

end Sources

/-- Compile errors point into their source: to a line of it, and on that line to a code point or
behind the last one. If the source can be split into tokens and is not nested too deeply, they point
to the beginning of a token, or of the end of the source. -/
theorem compile_error_located {v : Version} {source : Text} {e : CompileError}
    {report : CompileReport} (h : compile v source = .error e) (hreport : e.report = .ok report) :
    report.position.PointsInto source ∧
      ∀ tokens, Token.ofSource source = .ok tokens → e ≠ .source .tooDeep →
        e ≠ .evaluation .tooDeep → ∃ t ∈ tokens, report.position = t.span.first := by
  cases htokens : Token.ofSource source with
  | error flaw =>
    refine ⟨?_, nofun⟩
    obtain ⟨before, rest, rfl, hposition⟩ := listFrom_error_position htokens
    have herror : compile v (before ++ rest) =
        .error (.source (.fault (.lexical flaw.fault) flaw.position)) := by
      rw [compile, Expr.ofSource, htokens]
    cases h.symm.trans herror
    rw [CompileError.report_refused hreport, hposition]
    exact Position.pointsInto_after before rest
  | ok tokens =>
    have hplace := compile_error_token htokens h hreport
    constructor
    · rcases hplace with ⟨-, hstart⟩ | ⟨t, ht, hfirst⟩
      · rw [hstart]
        exact Position.pointsInto_start source
      · obtain ⟨before, rest, rfl, hbefore⟩ := (pieces_of_listFrom htokens).first ht
        rw [hfirst, hbefore]
        exact Position.pointsInto_after before rest
    · rintro tokens' ⟨⟩ hsource hevaluation
      exact hplace.resolve_left fun hdeep => hdeep.1.elim hsource hevaluation

/-- A member that is not called, behind a line feed, and an escape that the source ends in. -/
theorem compile_error_located_lines :
    (∃ e report, compile .v3_24_2 "\n z.any" = .error e ∧ e.report = .ok report ∧
      report.position = ⟨2, 2⟩ ∧ report.position.PointsInto "\n z.any") ∧
    ∃ e report, compile .v3_24_2 "z.literal(\"\\x" = .error e ∧ e.report = .ok report ∧
      report.position = ⟨1, 12⟩ ∧ report.position.PointsInto "z.literal(\"\\x" := by
  have hfailed {source : Text} {report : CompileReport}
      (h : (match compile .v3_24_2 source with
        | .ok _ => false
        | .error e => decide (e.report = .ok report)) = true) :
      ∃ e, compile .v3_24_2 source = .error e ∧ e.report = .ok report := by
    cases hcompile : compile .v3_24_2 source with
    | ok s =>
      rw [hcompile] at h
      exact nomatch h
    | error e =>
      rw [hcompile] at h
      exact ⟨e, rfl, of_decide_eq_true h⟩
  constructor
  · obtain ⟨e, herror, hreport⟩ : ∃ e, compile .v3_24_2 "\n z.any" = .error e ∧ e.report =
        .ok ⟨.malformed, "'z.any' must be called to produce a schema", ⟨2, 2⟩⟩ :=
      hfailed (by decide +kernel)
    exact ⟨e, _, herror, hreport, rfl, (compile_error_located herror hreport).1⟩
  · obtain ⟨e, herror, hreport⟩ : ∃ e, compile .v3_24_2 "z.literal(\"\\x" = .error e ∧ e.report =
        .ok ⟨.malformed, "Invalid hexadecimal escape sequence", ⟨1, 12⟩⟩ :=
      hfailed (by decide +kernel)
    exact ⟨e, _, herror, hreport, rfl, (compile_error_located herror hreport).1⟩

end Conform
