import Conform.Pattern.Basic
import Conform.Proofs.Failing
import Mathlib.Data.List.Infix

/-!
# What is too large in a pattern

A pattern that is refused without a place in it holds a count of repetitions that is too large or
has too many digits, or it turns on two repertoires at once. The reading of a pattern is followed
step by step, with a rule for each way to put steps together: what is left of the pattern stays an
end of it, and what is read is found in it.

## Main definitions

- `Regex.Excess` — the failures that a pattern text accounts for
- `Regex.Progress.Within`, `Regex.Reads` — a step keeps to a text
- `Regex.read_fails`, `Pattern.ofLiteral_fails` — patterns fail in no other way
-/

namespace Conform.Regex

/-- The failures that a pattern text accounts for. -/
inductive Excess (t : Text) : Failure → Prop
  | located (fault : Fault) (position : Nat) : Excess t (.located fault position)
  | whole (fault : Fault) : Excess t (.whole fault)
  | tooDeep : Excess t .tooDeep
  | repetition {digits : Text} (written : digits <:+: t)
      (each : ∀ c ∈ digits, Text.isDigit c = true) (large : countLimit ≤ Text.digitsValue digits) :
      Excess t .repetitionTooLarge
  | count {digits : Text} (written : digits <:+: t)
      (each : ∀ c ∈ digits, Text.isDigit c = true) (long : Number.digitLimit < digits.length) :
      Excess t (.countTooLong digits.length)
  | repertoires (ascii : 'a'.toNat ∈ t) (unicode : 'u'.toNat ∈ t) : Excess t .incompatibleFlags

/-- The letters of flags that choose a repertoire are found in a text. -/
structure Spelled (t : Text) (flags : List Flag) : Prop where
  ascii : .ascii ∈ flags → 'a'.toNat ∈ t
  unicode : .unicode ∈ flags → 'u'.toNat ∈ t

/-- The reading of a text has come to some end of it. -/
structure Progress.Within (t : Text) (p : Progress) : Prop where
  rest : p.rest <:+ t
  flags : Spelled t p.flags

/-- A step keeps to a text: it stays within it, its result has a property, and if it fails, the text
accounts for that. -/
def Reads {α : Type} (t : Text) (m : Reading α) (Q : α → Prop) : Prop :=
  ∀ p : Progress, p.Within t →
    match m.run p with
    | .ok (a, p') => p'.Within t ∧ Q a
    | .error e => Excess t e

variable {t : Text} {α β : Type} {m : Reading α} {Q Q' : α → Prop} {R : β → Prop}

section Rules

theorem Reads.pure {a : α} (h : Q a) : Reads t (pure a) Q := fun _ hp => ⟨hp, h⟩

/-- A step whose result does not matter. -/
theorem Reads.done (a : α) : Reads t (Pure.pure a) fun _ => True := .pure trivial

theorem Reads.bind {f : α → Reading β} (hm : Reads t m Q) (hf : ∀ a, Q a → Reads t (f a) R) :
    Reads t (m >>= f) R := by
  intro p hp
  have hm := hm p hp
  rw [StateT.run_bind]
  cases hrun : m.run p with
  | error e =>
    rw [hrun] at hm
    exact hm
  | ok found =>
    obtain ⟨a, p'⟩ := found
    rw [hrun] at hm
    exact hf a hm.2 p' hm.1

theorem Reads.mono (h : Reads t m Q) (hQ : ∀ a, Q a → Q' a) : Reads t m Q' := by
  intro p hp
  have h := h p hp
  split
  · rename_i a p' hrun
    rw [hrun] at h
    exact ⟨h.1, hQ a h.2⟩
  · rename_i e hrun
    rw [hrun] at h
    exact h

theorem Reads.get : Reads t get (Progress.Within t) := fun _ hp => ⟨hp, hp⟩

theorem Reads.set {p : Progress} (h : p.Within t) : Reads t (set p) fun _ => True :=
  fun _ _ => ⟨h, trivial⟩

theorem Reads.modify {f : Progress → Progress} (h : ∀ p : Progress, p.Within t → (f p).Within t) :
    Reads t (modify f) fun _ => True := fun p hp => ⟨h p hp, trivial⟩

theorem Reads.throw {e : Failure} (h : Excess t e) : Reads t (throw e : Reading α) Q :=
  fun _ _ => h

theorem Reads.failAt (fault : Fault) (position : Nat) :
    Reads t (Regex.failAt fault position : Reading α) Q := .throw (.located fault position)

theorem Reads.failBack (fault : Fault) (back : Nat) :
    Reads t (Regex.failBack fault back : Reading α) Q := .bind .get fun _ _ => .failAt _ _

theorem Reads.ite {P : Prop} [Decidable P] {m' : Reading α} (hm : Reads t m Q)
    (hm' : Reads t m' Q) : Reads t (if P then m else m') Q := by
  split
  · exact hm
  · exact hm'

end Rules

section Taking

/-- A piece that is read is found in the text. -/
def Piece.Among (t : Text) : Option Piece → Prop
  | some (.plain c) => c ∈ t
  | _ => True

theorem Progress.Within.among {p : Progress} (h : p.Within t) : Piece.Among t p.next? := by
  unfold Progress.next?
  split
  · trivial
  · rename_i c cs hrest
    have hc : c ∈ t := h.rest.subset (hrest ▸ List.mem_cons_self)
    split
    · split
      · trivial
      · exact hc
    · exact hc

theorem peek?_reads : Reads t peek? (Piece.Among t) :=
  .bind .get fun _ hp => .pure hp.among

theorem take?_reads : Reads t take? (Piece.Among t) := by
  refine .bind .get fun p hp => ?_
  have hamong := hp.among
  split
  · exact .pure trivial
  · rename_i piece hnext
    dsimp only
    split
    · exact .failAt _ _
    · refine .bind (.set ⟨(List.drop_suffix _ _).trans hp.rest, hp.flags⟩) fun _ _ => .pure ?_
      rwa [hnext] at hamong

theorem accept_reads (c : CodePoint) : Reads t (accept c) fun _ => True := by
  refine .bind peek?_reads fun piece _ => ?_
  split
  · exact .bind take?_reads fun _ _ => .done _
  · exact .done _

/-- The current code point is taken, unless a lone backslash follows. -/
theorem take?_plain {p : Progress} {c : CodePoint} (h : p.next? = some (.plain c)) :
    ∃ cs, p.rest = c :: cs ∧
      (take?.run p = .ok (some (.plain c), { p with rest := cs, position := p.position + 1 }) ∨
        take?.run p = .error (.located .escapeAtEnd (p.position + 1))) := by
  have hrest : ∃ cs, p.rest = c :: cs := by
    unfold Progress.next? at h
    split at h
    · exact nomatch h
    · rename_i d ds hrest
      split at h
      · split at h
        · exact nomatch h
        · cases h
          exact ⟨_, hrest⟩
      · cases h
        exact ⟨_, hrest⟩
  obtain ⟨cs, hcs⟩ := hrest
  refine ⟨cs, hcs, ?_⟩
  unfold take?
  simp only [StateT.run_bind, StateT.run_get, pure_bind, h]
  by_cases hend : endsInBackslash cs = true
  · right
    simp [Piece.text, hcs, hend, failAt]
    rfl
  · left
    simp [Piece.text, hcs, hend]
    rfl

/-- What has been taken has a property and stood before what is left. -/
def Taken (q : CodePoint → Bool) (p : Progress) : Except Failure (Text × Progress) → Prop
  | .ok (taken, p') => p.rest = taken ++ p'.rest ∧ p'.flags = p.flags ∧ ∀ c ∈ taken, q c = true
  | .error e => ∃ fault position, e = .located fault position

theorem takeSome_taken (q : CodePoint → Bool) (count : Nat) (p : Progress) :
    Taken q p ((takeSome q count).run p) := by
  have hnothing (p : Progress) : Taken q p (.ok ([], p)) :=
    ⟨rfl, rfl, fun c hc => absurd hc List.not_mem_nil⟩
  induction count generalizing p with
  | zero => exact hnothing p
  | succ count ih =>
    unfold takeSome
    simp only [peek?, StateT.run_bind, StateT.run_get, pure_bind, StateT.run_pure]
    cases hnext : p.next? with
    | none => exact hnothing p
    | some piece =>
      cases piece with
      | escaped d => exact hnothing p
      | plain c =>
        simp only
        by_cases hc : q c = true
        · rw [if_pos hc]
          obtain ⟨cs, hrest, htake | htake⟩ := take?_plain hnext
          · let p' : Progress := { p with rest := cs, position := p.position + 1 }
            have hmore := ih p'
            simp only [StateT.run_bind, htake]
            change Taken q p ((takeSome q count).run p' >>= fun found => _)
            cases hrun : (takeSome q count).run p' with
            | error e =>
              rw [hrun] at hmore
              exact hmore
            | ok found =>
              rw [hrun] at hmore
              obtain ⟨htaken, hflags, heach⟩ := hmore
              refine ⟨?_, hflags, List.forall_mem_cons.mpr ⟨hc, heach⟩⟩
              rw [hrest, List.cons_append, ← htaken]
          · simp only [StateT.run_bind, htake]
            exact ⟨_, _, rfl⟩
        · rw [if_neg hc]
          exact hnothing p

theorem takeSome_reads (q : CodePoint → Bool) (count : Nat) :
    Reads t (takeSome q count) fun taken => taken <:+: t ∧ ∀ c ∈ taken, q c = true := by
  intro p hp
  have htaken := takeSome_taken q count p
  cases hrun : (takeSome q count).run p with
  | error e =>
    rw [hrun] at htaken
    obtain ⟨fault, position, rfl⟩ := htaken
    exact .located fault position
  | ok found =>
    obtain ⟨taken, p'⟩ := found
    rw [hrun] at htaken
    obtain ⟨hrest, hflags, heach⟩ := htaken
    obtain ⟨before, hbefore⟩ := hp.rest
    rw [hrest, ← List.append_assoc] at hbefore
    refine ⟨⟨⟨_, hbefore⟩, hflags ▸ hp.flags⟩, ⟨before, p'.rest, hbefore⟩, heach⟩

theorem takeDigits_reads :
    Reads t takeDigits fun taken => taken <:+: t ∧ ∀ c ∈ taken, Text.isDigit c = true :=
  .bind .get fun _ _ => takeSome_reads _ _

theorem takeName_reads (closer : CodePoint) (what : Text) (fuel : Nat) (name : Text) :
    Reads t (takeName closer what fuel name) fun _ => True := by
  induction fuel generalizing name with
  | zero => exact .throw .tooDeep
  | succ fuel ih =>
    refine .bind take?_reads fun piece _ => ?_
    split
    · split
      · exact .failBack _ _
      · exact .failBack _ _
    · split
      · split
        · exact .failBack _ _
        · exact .done _
      · exact ih _

theorem takeWholeName_reads (closer : CodePoint) (what : Text) :
    Reads t (takeWholeName closer what) fun _ => True :=
  .bind .get fun _ _ => takeName_reads _ _ _ _

end Taking

section Escapes

theorem groupCount_reads : Reads t groupCount fun _ => True := .bind .get fun _ _ => .done _

theorem isClosed_reads (index : Nat) : Reads t (isClosed index) fun _ => True :=
  .bind .get fun _ _ => .done _

theorem checkName_reads (name : Text) : Reads t (checkName name) fun _ => True := by
  unfold checkName
  split
  · exact .failBack _ _
  · exact .done _

theorem checkBehind_reads (index : Nat) : Reads t (checkBehind index) fun _ => True := by
  refine .bind .get fun p _ => ?_
  split
  · exact .done _
  · refine .bind (isClosed_reads index) fun closed _ => ?_
    split
    · exact .failBack _ _
    · split
      · exact .failBack _ _
      · exact .done _

theorem hexEscape_reads (start : Nat) (letter : CodePoint) (width : Nat) :
    Reads t (hexEscape start letter width) fun _ => True := by
  refine .bind (takeSome_reads _ _) fun digits _ => ?_
  split
  · exact .failAt _ _
  · dsimp only
    split
    · exact .failAt _ _
    · exact .done _

theorem namedEscape_reads : Reads t namedEscape fun _ => True := by
  refine .bind (accept_reads _) fun found _ => ?_
  split
  · exact .failBack _ _
  · refine .bind (takeWholeName_reads _ _) fun name _ => ?_
    split
    · exact .done _
    · exact .failBack _ _

theorem codeEscape?_reads (start : Nat) (letter : CodePoint) :
    Reads t (codeEscape? start letter) fun _ => True := by
  have hhex (width : Nat) : Reads t (do
      return some (← hexEscape start letter width)) fun _ => True :=
    .bind (hexEscape_reads _ _ _) fun _ _ => .done _
  unfold codeEscape?
  split
  · exact hhex 2
  · split
    · exact hhex 4
    · split
      · exact hhex 8
      · split
        · exact .bind namedEscape_reads fun _ _ => .done _
        · exact .done _

theorem plainEscape_reads (start : Nat) (letter : CodePoint) :
    Reads t (plainEscape start letter) fun _ => True := by
  unfold plainEscape
  split
  · exact .failAt _ _
  · exact .done _

theorem setEscape_reads (flags : List Flag) (start : Nat) (letter : CodePoint) :
    Reads t (setEscape flags start letter) fun _ => True := by
  unfold setEscape
  split
  · exact .done _
  · split
    · exact .done _
    · refine .bind (codeEscape?_reads _ _) fun found _ => ?_
      split
      · exact .done _
      · split
        · refine .bind (takeSome_reads _ _) fun digits _ => ?_
          dsimp only
          split
          · exact .failAt _ _
          · exact .done _
        · exact .bind (plainEscape_reads _ _) fun _ _ => .done _

theorem numberEscape_reads (flags : List Flag) (start : Nat) (first : CodePoint) :
    Reads t (numberEscape flags start first) fun _ => True := by
  refine .bind (takeSome_reads _ _) fun second _ => ?_
  dsimp only
  refine .bind (Q := fun _ => True) ?_ fun third _ => ?_
  · split
    · exact (takeSome_reads _ _).mono fun _ _ => trivial
    · exact .done _
  · split
    · split
      · exact .failAt _ _
      · exact .done _
    · refine .bind groupCount_reads fun groups _ => ?_
      split
      · refine .bind (isClosed_reads _) fun closed _ => ?_
        split
        · exact .failAt _ _
        · exact .bind (checkBehind_reads _) fun _ _ => .done _
      · exact .failAt _ _

theorem escape_reads (flags : List Flag) (start : Nat) (letter : CodePoint) :
    Reads t (escape flags start letter) fun _ => True := by
  unfold escape
  split
  · exact .done _
  · split
    · exact .done _
    · split
      · exact .done _
      · refine .bind (codeEscape?_reads _ _) fun found _ => ?_
        split
        · exact .done _
        · split
          · exact .bind (takeSome_reads _ _) fun _ _ => .done _
          · split
            · exact numberEscape_reads _ _ _
            · exact .bind (plainEscape_reads _ _) fun _ _ => .done _

theorem setMember_reads (flags : List Flag) (start : Nat) (piece : Piece) :
    Reads t (setMember flags start piece) fun _ => True := by
  unfold setMember
  split
  · exact .done _
  · exact setEscape_reads _ _ _

theorem setMembers_reads (flags : List Flag) (here fuel : Nat) (items : List SetItem) :
    Reads t (setMembers flags here fuel items) fun _ => True := by
  induction fuel generalizing items with
  | zero => exact .throw .tooDeep
  | succ fuel ih =>
    refine .bind .get fun start _ => ?_
    refine .bind take?_reads fun this _ => ?_
    split
    · exact .failAt _ _
    · split
      · exact .done _
      · refine .bind (setMember_reads _ _ _) fun low _ => ?_
        refine .bind (accept_reads _) fun found _ => ?_
        split
        · refine .bind .get fun middle _ => ?_
          refine .bind take?_reads fun that _ => ?_
          split
          · exact .failAt _ _
          · split
            · exact .done _
            · refine .bind (setMember_reads _ _ _) fun high _ => ?_
              split
              · split
                · exact .failBack _ _
                · exact ih _
              · exact .failBack _ _
        · exact ih _

theorem charSet_reads (flags : List Flag) : Reads t (charSet flags) fun _ => True := by
  refine .bind .get fun p _ => ?_
  refine .bind (accept_reads _) fun negated _ => ?_
  refine .bind .get fun p _ => ?_
  refine .bind (setMembers_reads _ _ _ _) fun items _ => ?_
  dsimp only
  split
  · exact .done _
  · exact .done _

end Escapes

section Repetitions

theorem countOf_reads {digits : Text} (written : digits <:+: t)
    (each : ∀ c ∈ digits, Text.isDigit c = true) : Reads t (countOf digits) fun _ => True := by
  unfold countOf
  split
  · rename_i hlong
    exact .throw (.count written each hlong)
  · split
    · rename_i hlarge
      exact .throw (.repetition written each hlarge)
    · exact .done _

theorem braceCount?_reads (here : Nat) : Reads t (braceCount? here) fun _ => True := by
  refine .bind takeDigits_reads fun low hlow => ?_
  refine .bind (accept_reads _) fun comma _ => ?_
  refine .bind (Q := fun taken => taken <:+: t ∧ ∀ c ∈ taken, Text.isDigit c = true) ?_
    fun high hhigh => ?_
  · split
    · exact takeDigits_reads
    · exact .pure hlow
  · refine .bind (accept_reads _) fun closed _ => ?_
    split
    · exact .done _
    · refine .bind (countOf_reads hlow.1 hlow.2) fun least _ => ?_
      split
      · exact .done _
      · refine .bind (countOf_reads hhigh.1 hhigh.2) fun most _ => ?_
        split
        · exact .failAt _ _
        · exact .done _

theorem repeatCount?_reads (mark : CodePoint) (here : Nat) :
    Reads t (repeatCount? mark here) fun _ => True := by
  unfold repeatCount?
  split
  · exact .done _
  · split
    · exact .done _
    · split
      · exact .done _
      · refine .bind .get fun before hbefore => ?_
        split
        · exact .done _
        · refine .bind (braceCount?_reads here) fun found _ => ?_
          split
          · exact .done _
          · -- The reading goes back to where the brace was.
            exact .bind (.set hbefore) fun _ _ => .done _

theorem repeatLast_reads (flags : List Flag) (mark : CodePoint) (items : List Item) :
    Reads t (repeatLast flags mark items) fun _ => True := by
  refine .bind .get fun p _ => ?_
  refine .bind (repeatCount?_reads _ _) fun found _ => ?_
  split
  · exact .done _
  · split
    · exact .failAt _ _
    · exact .failAt _ _
    · exact .failAt _ _
    · dsimp only
      refine .bind (Q := fun _ => True) ?_ fun greed _ => .done _
      refine .bind (accept_reads _) fun lazy _ => ?_
      split
      · exact .done _
      · refine .bind (accept_reads _) fun possessive _ => ?_
        split
        · exact .done _
        · exact .done _

end Repetitions

section Flags

theorem spelled_nil : Spelled t [] := ⟨nofun, nofun⟩

theorem Spelled.append {on more : List Flag} (hon : Spelled t on) (hmore : Spelled t more) :
    Spelled t (on ++ more) where
  ascii h := (List.mem_append.mp h).elim hon.ascii hmore.ascii
  unicode h := (List.mem_append.mp h).elim hon.unicode hmore.unicode

/-- The flag of a letter in the text. -/
theorem spelled_of_letter {c : CodePoint} {flag : Flag} (h : Flag.ofLetter? c = some flag)
    (hc : c ∈ t) : Spelled t [flag] := by
  have hletter : (flag = .ascii → c = 'a'.toNat) ∧ (flag = .unicode → c = 'u'.toNat) := by
    unfold Flag.ofLetter? at h
    grind
  constructor
  · intro hflag
    exact hletter.1 (List.mem_singleton.mp hflag).symm ▸ hc
  · intro hflag
    exact hletter.2 (List.mem_singleton.mp hflag).symm ▸ hc

theorem spelled_of_piece {piece : Piece} {flag : Flag} (h : flagOf? piece = some flag)
    (hpiece : Piece.Among t (some piece)) : Spelled t [flag] := by
  cases piece with
  | plain c => exact spelled_of_letter h hpiece
  | escaped c => exact nomatch h

theorem flagsOn_reads (fuel : Nat) (piece : Piece) (on : List Flag)
    (hpiece : Piece.Among t (some piece)) (hon : Spelled t on) :
    Reads t (flagsOn fuel piece on) fun found => Spelled t found.1 := by
  induction fuel generalizing piece on with
  | zero => exact .throw .tooDeep
  | succ fuel ih =>
    unfold flagsOn
    split
    · exact .failBack _ _
    · split
      · exact .throw .tooDeep
      · rename_i flag hflag
        dsimp only
        have hmore : Spelled t (if on.contains flag then on else on ++ [flag]) := by
          split
          · exact hon
          · exact hon.append (spelled_of_piece hflag hpiece)
        generalize (if on.contains flag then on else on ++ [flag]) = more at hmore
        split
        · exact .failBack _ _
        · refine .bind take?_reads fun next hnext => ?_
          split
          · exact .failBack _ _
          · split
            · exact .pure hmore
            · split
              · exact ih _ _ hnext hmore
              · exact .failBack _ _
          · exact .failBack _ _

theorem flagsOff_reads (fuel : Nat) (piece : Piece) (off : List Flag) :
    Reads t (flagsOff fuel piece off) fun _ => True := by
  induction fuel generalizing piece off with
  | zero => exact .throw .tooDeep
  | succ fuel ih =>
    unfold flagsOff
    split
    · exact .failBack _ _
    · split
      · exact .throw .tooDeep
      · split
        · exact .failBack _ _
        · refine .bind take?_reads fun next _ => ?_
          split
          · exact .failBack _ _
          · split
            · exact .done _
            · split
              · exact ih _ _
              · exact .failBack _ _
          · exact .failBack _ _

theorem groupFlags?_reads (first : Piece) (hfirst : Piece.Among t (some first)) :
    Reads t (groupFlags? first) fun _ => True := by
  refine .bind .get fun p _ => ?_
  dsimp only
  refine .bind (Q := fun found => Spelled t found.1) ?_ fun found hfound => ?_
  · split
    · exact .pure spelled_nil
    · exact flagsOn_reads _ _ _ hfirst spelled_nil
  · split
    · refine .bind (.modify fun p hp => ?_) fun _ _ => .done _
      exact ⟨hp.rest, hp.flags.append hfound⟩
    · split
      · exact .failBack _ _
      · refine .bind (Q := fun _ => True) ?_ fun off _ => ?_
        · split
          · refine .bind take?_reads fun piece _ => ?_
            split
            · exact .failBack _ _
            · split
              · exact flagsOff_reads _ _ _
              · exact .failBack _ _
          · exact .done _
        · split
          · exact .failBack _ _
          · split
            · exact .failBack _ _
            · exact .done _

end Flags

section Groups

theorem skipComment_reads (start fuel : Nat) : Reads t (skipComment start fuel) fun _ => True := by
  induction fuel with
  | zero => exact .throw .tooDeep
  | succ fuel ih =>
    refine .bind take?_reads fun piece _ => ?_
    split
    · exact .failAt _ _
    · split
      · exact .done _
      · exact ih

theorem skipLine_reads (fuel : Nat) : Reads t (skipLine fuel) fun _ => True := by
  induction fuel with
  | zero => exact .done _
  | succ fuel ih =>
    refine .bind take?_reads fun piece _ => ?_
    split
    · exact .done _
    · split
      · exact .done _
      · exact ih

theorem openGroup_reads (name? : Option Text) : Reads t (openGroup name?) fun _ => True := by
  refine .bind groupCount_reads fun index _ => ?_
  refine .bind (.modify fun p hp => ⟨hp.rest, hp.flags⟩) fun _ _ => ?_
  split
  · exact .done _
  · refine .bind .get fun p _ => ?_
    split
    · exact .failBack _ _
    · exact .bind (.modify fun p hp => ⟨hp.rest, hp.flags⟩) fun _ _ => .done _

theorem closeGroup_reads (index : Nat) (body : Regex) :
    Reads t (closeGroup index body) fun _ => True := .modify fun _ hp => ⟨hp.rest, hp.flags⟩

theorem closeParenthesis_reads (start : Nat) : Reads t (closeParenthesis start) fun _ => True := by
  refine .bind (accept_reads _) fun found _ => ?_
  split
  · exact .failAt _ _
  · exact .done _

theorem namedReference_reads (flags : List Flag) :
    Reads t (namedReference flags) fun _ => True := by
  refine .bind (takeWholeName_reads _ _) fun name _ => ?_
  refine .bind (checkName_reads name) fun _ _ => ?_
  refine .bind .get fun p _ => ?_
  split
  · exact .failBack _ _
  · refine .bind (isClosed_reads _) fun closed _ => ?_
    split
    · exact .failBack _ _
    · exact .bind (checkBehind_reads _) fun _ _ => .done _

theorem condition_reads : Reads t condition fun _ => True := by
  refine .bind (takeWholeName_reads _ _) fun name _ => ?_
  refine .bind (Q := fun _ => True) ?_ fun index _ =>
    .bind (checkBehind_reads index) fun _ _ => .done _
  split
  · refine .bind .get fun p _ => ?_
    split
    · exact .done _
    · exact .failBack _ _
  · split
    · split
      · exact .failBack _ _
      · split
        · exact .failBack _ _
        · refine .bind (.modify fun p hp => ?_) fun _ _ => .done _
          split
          · exact hp
          · exact ⟨hp.rest, hp.flags⟩
    · exact .failBack _ _

theorem extension_reads (flags : List Flag) (start : Nat) :
    Reads t (extension flags start) fun _ => True := by
  refine .bind take?_reads fun piece hpiece => ?_
  split
  · exact .failBack _ _
  · rename_i piece
    split
    · refine .bind (accept_reads _) fun found _ => ?_
      split
      · refine .bind (takeWholeName_reads _ _) fun name _ => ?_
        exact .bind (checkName_reads name) fun _ _ => .done _
      · refine .bind (accept_reads _) fun found _ => ?_
        split
        · exact .bind (namedReference_reads flags) fun _ _ => .done _
        · refine .bind take?_reads fun other _ => ?_
          split
          · exact .failBack _ _
          · exact .failBack _ _
    · split
      · exact .done _
      · split
        · refine .bind .get fun p _ => ?_
          exact .bind (skipComment_reads _ _) fun _ _ => .done _
        · split
          · exact .done _
          · split
            · exact .done _
            · split
              · refine .bind take?_reads fun other _ => ?_
                split
                · exact .failBack _ _
                · split
                  · exact .done _
                  · split
                    · exact .done _
                    · exact .failBack _ _
              · split
                · exact .bind condition_reads fun _ _ => .done _
                · split
                  · exact .done _
                  · split
                    · refine .bind (groupFlags?_reads _ hpiece) fun found _ => ?_
                      split
                      · exact .done _
                      · exact .done _
                    · exact .failBack _ _

theorem currentFlags_reads (scope : Option (List Flag)) :
    Reads t (currentFlags scope) fun _ => True := by
  unfold currentFlags
  split
  · exact .done _
  · exact .bind .get fun _ _ => .done _

mutual

theorem alternatives_reads (depth : Nat) (scope : Option (List Flag)) :
    (fuel : Nat) → (branches : List (List Regex)) →
      Reads t (alternatives fuel depth scope branches) fun _ => True
  | 0, _ => by
    rw [alternatives]
    exact .throw .tooDeep
  | fuel + 1, branches => by
    rw [alternatives]
    refine .bind (itemsFrom_reads depth scope _ fuel []) fun items _ => ?_
    dsimp only
    refine .bind (accept_reads _) fun more _ => ?_
    split
    · exact alternatives_reads depth scope fuel _
    · exact .bind (currentFlags_reads scope) fun _ _ => .done _

theorem itemsFrom_reads (depth : Nat) (scope : Option (List Flag)) (first : Bool) :
    (fuel : Nat) → (items : List Item) →
      Reads t (itemsFrom fuel depth scope first items) fun _ => True
  | 0, _ => by
    rw [itemsFrom]
    exact .throw .tooDeep
  | fuel + 1, items => by
    have hmore (items : List Item) :
        Reads t (itemsFrom fuel depth scope first items) fun _ => True :=
      itemsFrom_reads depth scope first fuel items
    rw [itemsFrom]
    refine .bind (currentFlags_reads scope) fun flags _ => ?_
    dsimp only
    refine .bind .get fun p _ => ?_
    refine .bind peek?_reads fun piece _ => ?_
    rcases piece with _ | c | letter
    · exact .done _
    · refine .ite (.done _) (.bind take?_reads fun _ _ => ?_)
      refine .ite (hmore _) (.ite ?_ (.ite ?_ (.ite ?_ (.ite (hmore _) (.ite (hmore _)
        (.ite (hmore _) (.ite ?_ (hmore _))))))))
      · refine .bind .get fun p _ => ?_
        exact .bind (skipLine_reads _) fun _ _ => hmore _
      · exact .bind (charSet_reads _) fun _ _ => hmore _
      · exact .bind (repeatLast_reads _ _ _) fun _ _ => hmore _
      · refine .ite (.throw .tooDeep) (.bind (Q := fun _ => True) ?_ fun opening _ => ?_)
        · exact .bind (accept_reads _) fun found _ => .ite (extension_reads _ _) (.done _)
        · have hgroup (opening : Opening) : Reads t (do
              let item ← groupBody fuel (depth + 1) flags p.position opening
              itemsFrom fuel depth scope first (item :: items)) fun _ => True :=
            .bind (groupBody_reads (depth + 1) flags _ opening fuel) fun _ _ => hmore _
          cases opening with
          | global => exact .ite (.failAt _ _) (hmore _)
          | done r? =>
            cases r? with
            | none => exact hmore _
            | some r => exact hmore _
          | _ => exact hgroup _
    · refine .bind take?_reads fun _ _ => ?_
      exact .bind (escape_reads _ _ _) fun _ _ => hmore _

theorem groupBody_reads (depth : Nat) (flags : List Flag) (start : Nat) (opening : Opening) :
    (fuel : Nat) → Reads t (groupBody fuel depth flags start opening) fun _ => True
  | 0 => by
    rw [groupBody]
    exact .throw .tooDeep
  | fuel + 1 => by
    have hbody (scope : List Flag) :
        Reads t (alternatives fuel depth (some scope) []) fun _ => True :=
      alternatives_reads depth (some scope) fuel []
    have hitems : Reads t (itemsFrom fuel depth (some flags) false []) fun _ => True :=
      itemsFrom_reads depth (some flags) false fuel []
    have hclose {r : Item} : Reads t (do
        closeParenthesis start
        return r) fun _ => True :=
      .bind (closeParenthesis_reads start) fun _ _ => .done r
    unfold groupBody
    cases opening with
    | capture name? =>
      refine .bind (openGroup_reads _) fun index _ => ?_
      refine .bind (hbody flags) fun body _ => ?_
      refine .bind (closeParenthesis_reads start) fun _ _ => ?_
      exact .bind (closeGroup_reads _ _) fun _ _ => .done _
    | flags on off => exact .bind (hbody _) fun _ _ => hclose
    | atomic => exact .bind (hbody _) fun _ _ => hclose
    | ahead negated => exact .bind (hbody _) fun _ _ => hclose
    | behind negated =>
      have hlimit (limit : Option Nat) :
          Reads t (modify fun p => { p with behindLimit := limit }) fun _ => True :=
        .modify fun p hp => ⟨hp.rest, hp.flags⟩
      refine .bind .get fun p _ => ?_
      dsimp only
      have hrest : Reads t (do
          let body ← alternatives fuel depth (some flags) []
          if p.behindLimit.isNone then modify fun p => { p with behindLimit := none }
          closeParenthesis start
          return Item.one (.behind negated 0 (sequence body))) fun _ => True :=
        .bind (hbody flags) fun body _ => .ite (.bind (hlimit none) fun _ _ => hclose) hclose
      exact .ite (.bind groupCount_reads fun count _ => .bind (hlimit _) fun _ _ => hrest) hrest
    | condition index =>
      refine .bind hitems fun yes _ => ?_
      refine .bind (accept_reads _) fun found _ => ?_
      refine .ite ?_ hclose
      refine .bind hitems fun no _ => ?_
      refine .bind peek?_reads fun piece _ => ?_
      exact .ite (.failBack _ _) hclose
    | _ => exact .bind (hbody _) fun _ _ => hclose
termination_by structural fuel => fuel

end

end Groups

section Patterns

theorem settle_fails (template : Bool) (groups : Nat → Width) (r : Regex) :
    FailsOnly (Excess t) (settle template groups r) := by
  induction r with
  | seq r s hr hs | alt r s hr hs => exact hr.bind fun _ _ => hs.bind fun _ _ => failsOnly_pure _
  | rounds greed least most r hr =>
    unfold settle
    split
    · exact (failsOnly_error _).mpr (.whole _)
    · exact hr.bind fun _ _ => failsOnly_pure _
  | group index r hr | scope r hr | atomic r hr | ahead negated r hr =>
    exact hr.bind fun _ _ => failsOnly_pure _
  | behind negated width r hr =>
    unfold settle
    dsimp only
    split
    · exact (failsOnly_error _).mpr (.whole _)
    · split
      · exact (failsOnly_error _).mpr (.whole _)
      · exact hr.bind fun _ _ => failsOnly_pure _
  | ifGroup index yes no hyes hno =>
    exact hyes.bind fun _ _ => hno.bind fun _ _ => failsOnly_pure _
  | empty | unit | anchor | backref => exact failsOnly_ok _

theorem Reads.lift {x : Except Failure α} (h : FailsOnly (Excess t) x) :
    Reads t (StateT.lift x) fun _ => True := by
  intro p hp
  cases x with
  | ok a => exact ⟨hp, trivial⟩
  | error e => exact h e rfl

/-- A step that is not reached behind a failure. -/
theorem Reads.stop {f : α → Reading β} (hm : Reads t m fun _ => False) : Reads t (m >>= f) R :=
  .bind hm fun _ h => h.elim

theorem whole_reads (fuel : Nat) : Reads t (whole fuel) fun _ => True := by
  refine .bind .get fun p _ => ?_
  dsimp only
  refine .ite (.bind .get fun _ _ => .stop (.failAt _ _)) ?_
  refine .bind (alternatives_reads 0 none fuel []) fun rs _ => ?_
  refine .bind .get fun p hp => ?_
  by_cases hflags : (p.flags.contains .ascii && p.flags.contains .unicode) = true
  · -- Both repertoires have been turned on, so both letters are in the pattern.
    rw [if_pos hflags]
    simp only [List.contains_iff_mem, Bool.and_eq_true] at hflags
    exact .stop (.throw (.repertoires (hp.flags.ascii hflags.1) (hp.flags.unicode hflags.2)))
  · rw [if_neg hflags]
    refine .ite (.stop (.failBack _ _)) ?_
    split
    · exact .failAt _ _
    · exact .bind (.lift (settle_fails _ _ _)) fun _ _ => .done _

/-- A pattern that is refused holds what it is refused for. -/
theorem read_fails (pattern : Text) {flags : List Flag} (hflags : Spelled pattern flags) :
    FailsOnly (Excess pattern) (read pattern flags) := by
  refine FailsOnly.bind ?_ fun found _ => failsOnly_pure _
  intro e he
  have hstart : Progress.Within pattern ⟨pattern, 0, flags, [], [], none, []⟩ :=
    ⟨List.suffix_refl pattern, hflags⟩
  have hreads := whole_reads (3 * pattern.length + 8) _ hstart
  rw [he] at hreads
  exact hreads

end Patterns

end Conform.Regex

namespace Conform.Pattern

/-- The flags of a literal choose no repertoire. -/
theorem not_choosesRepertoire {letters : Text} {flag : Regex.Flag} (h : flag ∈ flagsOf letters) :
    flag.choosesRepertoire = false := by
  obtain ⟨c, -, hc⟩ := List.mem_filterMap.mp h
  split_ifs at hc <;> cases hc <;> rfl

/-- A literal that is refused holds what it is refused for. -/
theorem ofLiteral_fails (source letters : Text) :
    FailsOnly (Regex.Excess (respell source)) (ofLiteral source letters) := by
  have hspelled : Regex.Spelled (respell source) (flagsOf letters) :=
    ⟨fun h => absurd (not_choosesRepertoire h) (by decide),
      fun h => absurd (not_choosesRepertoire h) (by decide)⟩
  exact (Regex.read_fails (respell source) hspelled).bind fun parsed _ => failsOnly_pure _

end Conform.Pattern
