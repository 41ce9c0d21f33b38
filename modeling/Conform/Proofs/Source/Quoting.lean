import Conform.Proofs.Text.Splitting
import Conform.Source.Parsing

/-!
# How string literals are written

Between its quotes a string literal stands for the code points that are written or escaped there.
The scanner finds a literal in front of a text exactly as it is written.

## Main definitions

- `Text.Escapes` — what stands behind a backslash
- `Text.Quotes` — what stands between quotes
- `Piece.stringRest_quotes` — the scanner goes on behind what is written between quotes
- `Piece.stringRest_append` — it finds quoted texts as they are written
- `Piece.stringRest_eq` — and it finds nothing else
-/

namespace Conform

/-- What a text behind a backslash stands for. -/
inductive Text.Escapes : Text → Text → Prop
  /-- The literal goes on in the next line. -/
  | continued : Escapes [Text.newline] []
  | control {c d : CodePoint} (control : Piece.controlEscape? c = some d) : Escapes [c] [d]
  | short {digits : Text} {c : CodePoint} (two : digits.length = 2)
      (number : Piece.codePointOf? digits = some c) : Escapes ('x'.toNat :: digits) [c]
  | long {digits : Text} {c : CodePoint} (four : digits.length = 4)
      (unbraced : digits.head? ≠ some 0x7B) (number : Piece.codePointOf? digits = some c) :
      Escapes ('u'.toNat :: digits) [c]
  | braced {digits : Text} {c : CodePoint} (unbraced : 0x7D ∉ digits)
      (number : Piece.codePointOf? digits = some c) :
      Escapes ('u'.toNat :: 0x7B :: (digits ++ [0x7D])) [c]
  | itself {c : CodePoint} (inline : c ≠ Text.newline) (plain : Piece.controlEscape? c = none)
      (letter : ¬(c = 'x'.toNat ∨ c = 'u'.toNat)) : Escapes [c] [c]

/-- What a text between quotes of a kind stands for. Only back quotes may be around line feeds, and
then there is no interpolation. -/
inductive Text.Quotes (quote : CodePoint) : Text → Text → Prop
  | nil : Quotes quote [] []
  | plain {c : CodePoint} {body value : Text} (inside : c ≠ quote) (plain : c ≠ '\\'.toNat)
      (inline : c = Text.newline → quote = '`'.toNat)
      (literal : ¬(quote = '`'.toNat ∧ c = '$'.toNat ∧ body.head? = some 0x7B))
      (more : Quotes quote body value) : Quotes quote (c :: body) (c :: value)
  | escape {escaped part body value : Text} (escape : Text.Escapes escaped part)
      (more : Quotes quote body value) :
      Quotes quote ('\\'.toNat :: (escaped ++ body)) (part ++ value)

namespace Piece

variable {quote letter : CodePoint} {t : Text}

theorem escape_numeric (h : letter = 'x'.toNat ∨ letter = 'u'.toNat) (cs : Text) :
    escape (letter :: cs) =
      (numericEscape letter cs).map fun (value, length) => (value, length + 1) := by
  rcases h with rfl | rfl <;> rfl

/-- How many digits a numeric escape without braces has. -/
def escapeWidth (letter : CodePoint) : Nat := if letter = 'x'.toNat then 2 else 4

theorem numericEscape_unbraced (h : ¬(letter = 'u'.toNat ∧ t.head? = some 0x7B)) :
    numericEscape letter t =
      match codePointOf? (t.take (escapeWidth letter)) with
      | some c => .ok ([c], (t.take (escapeWidth letter)).length)
      | none => .error (escapeFault letter) := if_neg h

/-- An escape is found as it is written, whatever follows it. -/
theorem escape_append {escaped part : Text} (h : Text.Escapes escaped part) (rest : Text) :
    escape (escaped ++ rest) = .ok (part, escaped.length) := by
  cases h with
  | continued => rfl
  | @control c d control =>
    have hinline : c ≠ Text.newline := by
      rintro rfl
      exact nomatch control
    rw [List.singleton_append, escape, if_neg hinline, control]
    rfl
  | @short digits c two number =>
    have htake : (digits ++ rest).take (escapeWidth 'x'.toNat) = digits := List.take_left' two
    rw [List.cons_append, escape_numeric (.inl rfl), numericEscape_unbraced (by simp), htake,
      number]
    rfl
  | @long digits c four unbraced number =>
    have htake : (digits ++ rest).take (escapeWidth 'u'.toNat) = digits := List.take_left' four
    have hhead : (digits ++ rest).head? ≠ some 0x7B := by
      cases digits with
      | nil => exact nomatch four
      | cons d digits => exact unbraced
    rw [List.cons_append, escape_numeric (.inr rfl),
      numericEscape_unbraced fun h => hhead h.2, htake, number]
    rfl
  | @braced digits c unbraced number =>
    have hsplit := Text.splitFirst?_append unbraced rest
    rw [List.cons_append, List.cons_append, List.append_assoc, escape_numeric (.inr rfl)]
    unfold numericEscape
    rw [if_pos ⟨rfl, rfl⟩, List.drop_one, List.tail_cons, List.singleton_append, hsplit]
    dsimp only
    rw [number]
    simp [Except.map]
  | itself inline plain letter =>
    rw [List.singleton_append, escape, if_neg inline, plain]
    exact if_neg letter

/-- The numeric escape in front of a text, if that does not end within it. -/
theorem numericEscape_eq {value : Text} {n : Nat}
    (hletter : letter = 'x'.toNat ∨ letter = 'u'.toNat)
    (h : numericEscape letter t = .ok (value, n)) (hrest : t.drop n ≠ []) :
    ∃ w, t = w ++ t.drop n ∧ w.length = n ∧ Text.Escapes (letter :: w) value := by
  by_cases hbraced : letter = 'u'.toNat ∧ t.head? = some 0x7B
  · obtain ⟨rfl, hhead⟩ := hbraced
    obtain ⟨cs, rfl⟩ := List.head?_eq_some_iff.mp hhead
    unfold numericEscape at h
    rw [if_pos ⟨rfl, rfl⟩, List.drop_one, List.tail_cons] at h
    split at h
    · cases h
    · rename_i digits rest hsplit
      obtain ⟨rfl, hbrace⟩ := Text.splitFirst?_eq_some hsplit
      split at h
      · rename_i c hnumber
        cases h
        have hdrop : (0x7B :: (digits ++ 0x7D :: rest)).drop (digits.length + 2) = rest := by
          rw [List.drop_succ_cons, List.append_cons]
          exact List.drop_left' (by simp)
        exact ⟨0x7B :: (digits ++ [0x7D]), by rw [hdrop]; simp, by simp, .braced hbrace hnumber⟩
      · cases h
  · rw [numericEscape_unbraced hbraced] at h
    split at h
    · rename_i c hnumber
      cases h
      -- The digits are as many as they should be, as something follows them.
      have hwidth : (t.take (escapeWidth letter)).length = escapeWidth letter := by
        refine List.length_take_of_le ?_
        by_contra hshort
        refine hrest (List.drop_eq_nil_of_le ?_)
        rw [List.length_take]
        omega
      refine ⟨t.take (escapeWidth letter), ?_, rfl, ?_⟩
      · rw [hwidth, List.take_append_drop]
      · rcases hletter with rfl | rfl
        · exact .short hwidth hnumber
        · refine .long hwidth (fun hhead => hbraced ⟨rfl, ?_⟩) hnumber
          rwa [List.head?_take, if_neg (by decide)] at hhead
    · cases h

/-- The escape in front of a text, if that does not end within it. -/
theorem escape_eq {part : Text} {n : Nat} (h : escape t = .ok (part, n)) (hrest : t.drop n ≠ []) :
    ∃ escaped, t = escaped ++ t.drop n ∧ escaped.length = n ∧ Text.Escapes escaped part := by
  cases t with
  | nil => exact nomatch h
  | cons c cs =>
    by_cases hnewline : c = Text.newline
    · rw [escape, if_pos hnewline] at h
      cases h
      exact ⟨[c], rfl, rfl, hnewline ▸ .continued⟩
    · by_cases hletter : c = 'x'.toNat ∨ c = 'u'.toNat
      · rw [escape_numeric hletter] at h
        cases hfound : numericEscape c cs with
        | error fault =>
          rw [hfound] at h
          exact nomatch h
        | ok found =>
          obtain ⟨value, length⟩ := found
          rw [hfound] at h
          cases h
          obtain ⟨w, hsplit, rfl, hescapes⟩ := numericEscape_eq hletter hfound hrest
          exact ⟨c :: w, congrArg (c :: ·) hsplit, rfl, hescapes⟩
      · cases hcontrol : controlEscape? c with
        | some d =>
          rw [escape, if_neg hnewline, hcontrol] at h
          cases h
          exact ⟨[c], rfl, rfl, .control hcontrol⟩
        | none =>
          rw [escape, if_neg hnewline, hcontrol] at h
          dsimp only at h
          rw [if_neg hletter] at h
          cases h
          exact ⟨[c], rfl, rfl, .itself hnewline hcontrol hletter⟩

/-- The code points of an escape are passed over. -/
theorem stringRest_skip (offset : Nat) (value w rest : Text) :
    stringRest quote w.length offset value (w ++ rest) =
      stringRest quote 0 (offset + w.length) value rest := by
  induction w generalizing offset with
  | nil => rfl
  | cons c w ih =>
    rw [List.length_cons, List.cons_append, stringRest, ih]
    congr 1
    omega

/-- What is written between quotes is read, and then the scanner goes on behind it. -/
theorem stringRest_quotes {body value rest : Text} (hquote : quote ≠ '\\'.toNat)
    (h : Text.Quotes quote body value) (hrest : rest.head? ≠ some 0x7B) (offset : Nat)
    (seen : Text) :
    stringRest quote 0 offset seen (body ++ rest) =
      stringRest quote 0 (offset + body.length) (value.reverse ++ seen) rest := by
  induction h generalizing offset seen with
  | nil => rfl
  | @plain c body value inside plain inline literal more ih =>
    have hliteral : ¬(quote = '`'.toNat ∧ c = '$'.toNat ∧ (body ++ rest).head? = some 0x7B) := by
      rintro ⟨hback, hdollar, hbrace⟩
      cases body with
      | nil => exact hrest hbrace
      | cons d body => exact literal ⟨hback, hdollar, hbrace⟩
    rw [List.cons_append, stringRest, if_neg inside, if_neg fun h => h.2 (inline h.1),
      if_neg hliteral, if_neg plain, ih, List.reverse_cons, List.append_assoc, List.length_cons,
      Nat.add_assoc, Nat.add_comm 1]
    rfl
  | @escape escaped part body value escape more ih =>
    rw [List.cons_append, List.append_assoc, stringRest, if_neg (Ne.symm hquote),
      if_neg fun h => absurd h.1 (by decide), if_neg fun h => absurd h.2.1 (by decide),
      if_pos rfl, escape_append escape]
    dsimp only
    rw [stringRest_skip, ih, List.reverse_append, List.append_assoc]
    simp [Nat.add_assoc, Nat.add_comm, Nat.add_left_comm]

/-- A quoted text is found as it is written. -/
theorem stringRest_append {body value : Text} (hquote : quote ≠ '\\'.toNat ∧ quote ≠ 0x7B)
    (h : Text.Quotes quote body value) (offset : Nat) (seen rest : Text) :
    stringRest quote 0 offset seen (body ++ quote :: rest) =
      .ok (.token .string (seen.reverse ++ value) (offset + body.length)) := by
  have hrest : (quote :: rest).head? ≠ some 0x7B := fun h => hquote.2 (Option.some.inj h)
  rw [stringRest_quotes hquote.1 h hrest, stringRest, if_pos rfl, List.reverse_append,
    List.reverse_reverse]

/-- The quoted text in front of a text. -/
theorem stringRest_eq {skip offset : Nat} {seen value : Text} {kind : TokenKind} {n : Nat}
    (h : stringRest quote skip offset seen t = .ok (.token kind value n)) :
    ∃ body part rest, t.drop skip = body ++ quote :: rest ∧ offset + skip + body.length = n ∧
      kind = .string ∧ value = seen.reverse ++ part ∧ Text.Quotes quote body part := by
  fun_induction stringRest with
  | case1 | case4 | case5 | case7 => cases h
  | case2 skip offset seen c cs ih =>
    obtain ⟨body, part, rest, hsplit, hlength, hfound⟩ := ih h
    exact ⟨body, part, rest, hsplit, by omega, hfound⟩
  | case3 offset seen cs =>
    cases h
    exact ⟨[], [], cs, rfl, rfl, rfl, (List.append_nil _).symm, .nil⟩
  | case6 offset seen cs part length hescape _ _ _ ih =>
    obtain ⟨body, more, rest, hsplit, rfl, rfl, rfl, hmore⟩ := ih h
    have hrest : cs.drop length ≠ [] := by
      rw [hsplit]
      simp
    obtain ⟨escaped, hcs, rfl, hescapes⟩ := escape_eq hescape hrest
    refine ⟨'\\'.toNat :: (escaped ++ body), part ++ more, rest, ?_, ?_, rfl, ?_,
      .escape hescapes hmore⟩
    · rw [List.drop_zero, List.cons_append, List.append_assoc, ← hsplit, ← hcs]
    · simp [Nat.add_assoc, Nat.add_comm, Nat.add_left_comm]
    · rw [List.reverse_append, List.reverse_reverse, List.append_assoc]
  | case8 offset seen c cs hquote hinline hliteral hslash ih =>
    obtain ⟨body, more, rest, hsplit, rfl, rfl, rfl, hmore⟩ := ih h
    rw [List.drop_zero] at hsplit
    subst hsplit
    refine ⟨c :: body, c :: more, rest, rfl, ?_, rfl, ?_,
      .plain hquote hslash (fun hc => ?_) ?_ hmore⟩
    · rw [List.length_cons]
      omega
    · rw [List.reverse_cons, List.append_assoc]
      rfl
    · exact not_not.mp fun hback => hinline ⟨hc, hback⟩
    · rintro ⟨hback, hdollar, hbrace⟩
      obtain ⟨more, rfl⟩ := List.head?_eq_some_iff.mp hbrace
      exact hliteral ⟨hback, hdollar, rfl⟩

end Piece

end Conform
