import Conform.Pattern.Tree

/-!
# Building expressions

Short names for the expressions that fixed formats are made of.
-/

namespace Conform.Regex

/-- One code point as it stands. -/
def char (c : Char) : Regex := .unit (.one .exact false c.toNat)

/-- A text as it stands. -/
def chars (s : String) : Regex := sequence (s.toList.map char)

/-- One member of a set. -/
def oneOf (items : List SetItem) : Regex := .unit (.set ⟨false, .exact, items⟩)

/-- One member of a set, whatever its case. -/
def oneOfFolded (items : List SetItem) : Regex := .unit (.set ⟨false, .unicode, items⟩)

/-- One code point between two others. -/
def between (low high : Char) : SetItem := .range low.toNat high.toNat

/-- The listed code points. -/
def listed (s : String) : List SetItem := s.toList.map fun c => .one c.toNat

/-- A decimal digit of any script. -/
def digit : Regex := .unit (.set ⟨false, .exact, [.named .digit false .unicode]⟩)

/-- A fixed number of rounds. -/
def times (n : Nat) (r : Regex) : Regex := .rounds .greedy n (some n) r

/-- At least some rounds. -/
def atLeast (n : Nat) (r : Regex) : Regex := .rounds .greedy n none r

/-- One round or none. -/
def maybe (r : Regex) : Regex := .rounds .greedy 0 (some 1) r

/-- A whole text; one line feed may follow it. -/
def wholeText (rs : List Regex) : Regex :=
  sequence (.anchor .textStart :: (rs ++ [.anchor .finalEnd]))

end Conform.Regex
