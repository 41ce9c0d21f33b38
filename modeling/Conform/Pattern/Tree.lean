import Conform.Text.Blank
import Conform.Text.Case
import Conform.Text.Letter

/-!
# Regular expressions

The trees of regular expressions. All flags are resolved while a pattern is read, so each node says
itself how it treats letter case, lines and character classes.

## Main definitions

- `CharSet` — a set of code points, with `CharSet.has`
- `Atom` — what is matched by one code point
- `Regex` — expressions over atoms
- `Regex.width` — the least and the greatest length of a matched text
-/

namespace Conform

/-- How letter case is treated. -/
inductive Folding
  | exact
  | ascii
  | unicode
  deriving DecidableEq, Repr

/-- Which code points the classes of digits, blanks and word characters hold. -/
inductive Repertoire
  | ascii
  | unicode
  deriving DecidableEq, Repr

/-- The three named classes. -/
inductive ClassName
  | digit
  | blank
  | word
  deriving DecidableEq, Repr

/-- Whether a code point is in a named class. -/
def ClassName.has (name : ClassName) (repertoire : Repertoire) (c : CodePoint) : Bool :=
  match name, repertoire with
  | .digit, .ascii => Text.isDigit c
  | .digit, .unicode => Text.isDecimal c
  | .blank, .ascii => (9 ≤ c && c ≤ 13) || c == 32
  | .blank, .unicode => Text.isBlank c
  | .word, .ascii => Text.isAsciiLetter c || Text.isDigit c || c == '_'.toNat
  | .word, .unicode => Text.isAlphanumeric c || c == '_'.toNat

/-- A member of a character set. -/
inductive SetItem
  | one (c : CodePoint)
  | range (low high : CodePoint)
  | named (name : ClassName) (negated : Bool) (repertoire : Repertoire)
  deriving DecidableEq, Repr

/-- The form of a code point that is looked up in a set. -/
def Folding.key (folding : Folding) (c : CodePoint) : CodePoint :=
  match folding with
  | .exact => c
  | .ascii => if 65 ≤ c ∧ c ≤ 90 then c + 32 else c
  | .unicode => Text.lowerOne c

/-- The code points with a given small form. -/
def Text.lowerSources (small : CodePoint) : List CodePoint :=
  (small :: 0x130 :: Text.lowerRuns.map
    fun run => (Int.ofNat small - run.shift).toNat).filter fun c => Text.lowerOne c == small

/-- Whether a key is the small form, or equivalent to the small form, of a code point between two
bounds. A small form is its own, so a key between the bounds needs no search. -/
def foldedBetween (low high key : CodePoint) : Bool :=
  (low ≤ key && key ≤ high && Text.lowerOne key == key)
    || (key :: Text.otherCases key).any fun small =>
      (Text.lowerSources small).any fun c => low ≤ c && c ≤ high

/-- Whether a set member holds a code point whose key is given. Beyond the basic plane, a single
code point is compared as it stands and a range also with the capital of the key. -/
def SetItem.has (folding : Folding) (key : CodePoint) : SetItem → Bool
  | .one c =>
    match folding with
    | .exact => key == c
    | .ascii => key == Folding.ascii.key c
    | .unicode =>
      let small := Text.lowerOne c
      if small > 0xFFFF then key == c else key == small || (Text.otherCases small).contains key
  | .range low high =>
    match folding with
    | .exact => low ≤ key && key ≤ high
    | .ascii =>
      (low ≤ key && key ≤ high) || (97 ≤ key && key ≤ 122 && low ≤ key - 32 && key - 32 ≤ high)
    | .unicode =>
      foldedBetween low (min high 0xFFFF) key
        || (high > 0xFFFF
            && ((low ≤ key && key ≤ high)
                || (low ≤ Text.upperOne key && Text.upperOne key ≤ high)))
  | .named name negated repertoire => name.has repertoire key != negated

/-- Whether letter case matters for a code point that is not matched as it stands. -/
def Folding.isCased (folding : Folding) (c : CodePoint) : Bool :=
  match folding with
  | .exact => false
  | .ascii => Text.isAsciiLetter c
  | .unicode => Text.isCased c

/-- Whether letter case matters for a set member. Members beyond the basic plane count as cased. -/
def SetItem.isCased (folding : Folding) : SetItem → Bool
  | .one c => folding != .exact && (c > 0xFFFF || folding.isCased c)
  | .range low high =>
    folding != .exact
      && (high > 0xFFFF || (List.range' low (high + 1 - low)).any folding.isCased)
  | .named _ _ _ => false

/-- A set of code points given by its members or, when negated, by what it leaves out. -/
structure CharSet where
  negated : Bool
  folding : Folding
  items : List SetItem
  deriving DecidableEq, Repr

/-- A set under a treatment of letter case, which is dropped where it does not matter. -/
def CharSet.of (negated : Bool) (folding : Folding) (items : List SetItem) : CharSet :=
  ⟨negated, if items.any (·.isCased folding) then folding else .exact, items⟩

/-- Whether a code point is in a set. -/
def CharSet.has (s : CharSet) (c : CodePoint) : Bool :=
  (s.items.any fun item => item.has s.folding (s.folding.key c)) != s.negated

/-- Whether a single code point of a pattern matches a code point of the text. -/
def Folding.same (folding : Folding) (c d : CodePoint) : Bool :=
  match folding with
  | .exact => c == d
  | .ascii => folding.key c == folding.key d
  | .unicode =>
    folding.key c == folding.key d || (Text.otherCases (folding.key c)).contains (folding.key d)

/-- Conditions on a place between two code points. -/
inductive Anchor
  | textStart
  | lineStart
  | textEnd
  | lineEnd
  /-- The end of the text, or the place before one line feed that ends it. -/
  | finalEnd
  | boundary (repertoire : Repertoire) (negated : Bool)
  deriving DecidableEq, Repr

/-- What is matched by one code point. -/
inductive Atom
  | one (folding : Folding) (negated : Bool) (c : CodePoint)
  | set (s : CharSet)
  | anyButNewline
  | any
  deriving DecidableEq, Repr

/-- A code point, or any but it, under a treatment of letter case, which is dropped where it does
not matter. -/
def Atom.ofOne (folding : Folding) (negated : Bool) (c : CodePoint) : Atom :=
  .one (if folding.isCased c then folding else .exact) negated c

/-- Whether a code point is matched. -/
def Atom.has : Atom → CodePoint → Bool
  | .one folding negated c, d => folding.same c d != negated
  | .set s, d => s.has d
  | .anyButNewline, d => d != Text.newline
  | .any, _ => true

/-- The only code point that is matched, if it is matched as it stands. -/
def Atom.only? : Atom → Option CodePoint
  | .one .exact false c => some c
  | _ => none

/-- Whether the next code point alone tells that the atom cannot match, without a step being
taken: so it is for single code points and sets that are matched as they stand. -/
def Atom.isDirect : Atom → Bool
  | .one folding negated _ => folding == .exact && !negated
  | .set s => s.folding == .exact
  | _ => false

/-- Whether a run of the atom is taken step by step: so it is for sets whose members have case, and
for single code points with further cases. -/
def Atom.isStepwise : Atom → Bool
  | .one folding _ c => folding == .unicode && !(Text.otherCases (folding.key c)).isEmpty
  | .set s => s.folding != .exact
  | _ => false

/-- How a repetition chooses its number of rounds. -/
inductive Greed
  | greedy
  | lazy
  | possessive
  deriving DecidableEq, Repr

/-- Regular expressions. -/
inductive Regex
  | empty
  | unit (a : Atom)
  | anchor (a : Anchor)
  | seq (first second : Regex)
  | alt (first second : Regex)
  | rounds (greed : Greed) (least : Nat) (most : Option Nat) (body : Regex)
  | group (index : Nat) (body : Regex)
  /-- An uncaptured group with flags of its own. -/
  | scope (body : Regex)
  | atomic (body : Regex)
  | backref (folding : Folding) (index : Nat)
  | ahead (negated : Bool) (body : Regex)
  | behind (negated : Bool) (width : Nat) (body : Regex)
  | ifGroup (index : Nat) (yes no : Regex)

namespace Regex

/-- One expression after another. -/
def sequence : List Regex → Regex
  | [] => .empty
  | [r] => r
  | r :: rs => .seq r (sequence rs)

/-- Whether an expression is a choice. -/
def isChoice : Regex → Bool
  | .alt _ _ => true
  | _ => false

/-- One of several expressions, the first that leads to a match. The second half of a choice is the
rest of that choice if it is a choice, so a last expression that is a choice is set apart. -/
def choice : List Regex → Regex
  | [] => .empty
  | [r] => if r.isChoice then .seq r .empty else r
  | r :: rs => .alt r (choice rs)

/-- An expression without its outer scopes. -/
def unscoped : Regex → Regex
  | .scope r => r.unscoped
  | r => r

/-- The atom that an expression begins with, given the one that what follows it begins with. -/
def opening (next : Option Atom) : Regex → Option Atom
  | .empty => next
  | .unit a => some a
  | .scope r => r.opening next
  | .seq r s => r.opening (s.opening next)
  | _ => none

end Regex

/-- The least and the greatest number of code points matched; both are cut off at `2^64`. -/
structure Width where
  least : Nat
  greatest : Nat
  deriving DecidableEq, Repr

namespace Width

/-- The width that stands for no bound. -/
def limit : Nat := 1 <<< 64

/-- Cuts both numbers off. -/
def capped (w : Width) : Width := ⟨min w.least limit, min w.greatest limit⟩

/-- The width of two expressions in a row. -/
def add (v w : Width) : Width := ⟨v.least + w.least, v.greatest + w.greatest⟩

/-- The width of one of two expressions. -/
def either (v w : Width) : Width := ⟨min v.least w.least, max v.greatest w.greatest⟩

/-- The width of a repetition. -/
def repeated (least : Nat) (most : Option Nat) (w : Width) : Width :=
  ⟨w.least * least, match most with
    | some n => w.greatest * n
    | none => if w.greatest = 0 then 0 else limit⟩

end Width

/-- The width of an expression, given the widths of the groups it refers to. -/
def Regex.width (groups : Nat → Width) : Regex → Width
  | .empty => ⟨0, 0⟩
  | .unit _ => ⟨1, 1⟩
  | .anchor _ => ⟨0, 0⟩
  | .seq r s => (r.width groups).add (s.width groups)
  | .alt r s => (r.width groups).capped.either (s.width groups).capped
  | .rounds _ least most r => (r.width groups).capped.repeated least most
  | .group _ r => (r.width groups).capped
  | .scope r => (r.width groups).capped
  | .atomic r => (r.width groups).capped
  | .backref _ n => groups n
  | .ahead _ _ => ⟨0, 0⟩
  | .behind _ _ _ => ⟨0, 0⟩
  | .ifGroup _ yes no => (yes.width groups).capped.either (no.width groups).capped

end Conform
