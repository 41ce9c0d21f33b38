import Conform.Number.Reading
import Conform.Pattern.Fault
import Conform.Pattern.Tree
import Conform.Text.CharacterName
import Conform.Text.Name

/-!
# Reading regular expressions

A pattern is read piece by piece, a piece being one code point or a backslash with the code point
after it. Flags, group names and group numbers are resolved on the way, and each fault is reported
at the place where the reading stood when it was found.

## Main definitions

- `Regex.read` — the expression of a pattern text, with the names of its groups
-/

namespace Conform.Regex

/-- The flags that a pattern can set for itself. -/
inductive Flag
  | ignoreCase
  | multiline
  | dotAll
  | verbose
  | ascii
  | unicode
  | template
  deriving DecidableEq, Repr

/-- The flag of a letter, if it is one that a text pattern may use. -/
def Flag.ofLetter? (c : CodePoint) : Option Flag :=
  if c = 'i'.toNat then some .ignoreCase
  else if c = 'm'.toNat then some .multiline
  else if c = 's'.toNat then some .dotAll
  else if c = 'x'.toNat then some .verbose
  else if c = 'a'.toNat then some .ascii
  else if c = 'u'.toNat then some .unicode
  else if c = 't'.toNat then some .template
  else none

/-- Whether a flag chooses a repertoire, of which there can be one only. -/
def Flag.choosesRepertoire (f : Flag) : Bool := f == .ascii || f == .unicode

/-- The flags in force within a group that turns some on and some off. -/
def Flag.within (flags on off : List Flag) : List Flag :=
  let kept := if on.any (·.choosesRepertoire) then flags.filter (!·.choosesRepertoire) else flags
  (kept ++ on).filter fun f => !off.contains f

/-- The treatment of letter case under some flags. -/
def Flag.folding (flags : List Flag) : Folding :=
  if flags.contains .ignoreCase then (if flags.contains .ascii then .ascii else .unicode)
  else .exact

/-- The repertoire of the named classes under some flags. -/
def Flag.repertoire (flags : List Flag) : Repertoire :=
  if flags.contains .ascii then .ascii else .unicode

/-- A code point, or a backslash with a code point. -/
inductive Piece
  | plain (c : CodePoint)
  | escaped (c : CodePoint)
  deriving DecidableEq, Repr

/-- The text of a piece. -/
def Piece.text : Piece → Text
  | .plain c => [c]
  | .escaped c => ['\\'.toNat, c]

/-- Where the reading stands and what it has seen. -/
structure Progress where
  rest : Text
  position : Nat
  flags : List Flag
  /-- The widths of the groups opened so far, none for those still open. -/
  groups : List (Option Width)
  names : List (Text × Nat)
  /-- How many groups there were where the outermost open look-behind began. -/
  behindLimit : Option Nat
  /-- The first place of each numbered condition. -/
  conditions : List (Nat × Nat)

/-- A reading step. -/
abbrev Reading := StateT Progress (Except Failure)

/-- Fails at an offset. -/
def failAt {α : Type} (fault : Fault) (position : Nat) : Reading α :=
  throw (.located fault position)

/-- Fails some places before the current piece. -/
def failBack {α : Type} (fault : Fault) (back : Nat) : Reading α := do
  failAt fault ((← get).position - back)

/-- The current piece. -/
def Progress.next? (p : Progress) : Option Piece :=
  match p.rest with
  | [] => none
  | c :: cs =>
    if c = '\\'.toNat then
      match cs with
      | d :: _ => some (.escaped d)
      | [] => some (.plain c)
    else some (.plain c)

/-- Whether the rest is a backslash with nothing after it. -/
def endsInBackslash (rest : Text) : Bool := rest == ['\\'.toNat]

/-- Moves past the current piece and returns it. A lone backslash at the end is a fault as soon as
it is reached. -/
def take? : Reading (Option Piece) := do
  let p ← get
  match p.next? with
  | none => return none
  | some piece =>
    let size := piece.text.length
    let rest := p.rest.drop size
    if endsInBackslash rest then failAt .escapeAtEnd (p.position + size)
    else
      set { p with rest := rest, position := p.position + size }
      return some piece

/-- The current piece. -/
def peek? : Reading (Option Piece) := do return (← get).next?

/-- Moves past the current piece if it is the given code point. -/
def accept (c : CodePoint) : Reading Bool := do
  if (← peek?) = some (.plain c) then
    let _ ← take?
    return true
  else return false

/-- Takes up to `count` pieces that are single code points with a property. -/
def takeSome (p : CodePoint → Bool) : (count : Nat) → Reading Text
  | 0 => return []
  | count + 1 => do
    match ← peek? with
    | some (.plain c) =>
      if p c then
        let _ ← take?
        return c :: (← takeSome p count)
      else return []
    | _ => return []

/-- Takes all following ASCII digits. -/
def takeDigits : Reading Text := do takeSome Text.isDigit (← get).rest.length

/-- Takes a name up to its closing mark, which is dropped. -/
def takeName (closer : CodePoint) (what : Text) : (fuel : Nat) → (name : Text) → Reading Text
  | 0, _ => throw .tooDeep
  | fuel + 1, name => do
    match ← take? with
    | none =>
      if name.isEmpty then failBack (.missing what) 0
      else failBack (.unterminatedName closer) name.length
    | some piece =>
      if piece = .plain closer then
        if name.isEmpty then failBack (.missing what) 1 else return name
      else takeName closer what fuel (name ++ piece.text)

/-- Takes a name of any length. -/
def takeWholeName (closer : CodePoint) (what : Text) : Reading Text := do
  takeName closer what ((← get).rest.length + 1) []

/-- Refuses a group name that is not a name; its closing mark has been taken. -/
def checkName (name : Text) : Reading PUnit := do
  if !Text.isName name then failBack (.badName name) (name.length + 1)

/-- The number of groups, the whole match included. -/
def groupCount : Reading Nat := do return (← get).groups.length + 1

/-- Whether a group has been closed. -/
def isClosed (index : Nat) : Reading Bool := do
  return index = 0 || ((← get).groups[index - 1]?.bind id).isSome

/-- Refuses a reference from a look-behind to a group that is open or began inside it. -/
def checkBehind (index : Nat) : Reading PUnit := do
  match (← get).behindLimit with
  | none => return ()
  | some limit =>
    if !(← isClosed index) || index = 0 then failBack .openGroup 0
    else if index ≥ limit then failBack .groupOfSameLookbehind 0

/-- The code point of a row of hexadecimal or octal digits. -/
def digitsIn (base : Nat) (digits : Text) : Nat :=
  digits.foldl (fun n c => base * n + (Text.hexValue? c).getD 0) 0

/-- Whether a code point is an octal digit. -/
def isOctal (c : CodePoint) : Bool := 48 ≤ c && c ≤ 55

/-- The control characters with an escape letter. -/
def controlEscape? (c : CodePoint) : Option CodePoint :=
  if c = 'a'.toNat then some 7
  else if c = 'b'.toNat then some 8
  else if c = 'f'.toNat then some 12
  else if c = 'n'.toNat then some 10
  else if c = 'r'.toNat then some 13
  else if c = 't'.toNat then some 9
  else if c = 'v'.toNat then some 11
  else if c = '\\'.toNat then some 92
  else none

/-- The named class of an escape letter; a capital negates it. -/
def classEscape? (c : CodePoint) : Option (ClassName × Bool) :=
  if c = 'd'.toNat then some (.digit, false)
  else if c = 'D'.toNat then some (.digit, true)
  else if c = 's'.toNat then some (.blank, false)
  else if c = 'S'.toNat then some (.blank, true)
  else if c = 'w'.toNat then some (.word, false)
  else if c = 'W'.toNat then some (.word, true)
  else none

/-- The place named by an escape letter. -/
def anchorEscape? (flags : List Flag) (c : CodePoint) : Option Anchor :=
  if c = 'A'.toNat then some .textStart
  else if c = 'Z'.toNat then some .textEnd
  else if c = 'b'.toNat then some (.boundary (Flag.repertoire flags) false)
  else if c = 'B'.toNat then some (.boundary (Flag.repertoire flags) true)
  else none

/-- Reads an escape of a fixed number of hexadecimal digits. -/
def hexEscape (start : Nat) (letter : CodePoint) (width : Nat) : Reading CodePoint := do
  let digits ← takeSome (fun c => (Text.hexValue? c).isSome) width
  let escape := '\\'.toNat :: letter :: digits
  if digits.length ≠ width then failAt (.incompleteEscape escape) start
  else
    let n := digitsIn 16 digits
    if n > 0x10FFFF then failAt (.badEscape escape) start else return n

/-- Reads the name of a character in braces. -/
def namedEscape : Reading CodePoint := do
  if !(← accept 0x7B) then failBack (.missing "\x7b") 0
  else
    let name ← takeWholeName 0x7D "character name"
    match CharacterName.codePoint? name with
    | some c => return c
    | none => failBack (.undefinedCharacter name) (name.length + 4)

/-- Reads the rest of an escape that stands for one code point in a set and outside alike, if the
letter begins one. -/
def codeEscape? (start : Nat) (letter : CodePoint) : Reading (Option CodePoint) := do
  if letter = 'x'.toNat then return some (← hexEscape start letter 2)
  else if letter = 'u'.toNat then return some (← hexEscape start letter 4)
  else if letter = 'U'.toNat then return some (← hexEscape start letter 8)
  else if letter = 'N'.toNat then return some (← namedEscape)
  else return none

/-- Refuses an escaped ASCII letter that means nothing; any other code point stands for itself. -/
def plainEscape (start : Nat) (letter : CodePoint) : Reading CodePoint := do
  if Text.isAsciiLetter letter || Text.isDigit letter then
    failAt (.badEscape ['\\'.toNat, letter]) start
  else return letter

/-- Reads the rest of an escape inside a set. -/
def setEscape (flags : List Flag) (start : Nat) (letter : CodePoint) : Reading SetItem := do
  match controlEscape? letter with
  | some c => return .one c
  | none =>
    match classEscape? letter with
    | some (name, negated) => return .named name negated (Flag.repertoire flags)
    | none =>
      match ← codeEscape? start letter with
      | some c => return .one c
      | none =>
        if isOctal letter then
          let digits := letter :: (← takeSome isOctal 2)
          let n := digitsIn 8 digits
          if n > 0o377 then failAt (.octalOutOfRange ('\\'.toNat :: digits)) start
          else return .one n
        else return .one (← plainEscape start letter)

/-- The expression for one code point. -/
def literal (flags : List Flag) (c : CodePoint) : Regex :=
  .unit (.ofOne (Flag.folding flags) false c)

/-- Reads the rest of a numeric escape that starts with a digit other than zero: an octal code of
three digits, or the number of a group. -/
def numberEscape (flags : List Flag) (start : Nat) (first : CodePoint) : Reading Regex := do
  let second ← takeSome Text.isDigit 1
  let digits := first :: second
  let third ← (if second.length = 1 ∧ digits.all isOctal then takeSome isOctal 1 else pure [])
  let escape := '\\'.toNat :: (digits ++ third)
  if third.length = 1 then
    let n := digitsIn 8 (digits ++ third)
    if n > 0o377 then failAt (.octalOutOfRange escape) start else return literal flags n
  else
    let index := Text.digitsValue digits
    if index < (← groupCount) then
      if !(← isClosed index) then failAt .openGroup start
      else
        checkBehind index
        return .backref (Flag.folding flags) index
    else failAt (.invalidReference index) (start + 1)

/-- Reads the rest of an escape outside sets. -/
def escape (flags : List Flag) (start : Nat) (letter : CodePoint) : Reading Regex := do
  match anchorEscape? flags letter with
  | some a => return .anchor a
  | none =>
    match classEscape? letter with
    | some (name, negated) =>
      return .unit (.set ⟨false, .exact, [.named name negated (Flag.repertoire flags)]⟩)
    | none =>
      match controlEscape? letter with
      | some c => return literal flags c
      | none =>
        match ← codeEscape? start letter with
        | some c => return literal flags c
        | none =>
          if letter = '0'.toNat then
            return literal flags (digitsIn 8 (← takeSome isOctal 2))
          else if Text.isDigit letter then numberEscape flags start letter
          else return literal flags (← plainEscape start letter)

/-- Reads one member of a set, whose first piece has been taken. -/
def setMember (flags : List Flag) (start : Nat) : Piece → Reading SetItem
  | .plain c => return .one c
  | .escaped c => setEscape flags start c

/-- Reads the members of a set up to its closing bracket; `here` is the place of the opening one. -/
def setMembers (flags : List Flag) (here : Nat) : (fuel : Nat) → List SetItem →
    Reading (List SetItem)
  | 0, _ => throw .tooDeep
  | fuel + 1, items => do
    let start := (← get).position
    match ← take? with
    | none => failAt .unterminatedSet here
    | some this =>
      if this = .plain ']'.toNat ∧ items ≠ [] then return items
      else
        let low ← setMember flags start this
        if ← accept '-'.toNat then
          let middle := (← get).position
          match ← take? with
          | none => failAt .unterminatedSet here
          | some that =>
            if that = .plain ']'.toNat then return items ++ [low, .one '-'.toNat]
            else
              let high ← setMember flags middle that
              match low, high with
              | .one a, .one b =>
                if b < a then
                  failBack (.badRange this.text that.text) (this.text.length + 1 + that.text.length)
                else setMembers flags here fuel (items ++ [.range a b])
              | _, _ =>
                failBack (.badRange this.text that.text) (this.text.length + 1 + that.text.length)
        else setMembers flags here fuel (items ++ [low])

/-- Reads a set whose opening bracket has been taken. A set of one code point is that code point. -/
def charSet (flags : List Flag) : Reading Regex := do
  let here := (← get).position - 1
  let negated ← accept '^'.toNat
  let items ← setMembers flags here ((← get).rest.length + 1) []
  let folding := Flag.folding flags
  match items.eraseDups with
  | [.one c] => return .unit (.ofOne folding negated c)
  | distinct => return .unit (.set (.of negated folding distinct))

/-- The number from which on a count of repetitions is refused. -/
def countLimit : Nat := 0xFFFFFFFF

/-- The value of the digits of a count, which may not be too many. -/
def countOf (digits : Text) : Reading Nat :=
  if digits.length > Number.digitLimit then throw (.countTooLong digits.length)
  else if Text.digitsValue digits ≥ countLimit then throw .repetitionTooLarge
  else return Text.digitsValue digits

/-- Reads a count of repetitions in braces, the opening one taken; none if it is no count. -/
def braceCount? (here : Nat) : Reading (Option (Nat × Option Nat)) := do
  let low ← takeDigits
  let comma ← accept ','.toNat
  let high ← (if comma then takeDigits else pure low)
  if !(← accept 0x7D) then return none
  else
    let least ← countOf low
    if high = [] then return some (least, none)
    else
      let most ← countOf high
      if most < least then failAt .minAboveMax here else return some (least, some most)

/-- Reads the count of a repetition whose first code point has been taken; none if an opening brace
stands for itself. -/
def repeatCount? (mark : CodePoint) (here : Nat) : Reading (Option (Nat × Option Nat)) := do
  if mark = '?'.toNat then return some (0, some 1)
  else if mark = '*'.toNat then return some (0, none)
  else if mark = '+'.toNat then return some (1, none)
  else
    let before ← get
    if before.next? = some (.plain 0x7D) then return none
    else
      match ← braceCount? here with
      | some counts => return some counts
      | none =>
        set before
        return none

/-- An item of a sequence: an expression, or an uncaptured group without flags of its own, whose
items become items of the sequence unless a repetition follows. -/
inductive Item
  | one (r : Regex)
  | plain (items : List Regex)

/-- The expressions of an item. -/
def Item.parts : Item → List Regex
  | .one r => [r]
  | .plain items => items

/-- The expressions of items that stand in reverse order. -/
def Item.sequence (items : List Item) : List Regex := items.reverse.flatMap Item.parts

/-- Puts the last of the items read so far, which stand in reverse order, under a repetition. -/
def repeatLast (flags : List Flag) (mark : CodePoint) (items : List Item) :
    Reading (List Item) := do
  let here := (← get).position
  match ← repeatCount? mark here with
  | none => return .one (literal flags mark) :: items
  | some (least, most) =>
    match items with
    | [] => failAt .nothingToRepeat (here - 1)
    | .one (.anchor _) :: _ => failAt .nothingToRepeat (here - 1)
    | .one (.rounds _ _ _ _) :: _ => failAt .multipleRepeat (here - 1)
    | item :: others =>
      let body := (Regex.sequence item.parts).unscoped
      let greed ← (do
        if ← accept '?'.toNat then return Greed.lazy
        else if ← accept '+'.toNat then return .possessive
        else return .greedy)
      return .one (.rounds greed least most body) :: others

/-- The places at the beginning of lines or of the text. -/
def startAnchor (flags : List Flag) : Anchor :=
  if flags.contains .multiline then .lineStart else .textStart

/-- The places at the end of lines or of the text. -/
def endAnchor (flags : List Flag) : Anchor :=
  if flags.contains .multiline then .lineEnd else .finalEnd

/-- The single code point, or the members of the set, that a branch stands for. -/
def setItems? : List Regex → Option (List SetItem)
  | [.unit (.one _ false c)] => some [.one c]
  | [.unit (.set ⟨false, _, items⟩)] => some items
  | _ => none

/-- Whether two expressions are the same atom, anchor or reference. -/
def isSameStep : Regex → Regex → Bool
  | .unit a, .unit b => a == b
  | .anchor a, .anchor b => a == b
  | .backref f m, .backref g n => f == g && m == n
  | _, _ => false

/-- The steps that a branch and all others begin with, and the branches without them. -/
def splitCommon : (first : List Regex) → (others : List (List Regex)) →
    List Regex × List (List Regex)
  | [], others => ([], [] :: others)
  | r :: rs, others =>
    if others.all fun other => other.head?.any (isSameStep r) then
      let (common, rest) := splitCommon rs (others.map List.tail)
      (r :: common, rest)
    else ([], (r :: rs) :: others)

/-- A choice between several branches. What all branches begin with stands before the choice, and
a choice between single code points and sets is one set. -/
def joinBranches (folding : Folding) (branches : List (List Regex)) : List Regex :=
  match branches with
  | [] => []
  | [branch] => branch
  | first :: others =>
    let (common, rest) := splitCommon first others
    match rest.mapM setItems? with
    | some sets => common ++ [.unit (.set (.of false folding sets.flatten.eraseDups))]
    | none => common ++ [choice (rest.map Regex.sequence)]

/-- The flag of a piece that is one flag letter. -/
def flagOf? : Piece → Option Flag
  | .plain c => Flag.ofLetter? c
  | .escaped _ => none

/-- Whether a piece is the letter of the locale flag, which text patterns cannot use. -/
def isLocaleFlag (piece : Piece) : Bool := piece == .plain 'L'.toNat

/-- The fault of a piece that should have been a flag. -/
def flagFault (expected : Text) : Piece → Fault
  | .plain c => if Text.isLetter c then .unknownFlag else .missing expected
  | .escaped _ => .missing expected

/-- Reads flags to be turned on, the first letter taken, up to the mark that ends them. -/
def flagsOn : (fuel : Nat) → (piece : Piece) → (on : List Flag) →
    Reading (List Flag × CodePoint)
  | 0, _, _ => throw .tooDeep
  | fuel + 1, piece, on => do
    if isLocaleFlag piece then failBack .localeFlag 0
    else
      match flagOf? piece with
      | none => throw .tooDeep
      | some flag =>
        let on := if on.contains flag then on else on ++ [flag]
        if flag.choosesRepertoire && on.any fun f => f.choosesRepertoire && f != flag then
          failBack .incompatibleTypeFlags 0
        else
          match ← take? with
          | none => failBack (.missing "-, : or )") 0
          | some (.plain c) =>
            if c = ')'.toNat ∨ c = '-'.toNat ∨ c = ':'.toNat then return (on, c)
            else if isLocaleFlag (.plain c) || (Flag.ofLetter? c).isSome then
              flagsOn fuel (.plain c) on
            else failBack (flagFault "-, : or )" (.plain c)) 1
          | some piece => failBack (flagFault "-, : or )" piece) piece.text.length

/-- Reads flags to be turned off, the first letter taken, up to the colon that ends them. -/
def flagsOff : (fuel : Nat) → (piece : Piece) → (off : List Flag) → Reading (List Flag)
  | 0, _, _ => throw .tooDeep
  | fuel + 1, piece, off => do
    if isLocaleFlag piece then failBack .typeFlagOff 0
    else
      match flagOf? piece with
      | none => throw .tooDeep
      | some flag =>
        if flag.choosesRepertoire then failBack .typeFlagOff 0
        else
          let off := if off.contains flag then off else off ++ [flag]
          match ← take? with
          | none => failBack (.missing ":") 0
          | some (.plain c) =>
            if c = ':'.toNat then return off
            else if isLocaleFlag (.plain c) || (Flag.ofLetter? c).isSome then
              flagsOff fuel (.plain c) off
            else failBack (flagFault ":" (.plain c)) 1
          | some piece => failBack (flagFault ":" piece) piece.text.length

/-- Reads the flags of a group, the first piece taken. None means that they were flags for the
whole pattern, which have been set. -/
def groupFlags? (first : Piece) : Reading (Option (List Flag × List Flag)) := do
  let fuel := (← get).rest.length + 2
  let (on, mark) ←
    (if first = .plain '-'.toNat then pure ([], '-'.toNat) else flagsOn fuel first [])
  if mark = ')'.toNat then
    modify fun p => { p with flags := p.flags ++ on }
    return none
  else if on.contains .template then failBack .globalFlagOn 1
  else
    let off ← (if mark = '-'.toNat then do
        match ← take? with
        | none => failBack (.missing "flag") 0
        | some piece =>
          if isLocaleFlag piece || (flagOf? piece).isSome then flagsOff fuel piece []
          else failBack (flagFault "flag" piece) piece.text.length
      else pure [])
    if off.contains .template then failBack .globalFlagOff 1
    else if on.any off.contains then failBack .contradictoryFlags 1
    else return some (on, off)

/-- Skips a comment group up to its closing parenthesis; `start` is the place of its opening one. -/
def skipComment (start : Nat) : (fuel : Nat) → Reading PUnit
  | 0 => throw .tooDeep
  | fuel + 1 => do
    match ← take? with
    | none => failAt .unterminatedComment start
    | some piece => if piece = .plain ')'.toNat then return () else skipComment start fuel

/-- Skips the rest of a line. -/
def skipLine : (fuel : Nat) → Reading PUnit
  | 0 => return ()
  | fuel + 1 => do
    match ← take? with
    | none => return ()
    | some piece => if piece = .plain Text.newline then return () else skipLine fuel

/-- Opens a group, with a name if it has one, and returns its number. -/
def openGroup (name? : Option Text) : Reading Nat := do
  let index ← groupCount
  modify fun p => { p with groups := p.groups ++ [none] }
  match name? with
  | none => return index
  | some name =>
    match (← get).names.lookup name with
    | some earlier => failBack (.redefinedName name index earlier) (name.length + 1)
    | none =>
      modify fun p => { p with names := p.names ++ [(name, index)] }
      return index

/-- The widths of the groups closed so far. -/
def Progress.widths (p : Progress) (index : Nat) : Width :=
  (p.groups[index - 1]?.bind id).getD ⟨0, 0⟩

/-- Closes a group around its body. -/
def closeGroup (index : Nat) (body : Regex) : Reading PUnit :=
  modify fun p =>
    { p with groups := p.groups.set (index - 1) (some (body.width p.widths).capped) }

/-- Takes the closing parenthesis of a group that began at `start`. -/
def closeParenthesis (start : Nat) : Reading PUnit := do
  if !(← accept ')'.toNat) then failAt .unterminatedGroup start

/-- Reads the rest of a back-reference by name. -/
def namedReference (flags : List Flag) : Reading Regex := do
  let name ← takeWholeName ')'.toNat "group name"
  checkName name
  match (← get).names.lookup name with
  | none => failBack (.unknownName name) (name.length + 1)
  | some index =>
    if !(← isClosed index) then failBack .openGroup (name.length + 1)
    else
      checkBehind index
      return .backref (Flag.folding flags) index

/-- The greatest group number that a condition may name, plus one. -/
def groupLimit : Nat := 0x3FFFFFFF

/-- Reads the condition of a conditional group, a name or a number in parentheses. -/
def condition : Reading Nat := do
  let name ← takeWholeName ')'.toNat "group name"
  let index ←
    (if Text.isName name then do
      match (← get).names.lookup name with
      | some index => pure index
      | none => failBack (.unknownName name) (name.length + 1)
    else do
      match Number.integer? name with
      | some (.ofNat index) =>
        if index = 0 then failBack .badGroupNumber (name.length + 1)
        else if index ≥ groupLimit then
          failBack (.invalidReference index) (name.length + 1)
        else
          modify fun p =>
            if p.conditions.any (·.1 = index) then p
            else { p with conditions := p.conditions ++ [(index, p.position - name.length - 1)] }
          pure index
      | _ => failBack (.badName name) (name.length + 1))
  checkBehind index
  return index

/-- What the pieces after an opening parenthesis announce. -/
inductive Opening
  | capture (name? : Option Text)
  | plain
  | flags (on off : List Flag)
  | atomic
  | ahead (negated : Bool)
  | behind (negated : Bool)
  | condition (index : Nat)
  /-- Nothing follows that belongs to a group; the group gave one expression or none. -/
  | done (r? : Option Regex)
  /-- Flags for the whole pattern. -/
  | global

/-- Reads what follows a question mark at the beginning of a group. -/
def extension (flags : List Flag) (start : Nat) : Reading Opening := do
  match ← take? with
  | none => failBack .unexpectedEnd 0
  | some piece =>
    if piece = .plain 'P'.toNat then
      if ← accept '<'.toNat then
        let name ← takeWholeName '>'.toNat "group name"
        checkName name
        return .capture (some name)
      else if ← accept '='.toNat then return .done (some (← namedReference flags))
      else
        match ← take? with
        | none => failBack .unexpectedEnd 0
        | some other =>
          failBack (.unknownExtension ('P'.toNat :: other.text)) (other.text.length + 2)
    else if piece = .plain ':'.toNat then return .plain
    else if piece = .plain '#'.toNat then
      skipComment start ((← get).rest.length + 1)
      return .done none
    else if piece = .plain '='.toNat then return .ahead false
    else if piece = .plain '!'.toNat then return .ahead true
    else if piece = .plain '<'.toNat then
      match ← take? with
      | none => failBack .unexpectedEnd 0
      | some other =>
        if other = .plain '='.toNat then return .behind false
        else if other = .plain '!'.toNat then return .behind true
        else failBack (.unknownExtension ('<'.toNat :: other.text)) (other.text.length + 2)
    else if piece = .plain '('.toNat then return .condition (← condition)
    else if piece = .plain '>'.toNat then return .atomic
    else if piece = .plain '-'.toNat || isLocaleFlag piece || (flagOf? piece).isSome then
      match ← groupFlags? piece with
      | none => return .global
      | some (on, off) => return .flags on off
    else failBack (.unknownExtension piece.text) (piece.text.length + 1)

/-- How deep groups may be nested. -/
def nestingLimit : Nat := 400

/-- The flags in force: those of the enclosing scope or, outside all scopes, of the pattern. -/
def currentFlags (scope : Option (List Flag)) : Reading (List Flag) := do
  match scope with
  | some flags => return flags
  | none => return (← get).flags

mutual

/-- Reads alternatives up to a closing parenthesis or the end; `branches` have been read. -/
def alternatives (fuel depth : Nat) (scope : Option (List Flag)) (branches : List (List Regex)) :
    Reading (List Regex) :=
  match fuel with
  | 0 => throw .tooDeep
  | fuel + 1 => do
    let items ← itemsFrom fuel depth scope (depth == 0 && branches.isEmpty) []
    let branches := branches ++ [Item.sequence items]
    if ← accept '|'.toNat then alternatives fuel depth scope branches
    else return joinBranches (Flag.folding (← currentFlags scope)) branches

/-- Reads items, which stand in reverse order in `items`, up to a bar, a closing parenthesis or the
end. Flags for the whole pattern may be set while `first` holds and there is no item. -/
def itemsFrom (fuel depth : Nat) (scope : Option (List Flag)) (first : Bool)
    (items : List Item) : Reading (List Item) :=
  match fuel with
  | 0 => throw .tooDeep
  | fuel + 1 => do
    let flags ← currentFlags scope
    let verbose := flags.contains .verbose
    let start := (← get).position
    match ← peek? with
    | none => return items
    | some (.escaped letter) =>
      let _ ← take?
      itemsFrom fuel depth scope first (.one (← escape flags start letter) :: items)
    | some (.plain c) =>
      if c = '|'.toNat ∨ c = ')'.toNat then return items
      else
        let _ ← take?
        if verbose && ((9 ≤ c && c ≤ 13) || c == 32) then
          itemsFrom fuel depth scope first items
        else if verbose && c == '#'.toNat then
          skipLine (← get).rest.length
          itemsFrom fuel depth scope first items
        else if c = '['.toNat then
          itemsFrom fuel depth scope first (.one (← charSet flags) :: items)
        else if c = '?'.toNat ∨ c = '*'.toNat ∨ c = '+'.toNat ∨ c = 0x7B then
          itemsFrom fuel depth scope first (← repeatLast flags c items)
        else if c = '.'.toNat then
          let dot := if flags.contains .dotAll then Atom.any else .anyButNewline
          itemsFrom fuel depth scope first (.one (.unit dot) :: items)
        else if c = '^'.toNat then
          itemsFrom fuel depth scope first (.one (.anchor (startAnchor flags)) :: items)
        else if c = '$'.toNat then
          itemsFrom fuel depth scope first (.one (.anchor (endAnchor flags)) :: items)
        else if c = '('.toNat then
          if depth ≥ nestingLimit then throw .tooDeep
          else
            let opening ← (do if ← accept '?'.toNat then extension flags start
                              else pure (.capture none))
            match opening with
            | .global =>
              if !first || !items.isEmpty then failAt .misplacedFlags start
              else itemsFrom fuel depth scope first items
            | .done none => itemsFrom fuel depth scope first items
            | .done (some r) => itemsFrom fuel depth scope first (.one r :: items)
            | opening =>
              let item ← groupBody fuel (depth + 1) flags start opening
              itemsFrom fuel depth scope first (item :: items)
        else itemsFrom fuel depth scope first (.one (literal flags c) :: items)

/-- Reads the rest of a group that began at `start`. -/
def groupBody (fuel depth : Nat) (flags : List Flag) (start : Nat) (opening : Opening) :
    Reading Item :=
  match fuel with
  | 0 => throw .tooDeep
  | fuel + 1 => do
    match opening with
    | .capture name? =>
      let index ← openGroup name?
      let body := sequence (← alternatives fuel depth (some flags) [])
      closeParenthesis start
      closeGroup index body
      return .one (.group index body)
    | .flags on off =>
      let body ← alternatives fuel depth (some (Flag.within flags on off)) []
      closeParenthesis start
      return .one (.scope (sequence body))
    | .atomic =>
      let body ← alternatives fuel depth (some flags) []
      closeParenthesis start
      return .one (.atomic (sequence body))
    | .ahead negated =>
      let body ← alternatives fuel depth (some flags) []
      closeParenthesis start
      return .one (.ahead negated (sequence body))
    | .behind negated =>
      let outer := (← get).behindLimit
      if outer.isNone then
        let count ← groupCount
        modify fun p => { p with behindLimit := some count }
      let body ← alternatives fuel depth (some flags) []
      if outer.isNone then modify fun p => { p with behindLimit := none }
      closeParenthesis start
      return .one (.behind negated 0 (sequence body))
    | .condition index =>
      let yes ← itemsFrom fuel depth (some flags) false []
      if ← accept '|'.toNat then
        let no ← itemsFrom fuel depth (some flags) false []
        if (← peek?) = some (.plain '|'.toNat) then failBack .tooManyBranches 0
        else
          closeParenthesis start
          return .one (.ifGroup index (sequence (Item.sequence yes)) (sequence (Item.sequence no)))
      else
        closeParenthesis start
        return .one (.ifGroup index (sequence (Item.sequence yes)) .empty)
    | _ =>
      let body ← alternatives fuel depth (some flags) []
      closeParenthesis start
      return .plain body

end

/-- The name of a kind of repetition in a fault. -/
def Greed.operator : Greed → Text
  | .greedy => "MAX_REPEAT"
  | .lazy => "MIN_REPEAT"
  | .possessive => "POSSESSIVE_REPEAT"

/-- Gives each look-behind its width, which must be fixed; refuses repetitions in templates. -/
def settle (template : Bool) (groups : Nat → Width) : Regex → Except Failure Regex
  | .seq r s => do return .seq (← settle template groups r) (← settle template groups s)
  | .alt r s => do return .alt (← settle template groups r) (← settle template groups s)
  | .rounds greed least most r => do
    if template then throw (.whole (.templateRepeat (Greed.operator greed)))
    else return .rounds greed least most (← settle template groups r)
  | .group index r => do return .group index (← settle template groups r)
  | .scope r => do return .scope (← settle template groups r)
  | .atomic r => do return .atomic (← settle template groups r)
  | .ahead negated r => do return .ahead negated (← settle template groups r)
  | .behind negated _ r => do
    let width := (r.width groups).capped
    if width.least > 0xFFFFFFFF then throw (.whole .longLookbehind)
    else if width.least ≠ width.greatest then throw (.whole .variableLookbehind)
    else return .behind negated width.least (← settle template groups r)
  | .ifGroup index yes no => do
    return .ifGroup index (← settle template groups yes) (← settle template groups no)
  | r => .ok r

/-- Reads a whole pattern; gives its expression and the least length of what that matches. -/
def whole (fuel : Nat) : Reading (Regex × Nat) := do
  if endsInBackslash (← get).rest then failAt .escapeAtEnd (← get).position
  let r := sequence (← alternatives fuel 0 none [])
  let p ← get
  if p.flags.contains .ascii && p.flags.contains .unicode then throw .incompatibleFlags
  if p.next?.isSome then failBack .unbalancedParenthesis 0
  match p.conditions.find? fun (index, _) => index ≥ p.groups.length + 1 with
  | some (index, position) => failAt (.invalidReference index) position
  | none => return (← settle (p.flags.contains .template) p.widths r, (r.width p.widths).least)

/-- An expression with the least length of what it matches, its number of groups and their names. -/
structure Parsed where
  regex : Regex
  least : Nat
  groups : Nat
  names : List (Text × Nat)

/-- The expression of a pattern under the given flags. -/
def read (pattern : Text) (flags : List Flag) : Except Failure Parsed := do
  let start : Progress := ⟨pattern, 0, flags, [], [], none, []⟩
  let ((regex, least), p) ← (whole (3 * pattern.length + 8)).run start
  return ⟨regex, least, p.groups.length, p.names⟩

end Conform.Regex
