import Conform.Text.Letter

/-!
# Options on a command line

A command line is a row of words. Some of them name options, which change settings and may take a
value; of the others one may be expected, or they begin a command of their own. Names of options may
be cut short as long as only one option is meant.

## Main definitions

- `OptionSpec` — an option and what it does
- `Word` — what a word on a command line is
- `Grammar` — the options, and which other words are expected
- `Grammar.read` — the settings that a command line gives
-/

namespace Conform

/-- Why reading a command line ends early. -/
inductive CommandStop
  | misuse
  /-- Help was asked for. -/
  | help
  deriving DecidableEq, Repr

/-- What an option does to the settings read so far. A value may be refused. -/
inductive OptionEffect (S : Type)
  | help
  | flag (set : S → S)
  | value (set : Text → S → Option S)

/-- An option; its name includes the dashes. -/
structure OptionSpec (S : Type) where
  name : Text
  effect : OptionEffect S

/-- What a word on a command line is. -/
inductive Word (S : Type)
  | plain
  /-- Two dashes: all words behind them are plain. -/
  | separator
  /-- An option, and what stands in its word behind its name, if anything does: a text behind an
  equals sign, or right behind an option of one letter. -/
  | option (spec : OptionSpec S) (attached : Option Text)
  /-- It looks like an option and is none. -/
  | unknown

namespace Word

variable {S : Type}

/-- The code point that options begin with. -/
def dash : CodePoint := '-'.toNat

/-- The option with a name. -/
def named? (specs : List (OptionSpec S)) (name : Text) : Option (OptionSpec S) :=
  specs.find? fun o => o.name == name

/-- The options that a word with two dashes may cut short; what stands behind an equals sign is the
value. -/
def shortened (specs : List (OptionSpec S)) (t : Text) : List (Word S) :=
  let (start, attached) :=
    match Text.splitFirst? '='.toNat t with
    | some (start, value) => (start, some value)
    | none => (t, none)
  (specs.filter fun o => o.name.startsWith start).map fun o => .option o attached

/-- The options of one letter that a word with one dash may begin with, the rest of the word being
joined to it, and the longer ones that it may cut short. -/
def joined (specs : List (OptionSpec S)) (t : Text) : List (Word S) :=
  specs.filterMap fun o =>
    if o.name = t.take 2 then some (.option o (some (t.drop 2)))
    else if o.name.startsWith t then some (.option o none)
    else none

/-- Whether a word is a dash with a plain decimal number behind it; one line feed at its end does
not count. -/
def isNegativeNumber (t : Text) : Bool :=
  let body := if t.getLast? = some Text.newline then t.dropLast else t
  match body with
  | [] => false
  | c :: number =>
    let whole := number.takeWhile Text.isDecimal
    c == dash &&
      match number.dropWhile Text.isDecimal with
      | [] => !whole.isEmpty
      | d :: decimals => d == '.'.toNat && !decimals.isEmpty && decimals.all Text.isDecimal

/-- What a word is that begins with a dash and is no option as it stands. -/
def ofCandidates (t : Text) : List (Word S) → Except CommandStop (Word S)
  | [] => .ok (if isNegativeNumber t || t.contains ' '.toNat then .plain else .unknown)
  | [word] => .ok word
  | _ => .error .misuse

/-- What a word is that is no separator. -/
def classify (specs : List (OptionSpec S)) (t : Text) : Except CommandStop (Word S) :=
  match t with
  | c :: d :: _ =>
    if c ≠ dash then .ok .plain
    else
      match named? specs t with
      | some o => .ok (.option o none)
      | none =>
        match (Text.splitFirst? '='.toNat t).bind fun (name, value) =>
            (named? specs name).map fun o => Word.option o (some value) with
        | some word => .ok word
        | none => ofCandidates t (if d = dash then shortened specs t else joined specs t)
  | _ => .ok .plain

/-- The words of a command line with what they are. -/
def classifyAll (specs : List (OptionSpec S)) :
    List Text → Except CommandStop (List (Text × Word S))
  | [] => .ok []
  | t :: rest =>
    if t = [dash, dash] then .ok ((t, .separator) :: rest.map fun t => (t, .plain))
    else do
      let word ← classify specs t
      return (t, word) :: (← classifyAll specs rest)

end Word

/-- Which words are expected besides options. -/
inductive Operand (S : Type)
  | none
  | one (set : Text → S → S)
  /-- A command, to which all words behind it belong. -/
  | command

/-- What a command line says. -/
structure CommandReading (S : Type) where
  settings : S
  /-- Whether there is a word that belongs to nothing. -/
  leftover : Bool := false
  /-- The command with its words, if there is one. -/
  command : List Text := []

/-- The options, and which other words are expected. -/
structure Grammar (S : Type) where
  options : List (OptionSpec S)
  operand : Operand S

namespace Grammar

variable {S : Type}

/-- The options that every command line has. -/
def helpOptions : List (OptionSpec S) := [⟨"-h", .help⟩, ⟨"--help", .help⟩]

/-- All options of a grammar. -/
def specs (g : Grammar S) : List (OptionSpec S) := helpOptions ++ g.options

/-- What a value does to settings. -/
def give (set : Text → S → Option S) (value : Text) (settings : S) : Except CommandStop S :=
  match set value settings with
  | some settings => .ok settings
  | none => .error .misuse

/-- What an option without a value does to settings. -/
def switch (o : OptionSpec S) (settings : S) : Except CommandStop S :=
  match o.effect with
  | .help => .error .help
  | .flag set => .ok (set settings)
  | .value _ => .error .misuse

/-- The options that letters name. -/
def letters (specs : List (OptionSpec S)) : Text → Except CommandStop (List (OptionSpec S))
  | [] => .ok []
  | c :: cs =>
    match Word.named? specs [Word.dash, c] with
    | none => .error .misuse
    | some o => do return o :: (← letters specs cs)

/-- What an option does to settings that has all it needs in its own word. What stands behind an
option of one letter that takes no value are more of these options; nothing is done unless all of
them are known. -/
def apply (specs : List (OptionSpec S)) (o : OptionSpec S) (attached : Option Text) (settings : S) :
    Except CommandStop S :=
  match o.effect, attached with
  | _, none => switch o settings
  | .value set, some t => give set t settings
  | _, some t =>
    if o.name[1]? = some Word.dash || t.isEmpty then .error .misuse
    else do (o :: (← letters specs t)).foldlM (fun settings o => switch o settings) settings

/-- Reads classified words. -/
def readWords (specs : List (OptionSpec S)) :
    Operand S → S → (leftover : Bool) → List (Text × Word S) →
      Except CommandStop (CommandReading S)
  | _, settings, leftover, [] => .ok ⟨settings, leftover, []⟩
  | .command, settings, leftover, (name, .plain) :: rest =>
    .ok ⟨settings, leftover, name :: rest.map (·.1)⟩
  | .command, _, _, (_, .separator) :: _ => .error .misuse
  | .one set, settings, leftover, (t, .plain) :: (_, .separator) :: rest =>
    readWords specs .none (set t settings) leftover rest
  | .one set, settings, leftover, (t, .plain) :: rest =>
    readWords specs .none (set t settings) leftover rest
  | .one set, settings, leftover, (_, .separator) :: (t, .plain) :: rest =>
    readWords specs .none (set t settings) leftover rest
  | operand, settings, _, (_, .plain) :: rest => readWords specs operand settings true rest
  | operand, settings, _, (_, .separator) :: rest => readWords specs operand settings true rest
  | operand, settings, _, (_, .unknown) :: rest => readWords specs operand settings true rest
  | operand, settings, leftover, (_, .option ⟨_, .value set⟩ none) :: (t, .plain) :: rest => do
    readWords specs operand (← give set t settings) leftover rest
  | operand, settings, leftover, (_, .option o attached) :: rest => do
    readWords specs operand (← apply specs o attached settings) leftover rest

/-- The settings that the words of a command line give, on top of others. -/
def read (g : Grammar S) (settings : S) (words : List Text) :
    Except CommandStop (CommandReading S) := do
  readWords g.specs g.operand settings false (← Word.classifyAll g.specs words)

end Grammar

end Conform
