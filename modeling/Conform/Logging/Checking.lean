import Conform.Datum.Display
import Conform.Logging.Template

/-!
# Checking configurations of logging

A configuration of logging says how messages are written, which handlers take them, and which
loggers send messages to which handlers. It is checked part by part, and the first part that cannot
be set up is reported.

## Main definitions

- `Logging.Fault` — what is wrong with a configuration
- `Logging.check` — the first thing that is wrong
-/

namespace Conform.Logging

/-- The kinds of parts that have names. -/
inductive PartKind
  | formatter
  | handler
  | logger
  deriving DecidableEq, Repr

/-- How messages name a kind. -/
def PartKind.name : PartKind → Text
  | .formatter => "formatter"
  | .handler => "handler"
  | .logger => "logger"

/-- What is wrong with a configuration. -/
inductive Fault
  | unknownVersion (shown : Text)
  /-- A datum stands for parts and holds none. -/
  | notIterable (className : Text)
  /-- Names of handlers cannot be put in order. -/
  | unordered (className earlier : Text)
  | part (kind : PartKind) (shown : Text)
  | root
  /-- An object outside of the configuration is unknown. -/
  | unresolved (shown module : Text)
  deriving DecidableEq, Repr

/-- The wording of a fault. -/
def Fault.message : Fault → Text
  | .unknownVersion shown => "Unsupported version: " ++ shown
  | .notIterable className => "'" ++ className ++ "' object is not iterable"
  | .unordered className earlier =>
    "'<' not supported between instances of '" ++ className ++ "' and '" ++ earlier ++ "'"
  | .part kind shown => "Unable to configure " ++ kind.name ++ " " ++ shown
  | .root => "Unable to configure root logger"
  | .unresolved shown module =>
    "Cannot resolve " ++ shown ++ ": No module named " ++ module

/-- The levels of messages. -/
def levels : List (String × Int) := [("CRITICAL", 50), ("FATAL", 50), ("ERROR", 40), ("WARN", 30),
  ("WARNING", 30), ("INFO", 20), ("DEBUG", 10), ("NOTSET", 0)]

/-- The name of a level. -/
def isLevelName (t : Text) : Bool := levels.any fun (name, _) => t == Text.ofString name

/-- What stands for an object outside of the configuration. -/
def outside : Datum := .ellipsis

/-- The objects outside of the configuration that can be named. -/
def external? (name : Text) : Option Datum :=
  let streams := ["sys.stderr", "sys.stdout", "sys.stdin", "sys.__stderr__", "sys.__stdout__"]
  if streams.any fun s => name == Text.ofString s then some outside
  else levels.findSome? fun (level, n) =>
    if name = "logging." ++ Text.ofString level then some (.int n) else none

/-- The datum that a datum refers to. A text that begins with `ext` and a colon names an object
outside of the configuration. -/
def referent (d : Datum) : Except Fault Datum :=
  match d with
  | .scalar (.text t) =>
    match Text.after? "ext://" t with
    | some name =>
      match external? name with
      | some found => .ok found
      | none =>
        .error (.unresolved name.quoted (Text.quoted (name.takeWhile (· != '.'.toNat))))
    | none => .ok d
  | _ => .ok d

/-- What stands under a key, null if nothing does. -/
def field (entries : Entries) (key : Text) : Except Fault Datum :=
  referent ((entries.at? key).getD .null)

/-- The names of the parts in a datum, or what stands in the places of names. -/
def partNames (d : Datum) : Except Fault (List Datum) :=
  match d with
  | .scalar (.text t) => .ok (t.map fun c => .text [c])
  | .list items => .ok items
  | .mapping entries => .ok (entries.map (·.1))
  | d => .error (.notIterable d.className)

/-- The part with a name, if it is a mapping. -/
def part? (d : Datum) (name : Datum) : Option Entries :=
  (d.entries?.bind fun entries => entries.get? name).bind Datum.entries?

/-- Whether a datum is a level. -/
def isLevel : Datum → Bool
  | .scalar (.number (.int _)) => true
  | .scalar (.bool _) => true
  | .scalar (.text t) => isLevelName t
  | _ => false

/-- Whether a level may be set to a datum. Null leaves it as it is. -/
def allowsLevel (d : Datum) : Bool :=
  match d with
  | .scalar .null => true
  | d => isLevel d

/-- Whether a text may name an argument. -/
def isArgumentName (t : Text) : Bool :=
  match t with
  | [] => false
  | c :: cs => isPlaceStart c && cs.all fun d => isPlaceStart d || Text.isDigit d

/-- The names and data of arguments, without the attributes under a point. -/
def arguments? (entries : Entries) : Option (List (Text × Datum)) :=
  (entries.filter fun (key, _) => !key.same (.text ".")).mapM fun (key, d) =>
    match key, referent d with
    | .scalar (.text name), .ok d => if isArgumentName name then some (name, d) else none
    | _, _ => none

/-- Whether attributes may be set: they have texts as names. -/
def allowsAttributes (d : Datum) : Bool :=
  !d.truthy ||
    match d with
    | .mapping entries => entries.all fun (key, _) =>
      match key with
      | .scalar (.text _) => true
      | _ => false
    | _ => false

/-- Whether a template may be used in a style. What is empty stands for the standard one. -/
def allowsTemplate (style : Style) (template : Datum) : Bool :=
  !template.truthy ||
    match template with
    | .scalar (.text t) => style.accepts t
    | _ => false

/-- Whether a formatter can be made with a template in a style. -/
def allowsStyle (style template : Datum) (validates : Bool) : Bool :=
  match style with
  | .scalar (.text mark) =>
    match Style.ofMark? mark with
    | some style => !validates || allowsTemplate style template
    | none => false
  | _ => false

/-- The class of formatters. -/
def formatterClass : Text := "logging.Formatter"

/-- Whether a formatter can be made by a function with arguments. The template may go by two
names. -/
def allowsFormatterCall (entries : Entries) (function : Datum) : Bool :=
  let known := ["fmt", "format", "datefmt", "style", "validate", "defaults"]
  match arguments? (entries.filter fun (key, _) => !key.same (.text "()")) with
  | none => false
  | some arguments =>
    let given (name : String) : Option Datum := arguments.lookup (Text.ofString name)
    let template := (given "format" <|> given "fmt").getD .null
    function.same (.text formatterClass)
      && (arguments.all fun (name, _) => known.any fun k => name == Text.ofString k)
      && allowsStyle ((given "style").getD (.text "%")) template
        ((given "validate").getD (.bool true)).truthy
      && allowsAttributes ((entries.at? ".").getD .null)

/-- Whether a formatter can be made. -/
def allowsFormatter (entries : Entries) : Bool :=
  match entries.at? "()" with
  | some function => allowsFormatterCall entries function
  | none =>
    match field entries "format", field entries "datefmt", field entries "class",
        referent ((entries.at? "style").getD (.text "%")),
        referent ((entries.at? "validate").getD (.bool true)) with
    | .ok template, .ok _, .ok formatter, .ok style, .ok validates =>
      (!formatter.truthy || formatter.same (.text formatterClass))
        && allowsStyle style template validates.truthy
    | _, _, _, _, _ => false

/-- The class of handlers that collect messages for another one. -/
def collectorClass : String := "logging.handlers.MemoryHandler"

/-- The handlers that can be made: the arguments they need and those they may have. -/
def handlerClasses : List (String × List String × List String) := [
  ("logging.StreamHandler", [], ["stream"]),
  ("logging.NullHandler", [], []),
  ("logging.Handler", [], []),
  ("logging.FileHandler", ["filename"], ["mode", "encoding", "delay", "errors"]),
  ("logging.handlers.BufferingHandler", ["capacity"], []),
  (collectorClass, ["capacity"], ["flushLevel", "target", "flushOnClose"])]

/-- Whether a handler of a class can be made with arguments. -/
def allowsArguments (className : Datum) (arguments : List (Text × Datum)) : Bool :=
  handlerClasses.any fun (name, needed, allowed) =>
    className.same (.text (Text.ofString name))
      && (needed.all fun k => arguments.any fun (given, _) => given == Text.ofString k)
      && (arguments.all fun (given, _) => (needed ++ allowed).any fun k =>
        given == Text.ofString k)

/-- The keys of a handler that are no arguments. -/
def handlerKeys : List Text := ["formatter", "level", "filters"].map Text.ofString

/-- What comes of a handler. -/
inductive HandlerOutcome
  | made
  | refused
  /-- It collects messages for a handler that has not been made yet. -/
  | waiting
  deriving DecidableEq, Repr

/-- What becomes of a handler that collects messages for another one: that one is among the given
ones, and has to be made before. -/
def targetOutcome (handlers : Datum) (made : List Datum) (target : Datum) : HandlerOutcome :=
  if made.any target.same then .made
  else if target.mutablePart?.isNone && (handlers.entries?.getD []).has target then .waiting
  else .refused

/-- Whether a handler of a class waits for its target, or is refused for it. -/
def classOutcome (handlers : Datum) (made : List Datum) (className : Datum) (entries : Entries) :
    HandlerOutcome :=
  if className.same (.text (Text.ofString collectorClass)) && entries.has (.text "target") then
    match field entries "target" with
    | .ok target => targetOutcome handlers made target
    | .error _ => .refused
  else .made

/-- What comes of making and setting up a handler while some others have been made. There are no
filters that it could have, and its formatter is one of those given. -/
def handlerOutcome (formatters handlers : Datum) (made : List Datum) (entries : Entries) :
    HandlerOutcome :=
  let isCall := entries.has (.text "()")
  let classKey : Text := if isCall then "()" else "class"
  let rest := entries.filter fun (key, _) =>
    !(classKey :: handlerKeys).any fun k => key.same (.text k)
  match field entries "formatter", field entries "level", field entries "filters",
      field entries classKey with
  | .ok formatter, .ok level, .ok filters, .ok className =>
    if formatter.truthy && (part? formatters formatter).isNone then .refused
    else
      match if isCall then .made else classOutcome handlers made className entries with
      | .made =>
        if allowsLevel level && !filters.truthy
            && ((arguments? rest).map (allowsArguments className)).getD false
            && allowsAttributes ((entries.at? ".").getD .null) then .made
        else .refused
      | outcome => outcome
  | _, _, _, _ => .refused

/-- Whether a logger can be set up: its handlers are among those given, and it has no filters. -/
def allowsLogger (handlers : Datum) (entries : Entries) : Bool :=
  match field entries "level", field entries "handlers", field entries "filters" with
  | .ok level, .ok own, .ok filters =>
    allowsLevel level && !filters.truthy
      && (!own.truthy ||
        match partNames own with
        | .ok names => names.all fun name =>
          name.mutablePart?.isNone && (part? handlers name).isSome
        | .error _ => false)
  | _, _, _ => false

/-- Whether a logger may have a name: a text, or nothing for the root. -/
def isLoggerName (name : Datum) : Bool :=
  !name.truthy ||
    match name with
    | .scalar (.text _) => true
    | _ => false

/-- Whether the first of two names stands before the second, if they can be compared. -/
def before? (a b : Datum) : Option Bool :=
  match a, b with
  | .scalar (.text s), .scalar (.text t) => some (s.before t)
  | .scalar (.number m), .scalar (.number n) => some (m.below n)
  | .scalar (.bool m), .scalar (.number n) => some ((Scalar.ofBool m).below n)
  | .scalar (.number m), .scalar (.bool n) => some (m.below (Scalar.ofBool n))
  | .scalar (.bool m), .scalar (.bool n) => some (!m && n)
  | .date m, .date n => some (m.iso.before n.iso)
  | _, _ => none

/-- Puts a name among names in ascending order, behind those that are not above it. -/
def insertName (name : Datum) : List Datum → List Datum
  | [] => [name]
  | other :: rest =>
    if before? name other = some true then name :: other :: rest else other :: insertName name rest

/-- Names in ascending order. Each name has to be comparable with the one before it. -/
def sortNames (names : List Datum) : Except Fault (List Datum) := do
  for (earlier, name) in names.zip (names.drop 1) do
    if (before? name earlier).isNone then throw (.unordered name.className earlier.className)
  return names.foldl (fun sorted name => insertName name sorted) []

/-- Reports the first of some parts that is not allowed. -/
def checkParts (kind : PartKind) (d : Datum) (allows : Datum → Entries → Bool)
    (names : List Datum) : Except Fault Unit :=
  names.forM fun name =>
    match part? d name with
    | some entries => if allows name entries then .ok () else .error (.part kind name.shown)
    | none => .error (.part kind name.shown)

/-- The handlers that have been made, and those that wait for others. -/
structure HandlerProgress where
  made : List Datum := []
  waiting : List Datum := []

/-- Makes a handler, or lets it wait if it may. -/
def makeHandler (formatters handlers : Datum) (mayWait : Bool) (p : HandlerProgress)
    (name : Datum) : Except Fault HandlerProgress :=
  match (part? handlers name).map (handlerOutcome formatters handlers p.made), mayWait with
  | some .made, _ => .ok { p with made := name :: p.made }
  | some .waiting, true => .ok { p with waiting := p.waiting ++ [name] }
  | _, _ => .error (.part .handler name.shown)

/-- Makes handlers in the order of their names. Those that wait for others are made at the end. -/
def checkHandlers (formatters handlers : Datum) (names : List Datum) : Except Fault Unit := do
  let p ← names.foldlM (makeHandler formatters handlers true) {}
  let _ ← p.waiting.foldlM (makeHandler formatters handlers false) p

/-- The parts under a key; without the key there are none. -/
def parts (entries : Entries) (key : Text) : Except Fault Datum :=
  referent ((entries.at? key).getD (.mapping []))

/-- The first thing that is wrong with a configuration. -/
def check (entries : Entries) : Except Fault Unit := do
  let version ← field entries "version"
  if !version.same (.int 1) then throw (.unknownVersion version.bare)
  let _ ← field entries "disable_existing_loggers"
  let formatters ← parts entries "formatters"
  checkParts .formatter formatters (fun _ => allowsFormatter) (← partNames formatters)
  let handlers ← parts entries "handlers"
  checkHandlers formatters handlers (← sortNames (← partNames handlers))
  let loggers ← parts entries "loggers"
  checkParts .logger loggers (fun name entries => isLoggerName name && allowsLogger handlers entries
    && (field entries "propagate").isOk) (← partNames loggers)
  let root ← field entries "root"
  if root.truthy then
    match root.entries? with
    | some entries => if allowsLogger handlers entries then return () else throw .root
    | none => throw .root

end Conform.Logging
