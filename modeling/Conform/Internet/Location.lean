import Conform.Internet.Address
import Conform.Number.Reading
import Conform.Pattern.Build
import Conform.Pattern.Match
import Conform.Text.Encoding
import Conform.Text.Quoted

/-!
# Locations

A location names a resource: a scheme, an authority with user, host and port, a path, a query and a
fragment. Code points that may not stand in a part are written as percent signs with hexadecimal
digits, the scheme and the host are made small, and a port that is standard for the scheme is
left out.

## Main definitions

- `Location` — the parts of a location
- `Location.ofText` — the parts of a text
- `Location.text` — the written form
- `Location.resolve` — the location that a reference means at another one
-/

namespace Conform

/-- The parts of a location. Parts that may be missing are empty or none. -/
structure Location where
  scheme : Text := []
  user : Text := []
  host : Text := []
  port : Option Int := none
  path : Text := []
  query : Option Text := none
  fragment : Option Text := none
  deriving DecidableEq, Repr

/-- Why a text is no location. -/
inductive LocationFault
  | tooLong
  | control (c : CodePoint) (offset : Nat)
  | badAddress (version : Nat) (host : Text)
  | badHostName (host : Text)
  | badPort (port : Text)
  | pathNotAbsolute
  | doubleSlash
  | startingColon
  deriving DecidableEq, Repr

/-- The wording of a fault. -/
def LocationFault.message : LocationFault → Text
  | .tooLong => "URL too long"
  | .control c offset =>
    "Invalid non-printable ASCII character in URL, " ++ Text.quoted [c] ++ " at position "
      ++ Text.ofNat offset ++ "."
  | .badAddress version host =>
    "Invalid IPv" ++ Text.ofNat version ++ " address: " ++ host.quoted
  | .badHostName host => "Invalid IDNA hostname: " ++ host.quoted
  | .badPort port => "Invalid port: " ++ port.quoted
  | .pathNotAbsolute => "For absolute URLs, path must be empty or begin with '/'"
  | .doubleSlash => "Relative URLs cannot have a path starting with '//'"
  | .startingColon => "Relative URLs cannot have a path starting with ':'"

namespace Location

/-- The longest text that is read. -/
def lengthLimit : Nat := 65536

/-- Whether a code point is an ASCII letter, digit, or one of four marks that never change. -/
def isUnreserved (c : CodePoint) : Bool :=
  Text.isAsciiLetter c || Text.isDigit c
    || ['-', '.', '_', '~'].any fun (m : Char) => c == m.toNat

/-- Whether a code point is printable in ASCII and not among the given ones. -/
def isPlainBut (marks : String) (c : CodePoint) : Bool :=
  32 ≤ c && c ≤ 126 && !(marks.toList.any fun m => c == m.toNat)

/-- The code points that may stand in a path. -/
def isPathPart : CodePoint → Bool := isPlainBut " \"#<>?`\x7b\x7d"

/-- The code points that may stand in a query. -/
def isQueryPart : CodePoint → Bool := isPlainBut " \"#<>"

/-- The code points that may stand in a fragment. -/
def isFragmentPart : CodePoint → Bool := isPlainBut " \"<>`"

/-- The code points that may stand in the name of a user. -/
def isUserPart : CodePoint → Bool := isPlainBut " \"#<>?`\x7b\x7d/;=@[\\]^|"

/-- The code points that may stand in the name of a host. -/
def isHostPart (c : CodePoint) : Bool :=
  "!$&'()*+,;=\"`\x7b\x7d%|\\".toList.any fun m => c == m.toNat

/-- A byte as a percent sign and two hexadecimal digits. -/
def percentByte (b : UInt8) : Text :=
  '%'.toNat :: (Text.hex 2 b.toNat).map fun c => if 97 ≤ c then c - 32 else c

/-- Whether a text begins with a percent sign and two hexadecimal digits. -/
def beginsEscape : Text → Bool
  | p :: a :: b :: _ =>
    p == '%'.toNat && (Text.hexValue? a).isSome && (Text.hexValue? b).isSome
  | _ => false

/-- Escapes the code points that may not stand in a part. Escapes that are there already remain. -/
def escaped (isPart : CodePoint → Bool) : Text → Text
  | [] => []
  | c :: cs =>
    if isUnreserved c || isPart c || beginsEscape (c :: cs) then c :: escaped isPart cs
    else (Text.utf8One c).flatMap percentByte ++ escaped isPart cs

/-- The scheme at the beginning of a text, and what follows its colon. -/
def splitScheme (t : Text) : Text × Text :=
  let isPart (c : CodePoint) : Bool :=
    Text.isAsciiLetter c || Text.isDigit c
      || ['+', '.', '-'].any fun (m : Char) => c == m.toNat
  let scheme := t.takeWhile isPart
  match scheme, t.drop scheme.length with
  | [], c :: cs => if c = ':'.toNat then ([], cs) else ([], t)
  | s :: _, c :: cs =>
    if Text.isAsciiLetter s && c == ':'.toNat then (scheme, cs) else ([], t)
  | _, [] => ([], t)

/-- The text before the first of some marks, and the rest with the mark. -/
def splitBefore (marks : List CodePoint) (t : Text) : Text × Text := t.span (!marks.contains ·)

/-- Names of hosts that look like an address of version four. -/
def fourNumbers : Regex :=
  let digits := Regex.atLeast 1 (Regex.oneOf [Regex.between '0' '9'])
  let separator := Regex.unit .anyButNewline
  Regex.wholeText [digits, separator, digits, separator, digits, separator, digits]

/-- A host in its normal form. -/
def hostOf (host : Text) : Except LocationFault Text :=
  if host.isEmpty then .ok []
  else if (fourNumbers.matchAt? host).isSome then
    if Internet.isV4 host then .ok host else .error (.badAddress 4 host)
  else if host.head? = some '['.toNat ∧ host.getLast? = some ']'.toNat then
    let inner := (host.drop 1).dropLast
    if Internet.isV6 inner then .ok inner else .error (.badAddress 6 host)
  else if host.all (· < 128) then
    .ok (escaped isHostPart (host.map fun c => if 65 ≤ c ∧ c ≤ 90 then c + 32 else c))
  else .error (.badHostName host)

/-- The port that is standard for a scheme. -/
def standardPort? (scheme : Text) : Option Int :=
  ([("ftp", 21), ("http", 80), ("https", 443), ("ws", 80), ("wss", 443)] :
    List (String × Int)).findSome? fun (name, port) =>
      if scheme = Text.ofString name then some port else none

/-- A port; the one that is standard for the scheme is left out. -/
def portOf (scheme port : Text) : Except LocationFault (Option Int) :=
  if port.isEmpty then .ok none
  else
    match Number.integer? port with
    | none => .error (.badPort port)
    | some n => .ok (if some n = standardPort? scheme then none else some n)

/-- The user, the host and the port of an authority. -/
def splitAuthority (authority : Text) : Text × Text × Text :=
  let (user, place) := (Text.splitLast? '@'.toNat authority).getD ([], authority)
  let host :=
    match Text.splitLast? ']'.toNat place with
    | some (inner, _) => if place.head? = some '['.toNat then inner ++ "]" else []
    | none => []
  let host := if host.isEmpty then (splitBefore [':'.toNat] place).1 else host
  let behind := place.drop host.length
  (user, host, if behind.head? = some ':'.toNat then behind.drop 1 else behind)

/-- A path without parts that stand for the current place or the one above. -/
def normalPath (path : Text) : Text :=
  let dot := Text.ofString "."
  let dots := Text.ofString ".."
  let parts := Text.splitAll '/'.toNat path
  if !parts.contains dot && !parts.contains dots then path
  else
    let kept := parts.foldl (fun (kept : List Text) part =>
      if part = dot then kept
      else if part = dots then (if kept = [[]] then kept else kept.drop 1)
      else part :: kept) []
    Text.join "/" kept.reverse

/-- The first control character of a text, with its offset. -/
def control? (t : Text) : Option (CodePoint × Nat) :=
  (t.find? fun c => c < 32 || c == 127).map fun c => (c, t.idxOf c)

/-- The parts of a text. -/
def ofText (t : Text) : Except LocationFault Location := do
  if t.length > lengthLimit then throw .tooLong
  if let some (c, offset) := control? t then throw (.control c offset)
  let (written, rest) := splitScheme t
  let scheme := written.map fun c => if 65 ≤ c ∧ c ≤ 90 then c + 32 else c
  let (authority, rest) :=
    match Text.after? "//" rest with
    | some behind => splitBefore ("/?#" : Text) behind
    | none => ([], rest)
  let (path, rest) := splitBefore ("?#" : Text) rest
  let (query, rest) := if rest.head? = some '?'.toNat then
      let (query, rest) := splitBefore ("#" : Text) (rest.drop 1)
      (some query, rest)
    else (none, rest)
  let fragment := if rest.isEmpty then none else some (rest.drop 1)
  let (user, host, port) := splitAuthority authority
  let host ← hostOf host
  let port ← portOf written port
  let placed := !user.isEmpty || !host.isEmpty || port.isSome
  if placed && !path.isEmpty && path.head? != some '/'.toNat then throw .pathNotAbsolute
  if !placed && scheme.isEmpty then
    if path.startsWith "//" then throw .doubleSlash
    if path.startsWith ":" then throw .startingColon
  let path := if placed || !scheme.isEmpty then normalPath path else path
  return {
    scheme, host, port
    user := escaped isUserPart user
    path := escaped isPathPart path
    query := query.map (escaped isQueryPart)
    fragment := fragment.map (escaped isFragmentPart) }

/-- The host with brackets if it is an address of version six. -/
def hostText (l : Location) : Text :=
  if ':'.toNat ∈ l.host then "[" ++ l.host ++ "]" else l.host

/-- The host and the port. -/
def place (l : Location) : Text :=
  l.hostText ++
    match l.port with
    | some n => ":" ++ Text.ofInt n
    | none => []

/-- The written form. -/
def text (l : Location) : Text :=
  let user : Text := if l.user.isEmpty then [] else l.user ++ Text.ofString "@"
  let authority := user ++ l.place
  let scheme : Text := if l.scheme.isEmpty then [] else l.scheme ++ Text.ofString ":"
  scheme
    ++ (if authority.isEmpty then [] else Text.ofString "//" ++ authority)
    ++ l.path
    ++ ((l.query.map fun q => '?'.toNat :: q).getD [])
    ++ ((l.fragment.map fun f => '#'.toNat :: f).getD [])

/-- Whether a location names a host and how to reach it. -/
def isAbsolute (l : Location) : Bool := !l.scheme.isEmpty && !l.host.isEmpty

/-- The location that a text means if no other one is known: a text without scheme or host is a path
of an unnamed host. -/
def ofReference (t : Text) : Except LocationFault Location := do
  let l ← ofText t
  if l.isAbsolute then return l
  let behind := l.path.dropWhile (· == '/'.toNat)
  return { path := '/'.toNat :: behind, query := l.query }

/-- The port of a location, if it has one or its scheme has a standard one. -/
def usedPort? (l : Location) : Option Int :=
  match l.port with
  | some n => some n
  | none =>
    if l.scheme = Text.ofString "http" then some 80
    else if l.scheme = Text.ofString "https" then some 443
    else none

/-- Whether two locations have scheme, host and port in common. -/
def sameOrigin (l m : Location) : Bool :=
  l.scheme == m.scheme && l.host == m.host && l.usedPort? == m.usedPort?

/-- Whether the second location is the first one with a secure scheme in place of its plain one. -/
def isSecured (l m : Location) : Bool :=
  l.host == m.host && l.scheme == Text.ofString "http" && l.usedPort? == some 80
    && m.scheme == Text.ofString "https" && m.usedPort? == some 443

/-- The path that a relative path means at another path. -/
def joinPaths (base path : Text) : Text :=
  let dot := Text.ofString "."
  let dots := Text.ofString ".."
  let parts := Text.splitAll '/'.toNat path
  let all :=
    if path.head? = some '/'.toNat then parts
    else
      let start := Text.splitAll '/'.toNat base
      let start := if start.getLast? = some [] then start else start.dropLast
      match start ++ parts with
      | [] => []
      | [part] => [part]
      | first :: rest => first :: (rest.dropLast.filter (!·.isEmpty) ++ [rest.getLastD []])
  let kept := all.foldl (fun (kept : List Text) part =>
    if part = dots then kept.drop 1 else if part = dot then kept else part :: kept) []
  let last := all.getLastD []
  let kept := if last = dot ∨ last = dots then [] :: kept else kept
  let t := Text.join "/" kept.reverse
  if t.isEmpty then "/" else t

/-- What a reference without a host means at a location. -/
def join (base reference : Location) : Location :=
  if !reference.scheme.isEmpty && reference.scheme != base.scheme then reference
  else if !reference.host.isEmpty then { reference with scheme := base.scheme }
  else
    let target := { base with fragment := reference.fragment }
    if reference.path.isEmpty then
      { target with query := if (reference.query.getD []).isEmpty then base.query
        else reference.query }
    else
      { target with path := joinPaths base.path reference.path, query := reference.query }

/-- The location that a reference means at another one. The fragment of that one is kept if the
reference has none. -/
def resolve (base : Location) (t : Text) : Except LocationFault Location := do
  let reference ← ofText t
  let reference :=
    if !reference.scheme.isEmpty && reference.host.isEmpty then
      { reference with host := base.host }
    else reference
  let target := if reference.isAbsolute then reference else base.join reference
  if !(base.fragment.getD []).isEmpty && (target.fragment.getD []).isEmpty then
    return { target with fragment := base.fragment }
  else return target

end Location

end Conform
