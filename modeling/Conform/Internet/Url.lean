import Conform.Internet.Address
import Conform.Text.Letter

/-!
# Addresses of resources

Which texts count as the address of a resource: a scheme, a colon and a rest that is not empty. The
schemes of the web and of file transfer also need a host.

## Main definitions

- `Internet.isUrl` — the test
-/

namespace Conform.Internet

/-- Whether a text is the name of a scheme. One line feed may follow it. -/
def isScheme : Text → Bool
  | [] => false
  | c :: cs =>
    let isPart (d : CodePoint) : Bool :=
      Text.isAsciiLetter d || Text.isDecimal d || d == '+'.toNat || d == '-'.toNat || d == '.'.toNat
    Text.isAsciiLetter c && (cs.dropWhile isPart == [] || cs.dropWhile isPart == [Text.newline])

/-- The schemes whose addresses must name a host. -/
def hostSchemes : List Text := ["http", "https", "ws", "wss", "ftp"].map Text.ofString

/-- The code points whose compatibility forms hold a mark that separates parts of an address. -/
def disguisedMarks : List CodePoint :=
  [0x2047, 0x2048, 0x2049, 0x2100, 0x2101, 0x2105, 0x2106, 0x2A74, 0xFE13, 0xFE16, 0xFE55, 0xFE56,
    0xFE5F, 0xFE6B, 0xFF03, 0xFF0F, 0xFF1A, 0xFF1F, 0xFF20]

/-- Whether a text is an address of a future version: `v`, a hexadecimal number, a point, and more
on the same line. -/
def isFutureAddress (t : Text) : Bool :=
  match t with
  | [] => false
  | _ :: cs =>
    let digits := cs.takeWhile fun c => (Text.hexValue? c).isSome
    match cs.drop digits.length with
    | point :: tail =>
      !digits.isEmpty && point == '.'.toNat && !tail.isEmpty && Text.newline ∉ tail
    | [] => false

/-- The part of an authority behind the last at sign. -/
def hostPlace (authority : Text) : Text :=
  ((Text.splitLast? '@'.toNat authority).map (·.2)).getD authority

/-- What stands before the first bracket, between it and the next closing one, and behind that. -/
def bracketed? (place : Text) : Option (Text × Text × Text) :=
  (Text.splitFirst? '['.toNat place).map fun (start, rest) =>
    match Text.splitFirst? ']'.toNat rest with
    | some (inner, behind) => (start, inner, behind)
    | none => (start, rest, [])

/-- The text before the first colon. -/
def beforeColon (place : Text) : Text :=
  ((Text.splitFirst? ':'.toNat place).map (·.1)).getD place

/-- The host in an authority. -/
def host (authority : Text) : Text :=
  let place := hostPlace authority
  match bracketed? place with
  | some (_, inner, _) => inner
  | none => beforeColon place

/-- Whether nothing stands before a bracket, and nothing but a port behind its closing one. -/
def bracketsFit (authority : Text) : Bool :=
  match bracketed? (hostPlace authority) with
  | some (start, _, behind) => start.isEmpty && (behind.isEmpty || behind.startsWith ":")
  | none => true

/-- Whether a text is an address of version six or later. -/
def isBracketedHost (t : Text) : Bool :=
  if t.head? = some 'v'.toNat then isFutureAddress t else !isV4 t && isV6 t

/-- Whether the authority of an address is well formed: brackets come in pairs and hold an address
of version six or later, and no code point hides a mark. -/
def isAuthority (authority : Text) : Bool :=
  let opened := decide ('['.toNat ∈ authority)
  let closed := decide (']'.toNat ∈ authority)
  opened == closed
    && (!opened || (bracketsFit authority && isBracketedHost (host authority)))
    && !authority.any disguisedMarks.contains

/-- Whether the part of an address after its scheme names a host. Tabs and line ends do not
count. -/
def namesHost (rest : Text) : Bool :=
  let clean := rest.filter fun c => c != 9 && c != 10 && c != 13
  match Text.after? "//" clean with
  | none => false
  | some place =>
    let isEnd (c : CodePoint) : Bool := c == '/'.toNat || c == '?'.toNat || c == '#'.toNat
    let authority := place.takeWhile fun c => !isEnd c
    isAuthority authority && !(host authority).isEmpty

/-- A text with its ASCII capitals made small. -/
def asciiLower (t : Text) : Text := t.map fun c => if 65 ≤ c ∧ c ≤ 90 then c + 32 else c

/-- Whether a text is the address of a resource. -/
def isUrl (t : Text) : Bool :=
  match Text.splitFirst? ':'.toNat t with
  | none => false
  | some (scheme, rest) =>
    !rest.isEmpty && isScheme scheme
      && (asciiLower scheme ∉ hostSchemes || namesHost rest)

end Conform.Internet
