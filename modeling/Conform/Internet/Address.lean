import Conform.Text.Basic

/-!
# Internet addresses

The written forms of internet addresses. An address of version four has four numbers below 256
without leading zeros; one of version six has eight groups of hexadecimal digits, of which one run
may be left out and the last two may be written as an address of version four, and it may name a
scope after a percent sign.

## Main definitions

- `Internet.isV4`, `Internet.isV6` — the two forms
-/

namespace Conform.Internet

/-- Whether a text is one of the four numbers of an address of version four. -/
def isOctet (t : Text) : Bool :=
  !t.isEmpty && t.all Text.isDigit && t.length ≤ 3
    && (t.length == 1 || t.head? != some '0'.toNat) && Text.digitsValue t ≤ 255

/-- Whether a text is an address of version four. -/
def isV4 (t : Text) : Bool :=
  let parts := Text.splitAll '.'.toNat t
  parts.length == 4 && parts.all isOctet

/-- Whether a text is a group of an address of version six. -/
def isGroup (t : Text) : Bool :=
  !t.isEmpty && t.length ≤ 4 && t.all fun c => (Text.hexValue? c).isSome

/-- The indexes of the empty parts that are neither the first nor the last. -/
def innerGaps (parts : List Text) : List Nat :=
  (List.range parts.length).filter fun i =>
    0 < i && i + 1 < parts.length && (parts[i]?.map List.isEmpty).getD false

/-- The parts between colons, with a last part that is an address of version four counted as two
groups; none if that part is malformed. -/
def groupParts? (t : Text) : Option (List Text) :=
  let parts := Text.splitAll ':'.toNat t
  if parts.length < 3 then none
  else
    let last := parts.getLastD []
    if '.'.toNat ∈ last then
      if isV4 last then some (parts.dropLast ++ [Text.ofString "0", Text.ofString "0"]) else none
    else some parts

/-- Whether parts around one gap are groups. An empty end counts only when nothing stands between
it and the gap. -/
def areGroupsAround (gap : Nat) (parts : List Text) : Bool :=
  let high := parts.take gap
  let low := parts.drop (gap + 1)
  let high' := if high.head? = some [] then high.drop 1 else high
  let low' := if low.getLast? = some [] then low.dropLast else low
  (high.head? != some [] || high'.isEmpty) && (low.getLast? != some [] || low'.isEmpty)
    && high'.length + low'.length < 8 && high'.all isGroup && low'.all isGroup

/-- Whether a text is an address of version six without a scope. -/
def isScopelessV6 (t : Text) : Bool :=
  match groupParts? t with
  | none => false
  | some parts =>
    if parts.length > 9 then false
    else
      match innerGaps parts with
      | [] => parts.length == 8 && parts.all isGroup
      | [gap] => areGroupsAround gap parts
      | _ => false

/-- Whether a text is an address of version six. -/
def isV6 (t : Text) : Bool :=
  '/'.toNat ∉ t &&
    match Text.splitFirst? '%'.toNat t with
    | none => isScopelessV6 t
    | some (address, scope) => !scope.isEmpty && '%'.toNat ∉ scope && isScopelessV6 address

end Conform.Internet
