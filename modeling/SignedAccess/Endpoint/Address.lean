import SignedAccess.Bytes.Hex
import SignedAccess.Number.Decimal

/-!
# Addresses of hosts

A host may be named by its address instead of a name.

Main definitions:

* `Address.isV4` — four decimal numbers below 256 between dots;
* `Address.isV6` — eight hexadecimal groups between colons, of which one run of zeros may be left
  out and the last two may be an address of the first kind; a zone may follow a percent sign;
* `Address.looksLikeV4` — four runs of digits between dots, which no host name may look like.
-/

namespace SignedAccess.Address

/-! ## Version 4 -/

/-- Whether a text is a decimal number below 256 without leading zeros. -/
def isOctet (t : Text) : Bool :=
  t ≠ [] && t.all Char.isDigit && t.length ≤ 3 && (t = ['0'] || t.head? ≠ some '0')
    && Decimal.value t ≤ 255

/-- Whether a text is an address of version 4. -/
def isV4 (t : Text) : Bool :=
  let octets := t.splitOn '.'
  octets.length = 4 && octets.all isOctet

/-- Whether a text is four runs of digits between dots. -/
def looksLikeV4 (t : Text) : Bool :=
  let runs := t.splitOn '.'
  runs.length = 4 && runs.all fun run => run ≠ [] && run.all Char.isDigit

/-! ## Version 6 -/

/-- Whether a text is a group of at most four hexadecimal digits. -/
def isGroup (t : Text) : Bool := t ≠ [] && t.length ≤ 4 && t.all fun c => (Hex.digit? c).isSome

/-- The groups with an address of version 4 in the last place taken for two. -/
def withoutV4? (groups : List Text) : Option (List Text) :=
  match groups.getLast? with
  | some last =>
    if '.' ∈ last then
      if isV4 last then some (groups.dropLast ++ [['0'], ['0']]) else none
    else some groups
  | none => none

/-- Whether there are groups on both sides of a gap as they should be: an empty group stands at an
end only where the gap itself is. -/
def fitsAround (front back : List Text) : Bool :=
  let front := if front = [[]] then [] else front
  let back := if back = [[]] then [] else back
  front.all isGroup && back.all isGroup && front.length + back.length ≤ 7

/-- Whether groups are an address: eight of them, or fewer around a single gap. -/
def areGroups (groups : List Text) : Bool :=
  let inner := (groups.drop 1).dropLast
  match inner.findIdx? (· = []) with
  | none => groups.length = 8 && groups.all isGroup
  | some i =>
    !(inner.drop (i + 1)).contains []
      && fitsAround (groups.take (i + 1)) (groups.drop (i + 2))

/-- Whether a text is an address of version 6 without a zone. -/
def isV6Address (t : Text) : Bool :=
  let groups := t.splitOn ':'
  3 ≤ groups.length && match withoutV4? groups with
    | some groups => groups.length ≤ 9 && areGroups groups
    | none => false

/-- Whether a text is an address of version 6. -/
def isV6 (t : Text) : Bool :=
  !t.contains '/' && match Text.cut? '%' t with
    | some (address, zone) => zone ≠ [] && !zone.contains '%' && isV6Address address
    | none => isV6Address t

end SignedAccess.Address
