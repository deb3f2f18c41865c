import SignedAccess.Bytes.BigEndian

/-!
# Wide encodings: UTF-16 and UTF-32

Main definitions:

* `ByteOrder` — which byte of a unit comes first;
* `scan16`, `scan32` — bytes read as characters, with one mark for each ill-formed unit.
-/

namespace SignedAccess.Wide

/-- Which byte of a unit comes first. -/
inductive ByteOrder where
  | big
  | little
  deriving DecidableEq, Repr

/-- The number of a unit's bytes. -/
def unitOf : ByteOrder → Bytes → Nat
  | .big, bytes => BigEndian.value bytes
  | .little, bytes => BigEndian.value bytes.reverse

/-- The character of a code point that is one. -/
def charOf? (n : Nat) : Option Char := if n.isValidChar then some (Char.ofNat n) else none

/-- The characters of UTF-16 bytes, none for an unpaired surrogate and for a unit cut short. -/
def scan16 (order : ByteOrder) : Bytes → List (Option Char)
  | [] => []
  | [_] => [none]
  | [a, b] => [charOf? (unitOf order [a, b])]
  | [a, b, _] =>
    let high := unitOf order [a, b]
    if 0xD800 ≤ high ∧ high < 0xDC00 then [none] else [charOf? high, none]
  | a :: b :: c :: d :: rest =>
    let high := unitOf order [a, b]
    let low := unitOf order [c, d]
    if 0xD800 ≤ high ∧ high < 0xDC00 ∧ 0xDC00 ≤ low ∧ low < 0xE000 then
      some (Char.ofNat (0x10000 + (high - 0xD800) * 0x400 + (low - 0xDC00))) :: scan16 order rest
    else charOf? high :: scan16 order (c :: d :: rest)

/-- The characters of UTF-32 bytes, none for a number that is no character and for a unit cut
short. -/
def scan32 (order : ByteOrder) : Bytes → List (Option Char)
  | [] => []
  | a :: b :: c :: d :: rest => charOf? (unitOf order [a, b, c, d]) :: scan32 order rest
  | _ => [none]

end SignedAccess.Wide
