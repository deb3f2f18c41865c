import SignedAccess.Text

/-!
# Object identifiers

An algorithm or a curve is named by a list of numbers, its arcs.

Main definitions:

* `ObjectId.encode` — the bytes of an identifier;
* `ObjectId.isValid` — whether bytes are those of an identifier.
-/

namespace SignedAccess.ObjectId

/-- The digits of a number to base 128, at most `fuel` of them, all with the bit that announces a
further one. -/
def leading : (fuel n : Nat) → Bytes
  | 0, _ => []
  | fuel + 1, n => if n = 0 then [] else leading fuel (n / 128) ++ [UInt8.ofNat (128 + n % 128)]

def arc (n : Nat) : Bytes := leading n (n / 128) ++ [UInt8.ofNat (n % 128)]

/-- The bytes of an identifier, in which the first two arcs share a byte. -/
def encode : List Nat → Bytes
  | first :: second :: rest => arc (first * 40 + second) ++ rest.flatMap arc
  | _ => []

/-- Whether no arc of the bytes begins with a zero digit; `isStart` says whether an arc begins. -/
def isShortest (isStart : Bool) : Bytes → Bool
  | [] => true
  | b :: rest => !(isStart && b = 0x80) && isShortest (b.toNat < 0x80) rest

/-- Whether bytes are those of an identifier: the last arc is complete, and each is as short as it
can be. -/
def isValid (bytes : Bytes) : Bool :=
  bytes.getLast?.any (fun b => b.toNat < 0x80) && isShortest true bytes

end SignedAccess.ObjectId
