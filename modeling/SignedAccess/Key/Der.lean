import SignedAccess.Bytes.BigEndian
import SignedAccess.Key.ObjectId

/-!
# DER elements

Tagged elements in the one encoding that is the shortest.  Public keys are read in no other.

Main definitions:

* `Der.Element` — a tag and its content;
* `Der.Element.encode` — an element with its length in the shortest form;
* `Der.elements?`, `Der.element?` — the elements that make up bytes, or the only one;
* `Der.natural`, `Der.natural?` — a natural number as an INTEGER element and back.
-/

namespace SignedAccess.Der

/-- A tag and its content. -/
structure Element where
  tag : UInt8
  content : Bytes
  deriving DecidableEq, Repr

/-! ## Tags -/

def integerTag : UInt8 := 0x02
def bitStringTag : UInt8 := 0x03
def octetStringTag : UInt8 := 0x04
def nullTag : UInt8 := 0x05
def objectIdTag : UInt8 := 0x06
def sequenceTag : UInt8 := 0x30

/-- The tag of an element that is told apart by its number in the enclosing one. -/
def contextTag (number : Nat) : UInt8 := UInt8.ofNat (0xA0 + number)

/-! ## Writing -/

/-- A length: one byte below 128, else a count of bytes and the bytes. -/
def encodeLength (n : Nat) : Bytes :=
  if n < 0x80 then [UInt8.ofNat n]
  else UInt8.ofNat (0x80 + BigEndian.width n) :: BigEndian.encode (BigEndian.width n) n

def Element.encode (e : Element) : Bytes := e.tag :: encodeLength e.content.length ++ e.content

/-- The elements of a sequence as one element. -/
def sequence (elements : List Element) : Element := ⟨sequenceTag, elements.flatMap Element.encode⟩

/-- A natural number as an INTEGER; a zero byte in front keeps it from reading as negative. -/
def natural (n : Nat) : Element :=
  ⟨integerTag, BigEndian.encode (n.log2 / 8 + 1 + if n.log2 % 8 = 7 then 1 else 0) n⟩

/-! ## Reading -/

/-- A length in the shortest form, with at most four bytes behind a count, and what follows it. -/
def readLength? : Bytes → Option (Nat × Bytes)
  | [] => none
  | b :: rest =>
    if b.toNat < 0x80 then some (b.toNat, rest)
    else
      let count := b.toNat - 0x80
      let digits := rest.take count
      let n := BigEndian.value digits
      if count ≤ 4 ∧ digits.length = count ∧ encodeLength n = b :: digits then
        some (n, rest.drop count)
      else none

/-- The first element and the bytes behind it.  A tag has one byte. -/
def readElement? : Bytes → Option (Element × Bytes)
  | [] => none
  | tag :: rest => do
    let (length, rest) ← readLength? rest
    let content := rest.take length
    if tag.toNat % 32 = 31 ∨ content.length < length then none
    else some (⟨tag, content⟩, rest.drop length)

/-- At most `fuel` elements that make up the bytes, behind those in `done`. -/
def elementsFrom? : (fuel : Nat) → (done : List Element) → Bytes → Option (List Element)
  | _, done, [] => some done.reverse
  | 0, _, _ :: _ => none
  | fuel + 1, done, b :: rest => do
    let (e, rest) ← readElement? (b :: rest)
    elementsFrom? fuel (e :: done) rest

/-- The elements that make up the bytes. -/
def elements? (bytes : Bytes) : Option (List Element) := elementsFrom? bytes.length [] bytes

def element? (bytes : Bytes) : Option Element :=
  match readElement? bytes with
  | some (e, []) => some e
  | _ => none

def contentOf? (tag : UInt8) (e : Element) : Option Bytes :=
  if e.tag = tag then some e.content else none

def sequence? (e : Element) : Option (List Element) := contentOf? sequenceTag e >>= elements?

/-- Whether a content is a natural number in the fewest bytes. -/
def isNatural : Bytes → Bool
  | [] => false
  | [a] => a.toNat < 0x80
  | a :: b :: _ => a.toNat < 0x80 && !(a = 0 && b.toNat < 0x80)

/-- The number of an INTEGER that is no less than zero. -/
def natural? (e : Element) : Option Nat := do
  let content ← contentOf? integerTag e
  if isNatural content then some (BigEndian.value content) else none

/-- The bytes of an object identifier, of which there are at most 63. -/
def objectId? (e : Element) : Option Bytes := do
  let content ← contentOf? objectIdTag e
  if content.length ≤ 63 ∧ ObjectId.isValid content then some content else none

def isNull (e : Element) : Bool := contentOf? nullTag e = some []

/-- The bytes of a BIT STRING, whose unused bits are zero. -/
def bits? (e : Element) : Option Bytes := do
  match ← contentOf? bitStringTag e with
  | [] => none
  | unused :: content =>
    let last := content.getLast?.getD 0
    let isClear := last.toNat % Nat.shiftLeft 1 unused.toNat = 0
    if unused = 0 ∨ (unused.toNat ≤ 7 ∧ content ≠ [] ∧ isClear) then some content else none

end SignedAccess.Der
