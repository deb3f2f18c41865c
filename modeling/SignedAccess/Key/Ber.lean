import SignedAccess.Bytes.BigEndian
import SignedAccess.Key.ObjectId

/-!
# Elements in a loose encoding

Private keys are tagged elements, and their readers tolerate more than the shortest encoding: a
length may have zeros in front or be left open until a closing mark, and a string may come in
parts.

Main definitions:

* `Ber.Header` — the tag of an element and the size of its content;
* `Ber.Reader` — a reader of bytes, with `header`, `inSequence`, `optionally`, `many` and the
  readers of numbers and strings;
* `Ber.any` — any element;
* `Ber.outer?` — the first element of a file.
-/

namespace SignedAccess.Ber

/-- A reader takes what it reads off the front of the bytes. -/
abbrev Reader := StateT Bytes Option

structure Tag where
  /-- Who gives the number its meaning: 0 for everyone, 2 for the enclosing element. -/
  domain : Nat
  number : Nat
  deriving DecidableEq, Repr

/-- A tag with a meaning for everyone. -/
def universal (number : Nat) : Tag := ⟨0, number⟩

/-- A tag with a meaning in the enclosing element. -/
def context (number : Nat) : Tag := ⟨2, number⟩

/-- What stands in front of a content. -/
structure Header where
  tag : Tag
  /-- Whether the content consists of elements. -/
  isConstructed : Bool
  /-- The size of the content; none if a closing mark ends it. -/
  size : Option Nat
  deriving DecidableEq, Repr

/-! ## Headers -/

/-- How many elements are read at most; no file has as many bytes. -/
def limit : Nat := 0x80000000

def hasBytes (n : Nat) (bytes : Bytes) : Bool := n = 0 || !(bytes.drop (n - 1)).isEmpty

def byte : Reader UInt8 := fun bytes =>
  match bytes with
  | [] => none
  | b :: rest => some (b, rest)

/-- A tag number to base 128, behind the digits that make up `n`. -/
def tagNumberFrom? (n : Nat) : Bytes → Option (Nat × Bytes)
  | [] => none
  | b :: rest =>
    let n := n * 128 + b.toNat % 128
    if b.toNat < 0x80 then some (n, rest)
    else if 0xFFFFFF < n then none
    else tagNumberFrom? n rest

/-- The size of a content, in one byte or behind a count of bytes.  Of the latter at most eight
count, and something has to follow them. -/
def size : Reader (Option Nat) := do
  let first ← byte
  if first = 0x80 then return none
  else if first.toNat < 0x80 then return some first.toNat
  else
    let count := first.toNat - 0x80
    let bytes ← get
    let digits := (bytes.take count).dropWhile (· = 0)
    guard (hasBytes (count + 1) bytes && digits.length ≤ 8)
    set (bytes.drop count)
    return some (BigEndian.value digits)

/-- A header, whatever follows it. -/
def bareHeader : Reader Header := do
  let first := (← byte).toNat
  let number ← if first % 32 = 31 then fun bytes => tagNumberFrom? 0 bytes else pure (first % 32)
  let isConstructed := first / 32 % 2 = 1
  let size ← size
  guard (size.isSome || isConstructed)
  return ⟨⟨first / 64, number⟩, isConstructed, size⟩

/-- A header whose content is there. -/
def header : Reader Header := do
  let header ← bareHeader
  let bytes ← get
  guard (header.size.all fun n => hasBytes n bytes)
  return header

/-! ## Contents -/

/-- Whether a list of elements ends here: there are no more bytes, or a closing mark follows. -/
def isEnd : Bytes → Bool
  | [] => true
  | 0 :: 0 :: _ => true
  | _ => false

/-- Whether the list of elements ends here. -/
def atEnd : Reader Bool := fun bytes => some (isEnd bytes, bytes)

/-- A content that `body` reads to its end. -/
def within {α : Type} (size : Option Nat) (body : Reader α) : Reader α := fun bytes =>
  match size with
  | some n =>
    match body (bytes.take n) with
    | some (a, []) => some (a, bytes.drop n)
    | _ => none
  | none =>
    match body bytes with
    | some (a, 0 :: 0 :: rest) => some (a, rest)
    | _ => none

def remaining : Reader Bytes := fun bytes => some (bytes, [])

/-- At most `fuel` elements, behind those in `done`. -/
def manyFrom {α : Type} (read : Reader α) :
    (fuel : Nat) → (done : List α) → Bytes → Option (List α × Bytes)
  | 0, _, _ => none
  | fuel + 1, done, bytes =>
    if isEnd bytes then some (done.reverse, bytes)
    else match read bytes with
      | some (a, rest) => manyFrom read fuel (a :: done) rest
      | none => none

/-- All elements up to the end of the list. -/
def many {α : Type} (read : Reader α) : Reader (List α) := fun bytes => manyFrom read limit [] bytes

/-- The bytes of a part of a string, which may consist of parts, at most `depth` levels of them. -/
def part : (depth : Nat) → Reader Bytes
  | 0 => do
    let header ← header
    guard !header.isConstructed
    within header.size remaining
  | depth + 1 => do
    let header ← header
    if header.isConstructed then
      return (← within header.size (many (part depth))).flatten
    else within header.size remaining

/-- The bytes of a string behind its header. -/
def stringOf (header : Header) : Reader Bytes := do
  if header.isConstructed then return (← within header.size (many (part 5))).flatten
  else within header.size remaining

def tagged (tag : Tag) : Reader Header := do
  let header ← header
  guard (header.tag = tag)
  return header

/-- The content of an element that consists of no others. -/
def primitive (number : Nat) : Reader Bytes := do
  let header ← tagged (universal number)
  guard !header.isConstructed
  within header.size remaining

def string (number : Nat) : Reader Bytes := do stringOf (← tagged (universal number))

/-- An element that consists of what `body` reads. -/
def group {α : Type} (tag : Tag) (body : Reader α) : Reader α := do
  let header ← tagged tag
  guard header.isConstructed
  within header.size body

def inSequence {α : Type} (body : Reader α) : Reader α := group (universal 16) body

/-- A list of elements of one kind. -/
def listOf {α : Type} (tag : Tag) (read : Reader α) : Reader (List α) := do
  within (← tagged tag).size (many read)

/-- An element that may be left out.  Whatever stands in its place has to have a header. -/
def optionally {α : Type} (tag : Tag) (read : Reader α) : Reader (Option α) := fun bytes =>
  if isEnd bytes then some (none, bytes)
  else match header bytes with
    | some (header, _) =>
      if header.tag = tag then (read bytes).map fun p => (some p.1, p.2) else some (none, bytes)
    | none => none

/-! ## Numbers and names -/

/-- Whether a content is a signed number in the fewest bytes. -/
def isShortest : Bytes → Bool
  | [] => false
  | [_] => true
  | a :: b :: _ => !(a = 0x00 && b.toNat < 0x80) && !(a = 0xFF && 0x80 ≤ b.toNat)

/-- A signed number in the fewest bytes. -/
def integer : Reader Bytes := do
  let content ← primitive 2
  guard (isShortest content)
  return content

/-- A signed number of at most 32 bits; its content may be empty, which is zero.  The answer is the
content. -/
def shortInteger : Reader Bytes := do
  let content ← primitive 2
  guard (content.isEmpty || (isShortest content && content.length ≤ 4))
  return content

/-- A number that is read without a sign, in any number of bytes. -/
def natural : Reader Nat := do return BigEndian.value (← primitive 2)

def objectId : Reader Bytes := do
  let content ← primitive 6
  guard (ObjectId.isValid content)
  return content

/-- The last byte of a string without its `unused` lowest bits. -/
def clearUnused (unused : Nat) (content : Bytes) : Bytes :=
  match content.getLast? with
  | some last => content.dropLast ++ [last >>> UInt8.ofNat unused <<< UInt8.ofNat unused]
  | none => []

/-- The bytes of a string of bits, behind a count of those that are not used. -/
def bitsOf? : Bytes → Option Bytes
  | [] => none
  | unused :: content => if 7 < unused.toNat then none else some (clearUnused unused.toNat content)

/-- The bytes of a string of bits, in which unused bits are zero. -/
def bitString : Reader Bytes := do
  let content ← string 3
  match bitsOf? content with
  | some bytes => return bytes
  | none => failure

/-! ## Any element -/

/-- What is behind the mark that closes the innermost of `opened` open contents, and all others. -/
def closing? : (fuel opened : Nat) → Bytes → Option Bytes
  | 0, _, _ => none
  | fuel + 1, opened, bytes =>
    match bytes with
    | 0 :: 0 :: rest => if opened ≤ 1 then some rest else closing? fuel (opened - 1) rest
    | _ =>
      match header bytes with
      | some (header, rest) =>
        match header.size with
        | some n => closing? fuel opened (rest.drop n)
        | none => closing? fuel (opened + 1) rest
      | none => none

/-- Passes over a content without a look at its elements. -/
def skip (size : Option Nat) : Reader Unit := fun bytes =>
  match size with
  | some n => some ((), bytes.drop n)
  | none => (closing? limit 1 bytes).map fun rest => ((), rest)

/-- Whether a content suits a tag with a meaning for everyone. -/
def suits (number : Nat) (content : Bytes) : Bool :=
  match number with
  | 1 => content.length = 1
  | 2 | 10 => isShortest content
  | 3 => (bitsOf? content).isSome
  | 5 => content.isEmpty
  | 6 => ObjectId.isValid content
  | 23 => 13 ≤ content.length
  | 24 => 15 ≤ content.length
  | 28 => content.length % 4 = 0
  | 30 => content.length % 2 = 0
  | _ => true

/-- Whether a tag with a meaning for everyone is for elements that consist of no others. -/
def isPrimitive (number : Nat) : Bool := [1, 2, 5, 6, 10].contains number

/-- Any element; the elements of a sequence or a set are not looked at. -/
def any : Reader Unit := do
  let header ← header
  let number := header.tag.number
  if header.tag.domain ≠ 0 then skip header.size
  else if number = 16 ∨ number = 17 then
    guard header.isConstructed
    skip header.size
  else
    guard !(header.isConstructed && isPrimitive number)
    let content ← stringOf header
    guard (suits number content)

/-- The bytes that a reader passes over. -/
def passed {α : Type} (read : Reader α) : Reader Bytes := fun bytes =>
  (read bytes).map fun p => (bytes.take (bytes.length - p.2.length), p.2)

/-! ## Files -/

/-- How many bytes a header in a file may have. -/
def headerWindow : Nat := 8

/-- What is behind the first element of a file, of which `opened` contents are open. -/
def outerEnd? : (fuel opened : Nat) → Bytes → Option Bytes
  | 0, _, _ => none
  | fuel + 1, opened, bytes =>
    let window := bytes.take headerWindow
    match bareHeader window with
    | none => none
    | some (header, left) =>
      let rest := bytes.drop (window.length - left.length)
      match header.size with
      | none => outerEnd? fuel (opened + 1) rest
      | some n =>
        if 0 < opened ∧ n = 0 ∧ header.tag.number = 0 then
          if opened = 1 then some rest else outerEnd? fuel (opened - 1) rest
        else if !hasBytes n rest then none
        else if opened = 0 then some (rest.drop n)
        else outerEnd? fuel opened (rest.drop n)

/-- The first element of a file, with its header. -/
def outer? (file : Bytes) : Option Bytes :=
  (outerEnd? limit 0 file).map fun rest => file.take (file.length - rest.length)

/-- What a reader reads in front of the bytes. -/
def first? {α : Type} (read : Reader α) (bytes : Bytes) : Option α := (read bytes).map Prod.fst

end SignedAccess.Ber
