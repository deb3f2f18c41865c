import SignedAccess.Json.Reader
import SignedAccess.Text.Utf16
import SignedAccess.Text.Utf8

/-!
# JSON text in bytes

JSON text comes in UTF-8, UTF-16 or UTF-32, which its first bytes tell.  A surrogate without a
partner is let through: it has no character, and `Json.surrogateMark` with its place among the
surrogates stands for it.

Main definitions:

* `UnicodeForm` — the encodings;
* `UnicodeForm.detect` — the encoding of bytes, and the bytes behind a byte order mark;
* `Json.textOf?` — the text of bytes.
-/

namespace SignedAccess

open Wide (ByteOrder)

/-- The encodings of JSON text. -/
inductive UnicodeForm where
  | utf8
  | utf16 (order : ByteOrder)
  | utf32 (order : ByteOrder)
  deriving DecidableEq, Repr

namespace UnicodeForm

/-- The encoding that the first bytes show: a mark in front, or where the first characters, which
are in ASCII, have their zero bytes.  The bytes behind the mark come with it. -/
def detect (bytes : Bytes) : UnicodeForm × Bytes :=
  match bytes with
  | 0x00 :: 0x00 :: 0xFE :: 0xFF :: rest => (.utf32 .big, rest)
  | 0xFF :: 0xFE :: 0x00 :: 0x00 :: rest => (.utf32 .little, rest)
  | 0xFE :: 0xFF :: rest => (.utf16 .big, rest)
  | 0xFF :: 0xFE :: rest => (.utf16 .little, rest)
  | 0xEF :: 0xBB :: 0xBF :: rest => (.utf8, rest)
  | a :: b :: c :: d :: _ =>
    (if a = 0 then (if b = 0 then .utf32 .big else .utf16 .big)
    else if b = 0 then (if c = 0 ∧ d = 0 then .utf32 .little else .utf16 .little)
    else .utf8, bytes)
  | [a, b] => (if a = 0 then .utf16 .big else if b = 0 then .utf16 .little else .utf8, bytes)
  | _ => (.utf8, bytes)

end UnicodeForm

namespace Json

/-- A character of a JSON text.  A control character takes the place of U+0000, which is refused
wherever it stands, as it is itself. -/
def plainChar (c : Char) : Char := if c = '\x00' then '\x01' else c

/-- A surrogate within a JSON text. -/
def marked (n : Nat) : Text := [surrogateMark, Char.ofNat (n - 0xD800)]

/-- A code point within a JSON text; none beyond the code space. -/
def pointText? (n : Nat) : Option Text :=
  if 0xD800 ≤ n ∧ n < 0xE000 then some (marked n)
  else (Wide.charOf? n).map fun c => [plainChar c]

/-- The text of UTF-8 bytes, read in at most `fuel` steps. -/
def decode8? : (fuel : Nat) → Bytes → Option Text
  | 0, _ => some []
  | _ + 1, [] => some []
  | fuel + 1, b :: rest =>
    match Utf8.readChar b rest with
    | (some c, rest) => (decode8? fuel rest).map (plainChar c :: ·)
    | (none, _) => match b, rest with
      | 0xED, c :: d :: rest =>
        if 0xA0 ≤ c.toNat ∧ c.toNat ≤ 0xBF ∧ 0x80 ≤ d.toNat ∧ d.toNat ≤ 0xBF then
          (decode8? fuel rest).map
            (marked (0xD000 + (c.toNat - 0x80) * 0x40 + (d.toNat - 0x80)) ++ ·)
        else none
      | _, _ => none

/-- The text of UTF-16 bytes. -/
def decode16? (order : ByteOrder) : Bytes → Option Text
  | [] => some []
  | [_] => none
  | [a, b] => pointText? (Wide.unitOf order [a, b])
  | [_, _, _] => none
  | a :: b :: c :: d :: rest =>
    let high := Wide.unitOf order [a, b]
    let low := Wide.unitOf order [c, d]
    if 0xD800 ≤ high ∧ high < 0xDC00 ∧ 0xDC00 ≤ low ∧ low < 0xE000 then
      (decode16? order rest).map
        (Char.ofNat (0x10000 + (high - 0xD800) * 0x400 + (low - 0xDC00)) :: ·)
    else do
      let first ← pointText? high
      return first ++ (← decode16? order (c :: d :: rest))

/-- The text of UTF-32 bytes. -/
def decode32? (order : ByteOrder) : Bytes → Option Text
  | [] => some []
  | a :: b :: c :: d :: rest => do
    let first ← pointText? (Wide.unitOf order [a, b, c, d])
    return first ++ (← decode32? order rest)
  | _ => none

/-- The text of bytes, unless they are ill-formed. -/
def textOf? (bytes : Bytes) : Option Text :=
  match UnicodeForm.detect bytes with
  | (.utf8, rest) => decode8? rest.length rest
  | (.utf16 order, rest) => decode16? order rest
  | (.utf32 order, rest) => decode32? order rest

end Json

end SignedAccess
