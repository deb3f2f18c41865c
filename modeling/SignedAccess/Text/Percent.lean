import SignedAccess.Bytes.Hex
import SignedAccess.Text.Utf8

/-!
# Percent encoding

A character that is not kept is written as the bytes of its UTF-8 form, each a percent sign and
two upper-case hexadecimal digits.

Main definitions:

* `isUnreserved` — the characters that every URL component may hold as they are;
* `encode` — percent encoding of all characters but the kept ones;
* `decode?` — the text of a percent-encoded one;
* `decodeLossy` — the text of one that may be ill-formed.
-/

namespace SignedAccess.Percent

/-- ASCII letters and digits and the four marks that need no escape anywhere in a URL. -/
def isUnreserved (c : Char) : Bool := c.isAlphanum || c = '-' || c = '.' || c = '_' || c = '~'

/-- The upper-case hexadecimal digit of a number below sixteen. -/
def hexDigit (n : Nat) : Char := (Nat.digitChar n).toUpper

def escape (b : UInt8) : Text := ['%', hexDigit (b.toNat / 16), hexDigit (b.toNat % 16)]

/-- The escapes of a character's bytes. -/
def escapeChar (c : Char) : Text := (String.utf8EncodeChar c).flatMap escape

/-- A character as it is if it is kept, escaped otherwise. -/
def encodeChar (keep : Char → Bool) (c : Char) : Text := if keep c then [c] else escapeChar c

/-- Percent encoding of every character that `keep` does not hold of. -/
def encode (keep : Char → Bool) (t : Text) : Text := t.flatMap (encodeChar keep)

/-- The bytes that a text stands for, each escape being one byte; a lone percent sign is
refused. -/
def unescape? : Text → Option Bytes
  | [] => some []
  | '%' :: h :: l :: rest => do
    let high ← Hex.digit? h
    let low ← Hex.digit? l
    return UInt8.ofNat (high * 16 + low) :: (← unescape? rest)
  | c :: rest =>
    if c = '%' then none else (unescape? rest).map (String.utf8EncodeChar c ++ ·)

/-- The text of a percent-encoded text. -/
def decode? (t : Text) : Option Text := unescape? t >>= Utf8.decode?

/-- The bytes that a text stands for, a percent sign that begins no escape being one of them. -/
def unescapeLossy : Text → Bytes
  | [] => []
  | ['%', h] => 0x25 :: unescapeLossy [h]
  | '%' :: h :: l :: rest =>
    match Hex.digit? h, Hex.digit? l with
    | some high, some low => UInt8.ofNat (high * 16 + low) :: unescapeLossy rest
    | _, _ => 0x25 :: unescapeLossy (h :: l :: rest)
  | c :: rest => String.utf8EncodeChar c ++ unescapeLossy rest

/-- The text of any text in which escapes may stand. -/
def decodeLossy (t : Text) : Text := Utf8.decodeLossy (unescapeLossy t)

/-! ## Lemmas -/

theorem encode_append (keep : Char → Bool) (s t : Text) :
    encode keep (s ++ t) = encode keep s ++ encode keep t :=
  List.flatMap_append

theorem encode_cons (keep : Char → Bool) (c : Char) (t : Text) :
    encode keep (c :: t) = encodeChar keep c ++ encode keep t :=
  List.flatMap_cons

theorem hexDigit_value : ∀ n, n < 16 → Hex.digit? (hexDigit n) = some n := by decide

end SignedAccess.Percent
