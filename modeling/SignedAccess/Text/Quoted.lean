import SignedAccess.Text
import SignedAccess.Text.PrintTable
import SignedAccess.Text.Ranges

/-!
# Quoted texts

How a text is shown inside a message: between single quotes, or between double quotes if it
holds a single quote and no double quote; what has no printed form is escaped.

Main definitions:

* `hexDigits` — lower-case hexadecimal digits to a width;
* `quoted` — the text as it is shown.
-/

namespace SignedAccess.Text

/-- `n` in lower-case hexadecimal digits, filled up to `width` digits. -/
def hexDigits (width n : Nat) : Text := padZeros width (Nat.toDigits 16 n)

/-- Whether a character has a printed form. -/
def isPrintable (c : Char) : Bool := !inRanges unprintableRanges c.toNat

/-- The escape of a character without a printed form, as short as its code point allows. -/
def escapeChar (c : Char) : Text :=
  if c = '\t' then "\\t".toList
  else if c = '\n' then "\\n".toList
  else if c = '\r' then "\\r".toList
  else if c.toNat ≤ 0xFF then "\\x".toList ++ hexDigits 2 c.toNat
  else if c.toNat ≤ 0xFFFF then "\\u".toList ++ hexDigits 4 c.toNat
  else "\\U".toList ++ hexDigits 8 c.toNat

/-- A character between two marks of the kind `mark`. -/
def quotedChar (mark c : Char) : Text :=
  if c = mark ∨ c = '\\' then ['\\', c] else if isPrintable c then [c] else escapeChar c

/-- The mark that encloses a text: the double quote only if it saves an escape. -/
def quoteMark (t : Text) : Char := if '\'' ∈ t ∧ '"' ∉ t then '"' else '\''

/-- A text between quotes, with what has no printed form escaped. -/
def quoted (t : Text) : Text := quoteMark t :: t.flatMap (quotedChar (quoteMark t)) ++ [quoteMark t]

end SignedAccess.Text
