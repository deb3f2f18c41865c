import SignedAccess.Text
import SignedAccess.Text.Ranges

/-!
# Blank characters

Main definitions:

* `isBlank` — white space, the four information separators U+001C to U+001F included;
* `isSpace` — white space in the stricter sense, without the separators;
* `trim` — a text without the blanks at its ends.
-/

namespace SignedAccess.Text

/-- Ranges of the blank characters. -/
def blankRanges : List (Nat × Nat) :=
  [(0x09, 0x0D), (0x1C, 0x20), (0x85, 0x85), (0xA0, 0xA0), (0x1680, 0x1680), (0x2000, 0x200A),
   (0x2028, 0x2029), (0x202F, 0x202F), (0x205F, 0x205F), (0x3000, 0x3000)]

/-- White space, the information separators included. -/
def isBlank (c : Char) : Bool := inRanges blankRanges c.toNat

/-- White space that is no information separator. -/
def isSpace (c : Char) : Bool := isBlank c && !(0x1C ≤ c.toNat && c.toNat ≤ 0x1F)

/-- `t` without the blanks at either end. -/
def trim (t : Text) : Text := trimBoth isBlank t

end SignedAccess.Text
