import SignedAccess.Text.Charset.BigFiveTable
import SignedAccess.Text.Charset.ChineseTable
import SignedAccess.Text.Charset.Korean

/-!
# Chinese character sets

Main definitions:

* `Chinese.gbkPair?`, `Chinese.gb18030Pair?`, `Chinese.fourBytes?` — the texts of pairs and of four
  bytes;
* `Chinese.euc`, `Chinese.extended`, `Chinese.full`, `Chinese.hz` — the steps of the encodings of
  simplified Chinese;
* `BigFive.common`, `BigFive.windows`, `BigFive.supplemented` — those of traditional Chinese.
-/

namespace SignedAccess

open Japanese (ascii flip code orBad pairs single)
open Korean (asciiAlone?)

namespace Chinese

/-! ## Pairs -/

/-- The text of a pair of the national set, with both high bits set. -/
def nationalPair? (a b : UInt8) : Option Text := single (gb2312.char? (code (flip a) (flip b)))

/-- The text of a pair of the extended set. -/
def gbkPair? (a b : UInt8) : Option Text :=
  match gbk.char? (code a.toNat b.toNat) with
  | some c => some [c]
  | none => nationalPair? a b

/-- The character of a pair in the user-defined areas. -/
def privateChar? (a b : Nat) : Option Char :=
  if 0xAA ≤ a ∧ a ≤ 0xAF ∧ 0xA1 ≤ b ∧ b ≤ 0xFE then
    some (Char.ofNat (0xE000 + 94 * (a - 0xAA) + (b - 0xA1)))
  else if 0xF8 ≤ a ∧ a ≤ 0xFE ∧ 0xA1 ≤ b ∧ b ≤ 0xFE then
    some (Char.ofNat (0xE234 + 94 * (a - 0xF8) + (b - 0xA1)))
  else if 0xA1 ≤ a ∧ a ≤ 0xA7 ∧ 0x40 ≤ b ∧ b ≤ 0xA0 ∧ b ≠ 0x7F then
    some (Char.ofNat (0xE4C6 + 96 * (a - 0xA1) + (if b < 0x7F then b - 0x40 else b - 0x41)))
  else none

/-- The text of a pair of the set of 2000. -/
def gb18030Pair? (a b : UInt8) : Option Text :=
  match gbkPair? a b with
  | some t => some t
  | none => single ((gb18030.char? (code a.toNat b.toNat)).or (privateChar? a.toNat b.toNat))

/-! ## Four bytes -/

/-- How many positions of four bytes there are below U+10000. -/
def fourByteCount : Nat := 39420

/-- The character at a position among all four bytes. -/
def fourByteChar? (position : Nat) : Option Char :=
  if position < fourByteCount then
    match (fourByteRuns.takeWhile fun r => r.1 ≤ position).getLast? with
    | some (start, first) => some (Char.ofNat (first + (position - start)))
    | none => none
  else none

def fourBytes? (a b c d : UInt8) : Option Text :=
  if a < 0x81 ∨ 0xFE < a ∨ c < 0x81 ∨ 0xFE < c ∨ d < 0x30 ∨ 0x39 < d then none
  else
    let position (lead : Nat) : Nat :=
      ((lead * 10 + (b.toNat - 0x30)) * 126 + (c.toNat - 0x81)) * 10 + (d.toNat - 0x30)
    if a < 0x85 then single (fourByteChar? (position (a.toNat - 0x81)))
    else if a < 0x90 then none
    else
      let n := 0x10000 + position (a.toNat - 0x90)
      if n < 0x110000 then some [Char.ofNat n] else none

/-! ## Encodings -/

/-- A step in the encoding of the national set. -/
def euc : Bytes → Step Unit := pairs asciiAlone? fun a b => orBad 2 (nationalPair? a b)

/-- A step in the encoding of the extended set. -/
def extended : Bytes → Step Unit := pairs asciiAlone? fun a b => orBad 2 (gbkPair? a b)

/-- A step in the encoding of the set of 2000.  A digit behind the first byte tells that there are
four. -/
def full : Bytes → Step Unit
  | [] => .short
  | [a] => if a < 0x80 then ascii a else .short
  | a :: b :: rest =>
    if a < 0x80 then ascii a
    else if 0x30 ≤ b ∧ b ≤ 0x39 then match rest with
      | c :: d :: _ => orBad 4 (fourBytes? a b c d)
      | _ => .short
    else orBad 2 (gb18030Pair? a b)

/-- A step in the seven-bit encoding of the national set; the state tells whether pairs are read.  A
tilde and a brace change it. -/
def hz (inPairs : Bool) : Bytes → Step Bool
  | [] => .short
  | [a] => if a = 0x7E then .short else if 0x80 ≤ a then .bad 1 else if inPairs then .short
    else .read [Char.ofNat a.toNat] 1 inPairs
  | a :: b :: _ =>
    if a = 0x7E then
      if b = 0x7D ∧ inPairs then .read [] 2 false
      else if inPairs then .bad 1
      else if b = 0x7E then .read ['~'] 2 false
      else if b = 0x7B then .read [] 2 true
      else if b = 0x0A then .read [] 2 false
      else .bad 1
    else if 0x80 ≤ a then .bad 1
    else if inPairs then match gb2312.char? (code a.toNat b.toNat) with
      | some c => .read [c] 2 inPairs
      | none => .bad 1
    else .read [Char.ofNat a.toNat] 1 inPairs

end Chinese

namespace BigFive

/-- A step in the encoding of the common set. -/
def common : Bytes → Step Unit :=
  pairs asciiAlone? fun a b => orBad 2 (single (standard.char? (code a.toNat b.toNat)))

def windows : Bytes → Step Unit :=
  pairs asciiAlone? fun a b =>
    let n := code a.toNat b.toNat
    orBad 2 (single ((cp950.char? n).or (standard.char? n)))

/-- Pairs of the supplementary set that stand for two characters. -/
def hongKongPairs : List (Nat × String) :=
  [(0x8862, "\u00ca\u0304"), (0x8864, "\u00ca\u030c"), (0x88A3, "\u00ea\u0304"),
    (0x88A5, "\u00ea\u030c")]

/-- Whether a pair lies where the supplementary set takes the place of the common one. -/
def isReplaced (n : Nat) : Bool := 0xC6A1 ≤ n && n < 0xC900

/-- A step in the encoding of the common set with the supplementary set of Hong Kong. -/
def supplemented : Bytes → Step Unit :=
  pairs asciiAlone? fun a b =>
    let n := code a.toNat b.toNat
    orBad 2 (match (if isReplaced n then none else standard.char? n).or (hongKong.char? n) with
      | some c => some [c]
      | none => (hongKongPairs.lookup n).map String.toList)

end BigFive

end SignedAccess
