import SignedAccess.Text.Charset.Japanese
import SignedAccess.Text.Charset.KoreanTable

/-!
# Korean character sets

Main definitions:

* `Korean.syllable` — the syllable of three letters;
* `Korean.eucKr`, `Korean.windows`, `Korean.johab` — the steps of the encodings.
-/

namespace SignedAccess.Korean

open Japanese (ascii flip code orBad pairs single)

/-! ## Syllables -/

/-- The syllable of a lead consonant, a vowel and a tail consonant, which is zero for none. -/
def syllable (lead vowel tail : Nat) : Char := Char.ofNat (0xAC00 + lead * 588 + vowel * 28 + tail)

/-- The place of each consonant letter among the lead consonants. -/
def leads : List (Option Nat) :=
  [some 0, some 1, none, some 2, none, none, some 3, some 4, some 5, none, none, none, none, none,
    none, none, some 6, some 7, some 8, none, some 9, some 10, some 11, some 12, some 13, some 14,
    some 15, some 16, some 17, some 18]

/-- The place of each consonant letter among the tail consonants. -/
def tails : List (Option Nat) :=
  [some 1, some 2, some 3, some 4, some 5, some 6, some 7, none, some 8, some 9, some 10, some 11,
    some 12, some 13, some 14, some 15, some 16, some 17, none, some 18, some 19, some 20, some 21,
    some 22, none, some 23, some 24, some 25, some 26, some 27]

/-- A member of a list by a byte, the first one by `base`. -/
def nth? (places : List (Option Nat)) (base : Nat) (b : UInt8) : Option Nat :=
  if b.toNat < base then none else (places[b.toNat - base]?).join

/-- The syllable that three letters spell, each by its second byte. -/
def spelt? (a b c : UInt8) : Option Text := do
  let lead ← nth? leads 0xA1 a
  let vowel ← nth? ((List.range 21).map some) 0xBF b
  let tail ← if c = 0xD4 then some 0 else nth? tails 0xA1 c
  return [syllable lead vowel tail]

/-! ## Encodings -/

/-- The character of a pair with both high bits set. -/
def national? (a b : UInt8) : Option Char := ksx1001.char? (code (flip a) (flip b))

/-- A step in EUC-KR.  A filler in front of three letters spells a syllable. -/
def eucKr (bytes : Bytes) : Step Unit :=
  match bytes with
  | 0xA4 :: 0xD4 :: rest => match rest with
    | a₁ :: a :: b₁ :: b :: c₁ :: c :: _ =>
      if a₁ = 0xA4 ∧ b₁ = 0xA4 ∧ c₁ = 0xA4 then orBad 8 (spelt? a b c) else .bad 1
    | _ => .short
  | a :: b :: _ => if a < 0x80 then ascii a else orBad 2 (single (national? a b))
  | [a] => if a < 0x80 then ascii a else .short
  | [] => .short

/-- What a byte stands for alone where all others begin a pair. -/
def asciiAlone? (b : UInt8) : Option (Option Char) :=
  if b < 0x80 then some (some (Char.ofNat b.toNat)) else none

def windows : Bytes → Step Unit :=
  pairs asciiAlone? fun a b =>
    orBad 2 (single ((national? a b).or (cp949.char? (code a.toNat b.toNat))))

/-! ## Johab -/

/-- What five bits mean as a letter of a syllable. -/
inductive Letter where
  /-- The filler, where there is no letter. -/
  | filler
  /-- The place among the letters of its kind, and the letter alone. -/
  | letter (place : Nat) (alone : Nat)

/-- The letters of five bits, none in front of the first place. -/
def letter? (places : List (Option (Nat × Nat))) (filler bits : Nat) : Option Letter :=
  if bits = filler then some .filler
  else ((places[bits]?).join).map fun p => .letter p.1 p.2

def johabLead? : Nat → Option Letter :=
  let alone : List Nat := [0x3131, 0x3132, 0x3134, 0x3137, 0x3138, 0x3139, 0x3141, 0x3142, 0x3143,
    0x3145, 0x3146, 0x3147, 0x3148, 0x3149, 0x314A, 0x314B, 0x314C, 0x314D, 0x314E]
  letter? ([none, none] ++ alone.mapIdx fun i c => some (i, c)) 1

def johabVowel? : Nat → Option Letter :=
  let places : List (Option Nat) := [none, none, none, some 0, some 1, some 2, some 3, some 4, none,
    none, some 5, some 6, some 7, some 8, some 9, some 10, none, none, some 11, some 12, some 13,
    some 14, some 15, some 16, none, none, some 17, some 18, some 19, some 20]
  letter? (places.map fun p => p.map fun i => (i, 0x314F + i)) 2

def johabTail? : Nat → Option Letter :=
  let alone : List Nat := [0x3131, 0x3132, 0x3133, 0x3134, 0x3135, 0x3136, 0x3137, 0x3139, 0x313A,
    0x313B, 0x313C, 0x313D, 0x313E, 0x313F, 0x3140, 0x3141, 0x3142, 0x3144, 0x3145, 0x3146, 0x3147,
    0x3148, 0x314A, 0x314B, 0x314C, 0x314D, 0x314E]
  let places := alone.mapIdx fun i c => some (i + 1, c)
  letter? ([none, none] ++ places.take 16 ++ [none] ++ places.drop 16) 1

/-- The text of a syllable in three times five bits.  Of letters that make no syllable only a single
one has a text. -/
def johabSyllable? (n : Nat) : Option Text := do
  let lead ← johabLead? (n / 0x400 % 0x20)
  let vowel ← johabVowel? (n / 0x20 % 0x20)
  let tail ← johabTail? (n % 0x20)
  match lead, vowel, tail with
  | .filler, .filler, .filler => some ['\u3000']
  | .filler, .filler, .letter _ c => some [Char.ofNat c]
  | .filler, .letter _ c, .filler => some [Char.ofNat c]
  | .letter _ c, .filler, .filler => some [Char.ofNat c]
  | .letter i _, .letter j _, .filler => some [syllable i j 0]
  | .letter i _, .letter j _, .letter k _ => some [syllable i j k]
  | _, _, _ => none

/-- The text of a pair beyond the syllables, which two rows share a first byte for. -/
def johabOther? (a b : Nat) : Option Text :=
  if a = 0xDF ∨ 0xF9 < a ∨ b < 0x31 ∨ (0x80 ≤ b ∧ b < 0x91) ∨ b % 0x80 = 0x7F
      ∨ (a = 0xDA ∧ 0xA1 ≤ b ∧ b ≤ 0xD3) then none
  else if a = 0xD8 then none
  else
    let row := if a < 0xE0 then 2 * (a - 0xD9) else 2 * a - 0x197
    let column := if b < 0x91 then b - 0x31 else b - 0x43
    single (ksx1001.char? (if column < 0x5E then code (row + 0x21) (column + 0x21)
      else code (row + 0x22) (column - 0x5E + 0x21)))

def johab : Bytes → Step Unit :=
  pairs asciiAlone? fun a b =>
    orBad 2
      (if a < 0xD8 then johabSyllable? (code a.toNat b.toNat) else johabOther? a.toNat b.toNat)

end SignedAccess.Korean
