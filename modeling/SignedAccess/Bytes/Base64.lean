import SignedAccess.Text

/-!
# Base64

Main definitions:

* `Alphabet` — the standard alphabet and the one for URLs;
* `sextets`, `bytesOf` — bytes as six-bit digits and back;
* `encodeUnpadded`, `decodeUnpadded?` — digits without padding;
* `decodePadded?`, `decodeLoosely?` — a strict and a loose reader of padded text.
-/

namespace SignedAccess.Base64

/-- The two alphabets, which differ in the digits 62 and 63. -/
inductive Alphabet where
  | standard
  | urlSafe
  deriving DecidableEq, Repr

/-! ## Digits -/

/-- The character of a six-bit digit. -/
def digit (a : Alphabet) (n : Nat) : Char :=
  if n < 26 then Char.ofNat ('A'.toNat + n)
  else if n < 52 then Char.ofNat ('a'.toNat + (n - 26))
  else if n < 62 then Char.ofNat ('0'.toNat + (n - 52))
  else match a with
    | .standard => if n = 62 then '+' else '/'
    | .urlSafe => if n = 62 then '-' else '_'

/-- The six-bit digit of a character of the alphabet. -/
def value? (a : Alphabet) (c : Char) : Option Nat :=
  if 'A' ≤ c ∧ c ≤ 'Z' then some (c.toNat - 'A'.toNat)
  else if 'a' ≤ c ∧ c ≤ 'z' then some (c.toNat - 'a'.toNat + 26)
  else if '0' ≤ c ∧ c ≤ '9' then some (c.toNat - '0'.toNat + 52)
  else match a with
    | .standard => if c = '+' then some 62 else if c = '/' then some 63 else none
    | .urlSafe => if c = '-' then some 62 else if c = '_' then some 63 else none

/-- Bytes as six-bit digits; the unused bits of the last digit are zero. -/
def sextets : Bytes → List Nat
  | a :: b :: c :: rest =>
    a.toNat / 4 :: (a.toNat % 4 * 16 + b.toNat / 16) :: (b.toNat % 16 * 4 + c.toNat / 64)
      :: c.toNat % 64 :: sextets rest
  | [a, b] => [a.toNat / 4, a.toNat % 4 * 16 + b.toNat / 16, b.toNat % 16 * 4]
  | [a] => [a.toNat / 4, a.toNat % 4 * 16]
  | [] => []

/-- The bytes of six-bit digits; the unused bits of the last digit are dropped. -/
def bytesOf : List Nat → Bytes
  | a :: b :: c :: d :: rest =>
    UInt8.ofNat (a * 4 + b / 16) :: UInt8.ofNat (b % 16 * 16 + c / 4)
      :: UInt8.ofNat (c % 4 * 64 + d) :: bytesOf rest
  | [a, b, c] => [UInt8.ofNat (a * 4 + b / 16), UInt8.ofNat (b % 16 * 16 + c / 4)]
  | [a, b] => [UInt8.ofNat (a * 4 + b / 16)]
  | _ => []

/-! ## Texts -/

/-- The digits of `bytes`, without padding. -/
def encodeUnpadded (a : Alphabet) (bytes : Bytes) : Text := (sextets bytes).map (digit a)

/-- The digits of `bytes` in the standard alphabet, padded to a multiple of four characters. -/
def encodePadded (bytes : Bytes) : Text :=
  let digits := encodeUnpadded .standard bytes
  digits ++ List.replicate ((4 - digits.length % 4) % 4) '='

/-- The bytes of an unpadded text.  A single left-over digit stands for no byte and is refused. -/
def decodeUnpadded? (a : Alphabet) (t : Text) : Option Bytes := do
  let digits ← t.mapM (value? a)
  if digits.length % 4 = 1 then none else some (bytesOf digits)

/-- Whether `pads` padding characters may follow `digits` digits.  A complete group needs none,
and any surplus right behind it is tolerated; an incomplete one needs exactly what is missing. -/
def padsFit (digits pads : Nat) : Bool :=
  match digits % 4 with
  | 0 => pads = 0 || digits ≠ 0
  | 2 => pads = 2
  | 3 => pads = 1
  | _ => false

/-- The bytes of a padded text in the standard alphabet.  Only padding may follow padding, and the
unused bits of the last digit are not examined. -/
def decodePadded? (t : Text) : Option Bytes := do
  let pads := t.dropWhile (· ≠ '=')
  let digits ← (t.takeWhile (· ≠ '=')).mapM (value? .standard)
  if pads.all (· = '=') && padsFit digits.length pads.length then some (bytesOf digits) else none

/-- The bytes of a text behind `digits`, the latest first, of which `position` begin a group, and
behind `pads` padding characters. -/
def decodeLooselyFrom? (digits : List Nat) (position pads : Nat) : Text → Option Bytes
  | [] => if position = 0 then some (bytesOf digits.reverse) else none
  | c :: rest =>
    if c = '=' then
      if position < 2 then decodeLooselyFrom? digits position pads rest
      else if 4 ≤ position + pads + 1 then some (bytesOf digits.reverse)
      else decodeLooselyFrom? digits position (pads + 1) rest
    else match value? .standard c with
      | some n => decodeLooselyFrom? (n :: digits) ((position + 1) % 4) 0 rest
      | none => decodeLooselyFrom? digits position pads rest

/-- The bytes of a padded text in the standard alphabet, in which all other characters are passed
over.  The padding of an incomplete group ends the text. -/
def decodeLoosely? (t : Text) : Option Bytes := decodeLooselyFrom? [] 0 0 t

/-! ## Lemmas -/

theorem value?_digit : ∀ n, n < 64 →
    value? .standard (digit .standard n) = some n ∧
      value? .urlSafe (digit .urlSafe n) = some n := by
  decide +kernel

theorem sextets_lt (bytes : Bytes) : ∀ n ∈ sextets bytes, n < 64 := by
  fun_induction sextets bytes with
  | case1 a b c rest ih =>
    have ha := a.toNat_lt
    have hb := b.toNat_lt
    have hc := c.toNat_lt
    simp only [List.mem_cons]
    rintro n (rfl | rfl | rfl | rfl | h)
    · omega
    · omega
    · omega
    · omega
    · exact ih n h
  | case2 a b =>
    have ha := a.toNat_lt
    have hb := b.toNat_lt
    simp only [List.mem_cons, List.not_mem_nil, or_false]
    rintro n (rfl | rfl | rfl) <;> omega
  | case3 a =>
    have ha := a.toNat_lt
    simp only [List.mem_cons, List.not_mem_nil, or_false]
    rintro n (rfl | rfl) <;> omega
  | case4 => simp

/-- The digits of bytes stand for these bytes. -/
theorem bytesOf_sextets (bytes : Bytes) : bytesOf (sextets bytes) = bytes := by
  have byte : ∀ (x : UInt8) (n : Nat), n = x.toNat → UInt8.ofNat n = x := by
    rintro x n rfl
    exact UInt8.ofNat_toNat
  fun_induction sextets bytes with
  | case1 a b c rest ih =>
    have ha := a.toNat_lt
    have hb := b.toNat_lt
    have hc := c.toNat_lt
    simp only [bytesOf, ih]
    rw [byte a _ (by omega), byte b _ (by omega), byte c _ (by omega)]
  | case2 a b =>
    have ha := a.toNat_lt
    have hb := b.toNat_lt
    simp only [bytesOf]
    rw [byte a _ (by omega), byte b _ (by omega)]
  | case3 a =>
    have ha := a.toNat_lt
    simp only [bytesOf]
    rw [byte a _ (by omega)]
  | case4 => rfl

end SignedAccess.Base64
