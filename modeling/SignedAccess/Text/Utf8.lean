import SignedAccess.Text

/-!
# UTF-8

Main definitions:

* `encode` — the bytes of a text;
* `scan` — bytes read as characters, with one mark for each ill-formed run; a run ends before
  the first byte that cannot continue the character begun;
* `decode?` — the text of well-formed bytes;
* `decodeLossy` — every ill-formed run read as the replacement character.
-/

namespace SignedAccess.Utf8

/-! ## Algorithm -/

def encode (t : Text) : Bytes := t.flatMap String.utf8EncodeChar

/-- What a lead byte announces. -/
structure Lead where
  /-- How many bytes follow. -/
  count : Nat
  /-- The leading bits of the code point. -/
  bits : Nat
  /-- The least value of the next byte. -/
  low : Nat
  /-- The greatest value of the next byte. -/
  high : Nat

/-- The announcement of a byte that can begin a character.  The bounds on the next byte exclude
overlong forms, surrogates and code points beyond U+10FFFF. -/
def lead? (b : Nat) : Option Lead :=
  if b < 0x80 then some ⟨0, b, 0, 0⟩
  else if b < 0xC2 then none
  else if b < 0xE0 then some ⟨1, b - 0xC0, 0x80, 0xBF⟩
  else if b = 0xE0 then some ⟨2, 0, 0xA0, 0xBF⟩
  else if b = 0xED then some ⟨2, 0xD, 0x80, 0x9F⟩
  else if b < 0xF0 then some ⟨2, b - 0xE0, 0x80, 0xBF⟩
  else if b = 0xF0 then some ⟨3, 0, 0x90, 0xBF⟩
  else if b < 0xF4 then some ⟨3, b - 0xF0, 0x80, 0xBF⟩
  else if b = 0xF4 then some ⟨3, 4, 0x80, 0x8F⟩
  else none

/-- Reads `count` continuation bytes, the first of them between `low` and `high`.  The answer is
the character, or none for an ill-formed run, and the bytes after it. -/
def continuation : (count low high bits : Nat) → Bytes → Option Char × Bytes
  | 0, _, _, bits, bytes => (some (Char.ofNat bits), bytes)
  | _ + 1, _, _, _, [] => (none, [])
  | count + 1, low, high, bits, b :: rest =>
    if low ≤ b.toNat ∧ b.toNat ≤ high then
      continuation count 0x80 0xBF (bits * 64 + b.toNat % 64) rest
    else (none, b :: rest)

/-- Reads one character, or one ill-formed run, that begins with `b`. -/
def readChar (b : UInt8) (rest : Bytes) : Option Char × Bytes :=
  match lead? b.toNat with
  | some l => continuation l.count l.low l.high l.bits rest
  | none => (none, rest)

/-- At most `fuel` characters and ill-formed runs. -/
def scanUpTo : (fuel : Nat) → Bytes → List (Option Char)
  | 0, _ => []
  | _ + 1, [] => []
  | fuel + 1, b :: rest => (readChar b rest).1 :: scanUpTo fuel (readChar b rest).2

/-- The characters of `bytes`, none for each ill-formed run. -/
def scan (bytes : Bytes) : List (Option Char) := scanUpTo bytes.length bytes

/-- The text of well-formed bytes. -/
def decode? (bytes : Bytes) : Option Text := (scan bytes).mapM id

/-- The text of bytes, with U+FFFD for every ill-formed run. -/
def decodeLossy (bytes : Bytes) : Text := (scan bytes).map fun c => c.getD '\uFFFD'

/-! ## Lemmas -/

theorem encode_append (s t : Text) : encode (s ++ t) = encode s ++ encode t :=
  List.flatMap_append

theorem encode_cons (c : Char) (t : Text) : encode (c :: t) = String.utf8EncodeChar c ++ encode t :=
  List.flatMap_cons

/-- A character in ASCII is its own byte. -/
theorem encode_of_ascii {t : Text} (h : ∀ c ∈ t, c.toNat < 0x80) :
    encode t = t.map fun c => UInt8.ofNat c.toNat := by
  induction t with
  | nil => rfl
  | cons c rest ih =>
    have hc : c.val.toNat ≤ 127 := Nat.le_of_lt_succ (h c List.mem_cons_self)
    rw [encode_cons, ih fun x hx => h x (List.mem_cons_of_mem _ hx)]
    simp only [String.utf8EncodeChar, hc, if_true, List.map_cons, List.singleton_append, Char.toNat]

end SignedAccess.Utf8
