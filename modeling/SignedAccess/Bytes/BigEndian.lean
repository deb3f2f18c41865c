import SignedAccess.Text

/-!
# Numbers as bytes

Main definitions:

* `BigEndian.value` — the number of bytes, the greatest first;
* `BigEndian.encode` — a number in a fixed count of bytes.

Main statement: `value_encode`, a number that fits is read back from its bytes.
-/

namespace SignedAccess.BigEndian

/-- The number that bytes stand for, the greatest first. -/
def value (bytes : Bytes) : Nat := bytes.foldl (fun n b => n * 256 + b.toNat) 0

/-- `n` in `width` bytes, the greatest first. -/
def encode : (width n : Nat) → Bytes
  | 0, _ => []
  | width + 1, n => encode width (n / 256) ++ [UInt8.ofNat n]

/-- How many bytes a number needs. -/
def width (n : Nat) : Nat := if n = 0 then 0 else n.log2 / 8 + 1

/-! ## Lemmas -/

theorem encode_length (width n : Nat) : (encode width n).length = width := by
  induction width generalizing n with
  | zero => rfl
  | succ width ih => simp [encode, ih]

theorem value_append_singleton (bytes : Bytes) (b : UInt8) :
    value (bytes ++ [b]) = value bytes * 256 + b.toNat := by
  simp [value]

/-- A number that fits into `width` bytes is read back from them. -/
theorem value_encode (width n : Nat) (h : n < Nat.pow 256 width) : value (encode width n) = n := by
  induction width generalizing n with
  | zero => simp at h; subst h; rfl
  | succ width ih =>
    have hn : n / 256 < Nat.pow 256 width := by
      rw [Nat.pow_eq, Nat.pow_succ, Nat.mul_comm] at h
      exact Nat.div_lt_of_lt_mul h
    rw [encode, value_append_singleton, ih _ hn, UInt8.toNat_ofNat']
    omega

end SignedAccess.BigEndian
