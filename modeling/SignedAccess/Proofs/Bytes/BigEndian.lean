import Mathlib.Data.List.Induction
import Mathlib.Data.Nat.Size
import Mathlib.Tactic.Ring
import SignedAccess.Bytes.BigEndian

/-!
# The range of numbers as bytes

Bytes stand for a number below the power of 256 that belongs to their count, and a number needs as
many bytes as its bits fill.

    value bytes < 256 ^ bytes.length                                 (value_lt)
    width n = (Nat.size n + 7) / 8                                   (width_eq)
-/

namespace SignedAccess.BigEndian

/-! ## Values -/

theorem value_append (a b : Bytes) : value (a ++ b) = value a * 256 ^ b.length + value b := by
  induction b using List.reverseRecOn with
  | nil => simp [value]
  | append_singleton b x ih =>
    rw [← List.append_assoc, value_append_singleton, value_append_singleton, ih,
      List.length_append, List.length_singleton, pow_succ]
    ring

theorem value_cons (x : UInt8) (bytes : Bytes) :
    value (x :: bytes) = x.toNat * 256 ^ bytes.length + value bytes := by
  have hone : value [x] = x.toNat := by simp [value]
  rw [← List.singleton_append, value_append, hone]

theorem value_lt (bytes : Bytes) : value bytes < 256 ^ bytes.length := by
  induction bytes with
  | nil => simp [value]
  | cons x bytes ih =>
    have hx : x.toNat < 256 := x.toNat_lt
    calc value (x :: bytes) = x.toNat * 256 ^ bytes.length + value bytes := value_cons x bytes
      _ < (x.toNat + 1) * 256 ^ bytes.length := by rw [Nat.add_mul, Nat.one_mul]; omega
      _ ≤ 256 * 256 ^ bytes.length := Nat.mul_le_mul_right _ (by omega)
      _ = 256 ^ (x :: bytes).length := by rw [List.length_cons, pow_succ, Nat.mul_comm]

/-! ## Widths -/

theorem size_eq_log2_succ {n : Nat} (h : n ≠ 0) : Nat.size n = n.log2 + 1 := by
  apply Nat.le_antisymm
  · exact Nat.size_le.2 Nat.lt_log2_self
  · exact Nat.lt_size.2 (Nat.log2_self_le h)

/-- A number needs as many bytes as its bits fill. -/
theorem width_eq (n : Nat) : width n = (Nat.size n + 7) / 8 := by
  unfold width
  split
  · next hzero =>
    rw [hzero]
    rfl
  · next hne =>
    rw [size_eq_log2_succ hne]
    omega

theorem pow_eight_mul (k : Nat) : 2 ^ (8 * k) = 256 ^ k := by
  rw [pow_mul]
  rfl

theorem lt_pow_width (n : Nat) : n < 256 ^ width n := by
  rw [← pow_eight_mul, width_eq]
  exact Nat.size_le.1 (by omega)

theorem pow_pred_width_le {n : Nat} (h : n ≠ 0) : 256 ^ (width n - 1) ≤ n := by
  have hpos : 0 < Nat.size n := Nat.size_pos.2 (Nat.pos_of_ne_zero h)
  rw [← pow_eight_mul, width_eq]
  exact Nat.lt_size.1 (by omega)

end SignedAccess.BigEndian
