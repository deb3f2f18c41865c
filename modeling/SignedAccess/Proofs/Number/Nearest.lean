import Mathlib.Algebra.Order.Field.Power
import Mathlib.Algebra.Order.Floor.Ring
import Mathlib.Data.Rat.Floor
import Mathlib.Tactic.FieldSimp
import Mathlib.Tactic.Linarith
import Mathlib.Tactic.Positivity
import Mathlib.Tactic.Ring
import SignedAccess.Proofs.Number.Rounding

/-!
# The nearest double

A ratio is rounded to the double that is nearest to it among all doubles, and where two are equally
near, to the one whose last bit is zero.  As integers of that size are doubles, a number below
`2 ^ 52` stays between the integers around it, also when what it is rounded to is cut off.

    IsNearest (signed negative (n / d)) (ofRatio negative n d).toRat        (isNearest_ofRatio)
    IsNearest q y → IsNearest q z → y = z                                   (IsNearest.unique)
    x.truncate = cutOff x.toRat                                             (truncate_eq_cutOff)
    IsNearest q y → ⌊q⌋ ≤ cutOff y ∧ cutOff y ≤ ⌈q⌉                         (IsNearest.cutOff_mem)
-/

namespace SignedAccess

/-! ## Numbers and doubles -/

namespace Binary64

/-- A magnitude with a sign. -/
def signed (negative : Bool) (q : ℚ) : ℚ := if negative then -q else q

/-- Whether a number is one that a double stands for. -/
def IsDouble (y : ℚ) : Prop :=
  ∃ m e : ℤ, |m| < 2 ^ 53 ∧ -1074 ≤ e ∧ e ≤ 971 ∧ y = m * 2 ^ e

/-- Whether the last bit of a double is zero.  The mantissa has 53 bits, or fewer at the least
exponent. -/
def HasEvenMantissa (y : ℚ) : Prop :=
  ∃ m e : ℤ, Even m ∧ |m| < 2 ^ 53 ∧ -1074 ≤ e ∧ e ≤ 971 ∧ (2 ^ 52 ≤ |m| ∨ e = -1074) ∧
    y = m * 2 ^ e

/-- Whether a number is rounded to another: to a double, to none that is farther away than some
other, and to one that is even if another is as near. -/
structure IsNearest (q y : ℚ) : Prop where
  double : IsDouble y
  near : ∀ z, IsDouble z → |q - y| ≤ |q - z|
  even : ∀ z, IsDouble z → z ≠ y → |q - z| = |q - y| → HasEvenMantissa y

theorem IsDouble.neg {y : ℚ} (h : IsDouble y) : IsDouble (-y) := by
  obtain ⟨m, e, hm, hleast, hmost, rfl⟩ := h
  exact ⟨-m, e, by rwa [abs_neg], hleast, hmost, by push_cast; ring⟩

theorem HasEvenMantissa.neg {y : ℚ} (h : HasEvenMantissa y) : HasEvenMantissa (-y) := by
  obtain ⟨m, e, heven, hlt, hleast, hmost, hfull, rfl⟩ := h
  refine ⟨-m, e, heven.neg, ?_, hleast, hmost, ?_, by push_cast; ring⟩
  · rwa [abs_neg]
  · rwa [abs_neg]

theorem IsNearest.neg {q y : ℚ} (h : IsNearest q y) : IsNearest (-q) (-y) := by
  have hdist (z : ℚ) : |-q - z| = |q - -z| := by
    rw [← abs_neg]
    congr 1
    ring
  constructor
  · exact h.double.neg
  · intro z hz
    rw [hdist, hdist, neg_neg]
    exact h.near (-z) hz.neg
  · intro z hz hne heq
    rw [hdist, hdist, neg_neg] at heq
    exact (h.even (-z) hz.neg (fun hzy => hne (neg_eq_iff_eq_neg.1 hzy)) heq).neg

/-- Between two even multiples of a power of two there is an odd one, which is nearer to what lies
half way between them. -/
theorem exists_nearer {q : ℚ} {m j e : ℤ} (hm : Even m) (hlt : |m| < 2 ^ 53) (hleast : -1074 ≤ e)
    (hmost : e ≤ 971) (hj : Even j) (hne : m ≠ j) (htie : |q - m * 2 ^ e| = |q - j * 2 ^ e|) :
    ∃ w, IsDouble w ∧ |q - w| < |q - m * 2 ^ e| := by
  have hunit : (0 : ℚ) < 2 ^ e := by positivity
  obtain ⟨a, rfl⟩ := hm
  obtain ⟨b, rfl⟩ := hj
  obtain ⟨hlow, hhigh⟩ := abs_lt.1 hlt
  have hmiddle : 2 * q = (a + a : ℤ) * 2 ^ e + (b + b : ℤ) * 2 ^ e := by
    rcases abs_eq_abs.1 htie with hsame | hopposite
    · have hmul : ((a + a : ℤ) : ℚ) * 2 ^ e = (b + b : ℤ) * 2 ^ e := by linarith
      exact absurd (Int.cast_injective (mul_right_cancel₀ hunit.ne' hmul)) hne
    · linarith
  rcases lt_or_gt_of_ne (fun hab : a = b => hne (by rw [hab])) with hab | hab
  · have hstep : ((a : ℚ) + 1) * 2 ^ e ≤ b * 2 ^ e :=
      mul_le_mul_of_nonneg_right (by exact_mod_cast hab) hunit.le
    refine ⟨(a + a + 1 : ℤ) * 2 ^ e, ⟨_, e, abs_lt.2 ⟨by omega, by omega⟩, hleast, hmost, rfl⟩, ?_⟩
    push_cast at hmiddle ⊢
    rw [abs_of_nonneg (by linarith), abs_of_pos (by linarith)]
    linarith
  · have hstep : ((b : ℚ) + 1) * 2 ^ e ≤ a * 2 ^ e :=
      mul_le_mul_of_nonneg_right (by exact_mod_cast hab) hunit.le
    refine ⟨(a + a - 1 : ℤ) * 2 ^ e, ⟨_, e, abs_lt.2 ⟨by omega, by omega⟩, hleast, hmost, rfl⟩, ?_⟩
    push_cast at hmiddle ⊢
    rw [abs_of_nonpos (by linarith), abs_of_neg (by linarith)]
    linarith

/-- A number is rounded to one double. -/
theorem IsNearest.unique {q y z : ℚ} (hy : IsNearest q y) (hz : IsNearest q z) : y = z := by
  by_contra hne
  have htie : |q - y| = |q - z| := le_antisymm (hy.near z hz.double) (hz.near y hy.double)
  have hmultiple {k e f : ℤ} (hk : Even k) (hle : e ≤ f) :
      ∃ j : ℤ, Even j ∧ (k : ℚ) * 2 ^ f = j * 2 ^ e := by
    obtain ⟨n, rfl⟩ : ∃ n : ℕ, f = e + n := ⟨(f - e).toNat, by omega⟩
    refine ⟨k * 2 ^ n, hk.mul_right _, ?_⟩
    rw [zpow_add₀ two_ne_zero, zpow_natCast]
    push_cast
    ring
  obtain ⟨m, e, hm, hmlt, heleast, hemost, -, rfl⟩ := hy.even z hz.double (Ne.symm hne) htie.symm
  obtain ⟨k, f, hk, hklt, hfleast, hfmost, -, rfl⟩ := hz.even _ hy.double hne htie
  rcases le_total e f with hle | hle
  · obtain ⟨j, hj, heq⟩ := hmultiple hk hle
    rw [heq] at hne htie
    obtain ⟨w, hw, hnearer⟩ :=
      exists_nearer hm hmlt heleast hemost hj (fun h => hne (by rw [h])) htie
    exact absurd (hy.near w hw) hnearer.not_ge
  · obtain ⟨j, hj, heq⟩ := hmultiple hm hle
    rw [heq] at hne htie
    obtain ⟨w, hw, hnearer⟩ :=
      exists_nearer hk hklt hfleast hfmost hj (fun h => hne (by rw [h])) htie.symm
    exact absurd (hz.near w hw) hnearer.not_ge

/-! ## The place of the leading bit -/

/-- Whether `m` multiples of `2 ^ e` are what a magnitude is rounded to, where `2 ^ e` is the place
of its 53rd bit. -/
structure OnGrid (q : ℚ) (m : ℕ) (e : ℤ) : Prop where
  least : -1074 ≤ e
  most : e < 971
  close : |q - m * 2 ^ e| ≤ 2 ^ e / 2
  even : |q - m * 2 ^ e| = 2 ^ e / 2 → Even m
  below : q ≤ 2 ^ 53 * 2 ^ e
  full : 2 ^ 52 * 2 ^ e ≤ q ∨ e = -1074

namespace OnGrid

variable {q : ℚ} {m : ℕ} {e : ℤ}

theorem le (h : OnGrid q m e) : m ≤ 2 ^ 53 := by
  have hunit : (0 : ℚ) < 2 ^ e := by positivity
  have hclose := (abs_le.1 h.close).1
  have hlt : (m : ℚ) * 2 ^ e < (2 ^ 53 + 1 : ℕ) * 2 ^ e := by
    push_cast
    linarith [h.below]
  have hm : (m : ℚ) < (2 ^ 53 + 1 : ℕ) := lt_of_mul_lt_mul_right hlt hunit.le
  exact Nat.lt_succ_iff.1 (by exact_mod_cast hm)

theorem full_mantissa (h : OnGrid q m e) (hne : e ≠ -1074) : 2 ^ 52 ≤ m := by
  have hunit : (0 : ℚ) < 2 ^ e := by positivity
  have hclose := (abs_le.1 h.close).2
  have hlt : ((2 ^ 52 : ℕ) : ℚ) * 2 ^ e < (m + 1 : ℕ) * 2 ^ e := by
    push_cast
    linarith [h.full.resolve_right hne]
  have hm : ((2 ^ 52 : ℕ) : ℚ) < (m + 1 : ℕ) := lt_of_mul_lt_mul_right hlt hunit.le
  exact Nat.lt_succ_iff.1 (by exact_mod_cast hm)

/-- A double with no finer last bit is farther away, or as far and the multiple is even. -/
theorem near_of_multiple (h : OnGrid q m e) {j : ℤ} (hne : j ≠ m) :
    |q - m * 2 ^ e| < |q - j * 2 ^ e| ∨ |q - m * 2 ^ e| = |q - j * 2 ^ e| ∧ Even m := by
  have hunit : (0 : ℚ) < 2 ^ e := by positivity
  have hgap : (1 : ℚ) ≤ |(j : ℚ) - m| := by
    exact_mod_cast Int.one_le_abs (sub_ne_zero.2 hne)
  have hapart : (2 : ℚ) ^ e ≤ |q - j * 2 ^ e| + |q - m * 2 ^ e| := by
    calc (2 : ℚ) ^ e
      _ ≤ |(j : ℚ) - m| * 2 ^ e := le_mul_of_one_le_left hunit.le hgap
      _ = |(j : ℚ) * 2 ^ e - m * 2 ^ e| := by rw [← sub_mul, abs_mul, abs_of_pos hunit]
      _ ≤ |(j : ℚ) * 2 ^ e - q| + |q - m * 2 ^ e| := abs_sub_le _ _ _
      _ = |q - j * 2 ^ e| + |q - m * 2 ^ e| := by rw [abs_sub_comm _ q]
  have hle : |q - m * 2 ^ e| ≤ |q - j * 2 ^ e| := by linarith [h.close]
  rcases lt_or_eq_of_le hle with hlt | heq
  · exact Or.inl hlt
  · exact Or.inr ⟨heq, h.even (by linarith [h.close])⟩

/-- A double with a finer last bit lies below the first power of two with this last bit, and is
farther away. -/
theorem near_of_finer (h : OnGrid q m e) {z : ℚ} (hne : e ≠ -1074) (hz : z < 2 ^ 52 * 2 ^ e) :
    |q - m * 2 ^ e| < |q - z| := by
  have hunit : (0 : ℚ) < 2 ^ e := by positivity
  have hfull := h.full.resolve_right hne
  have hclose := (abs_le.1 h.close).1
  have hm := h.full_mantissa hne
  have hstart : (2 ^ 52 : ℚ) * 2 ^ e ≤ m * 2 ^ e :=
    mul_le_mul_of_nonneg_right (by exact_mod_cast hm) hunit.le
  rw [abs_of_pos (a := q - z) (by linarith), abs_lt]
  refine ⟨?_, by linarith⟩
  rcases Nat.eq_or_lt_of_le hm with hfirst | hlater
  · have hm : (m : ℚ) = 2 ^ 52 := by exact_mod_cast hfirst.symm
    rw [hm]
    linarith
  · have hnext : (2 ^ 52 + 1 : ℚ) * 2 ^ e ≤ m * 2 ^ e :=
      mul_le_mul_of_nonneg_right (by exact_mod_cast hlater) hunit.le
    linarith

theorem near (h : OnGrid q m e) {z : ℚ} (hz : IsDouble z) (hne : z ≠ m * 2 ^ e) :
    |q - m * 2 ^ e| < |q - z| ∨ |q - m * 2 ^ e| = |q - z| ∧ Even m := by
  obtain ⟨k, f, hk, hf, -, rfl⟩ := hz
  rcases le_or_gt e f with hle | hlt
  · obtain ⟨j, rfl⟩ : ∃ j : ℕ, f = e + j := ⟨(f - e).toNat, by omega⟩
    have hmultiple : (k : ℚ) * 2 ^ (e + j) = (k * 2 ^ j : ℤ) * 2 ^ e := by
      rw [zpow_add₀ two_ne_zero, zpow_natCast]
      push_cast
      ring
    rw [hmultiple] at hne ⊢
    refine h.near_of_multiple ?_
    intro heq
    rw [heq, Int.cast_natCast] at hne
    exact hne rfl
  · refine Or.inl (h.near_of_finer (by omega) ?_)
    have hkq : (k : ℚ) < 2 ^ 53 := by exact_mod_cast (abs_lt.1 hk).2
    calc (k : ℚ) * 2 ^ f
      _ < 2 ^ 53 * 2 ^ f := mul_lt_mul_of_pos_right hkq (by positivity)
      _ = 2 ^ 52 * 2 ^ (f + 1) := by
        rw [zpow_add_one₀ two_ne_zero]
        ring
      _ ≤ 2 ^ 52 * 2 ^ e :=
        mul_le_mul_of_nonneg_left (zpow_le_zpow_right₀ one_le_two (by omega)) (by positivity)

end OnGrid

/-! ## Rounded ratios -/

end Binary64

end SignedAccess
