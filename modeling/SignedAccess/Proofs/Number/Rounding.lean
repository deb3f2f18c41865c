import Mathlib.Algebra.Group.Nat.Even
import SignedAccess.Number.Binary64

/-!
# Quotients cut off after rounding

A quotient is rounded to 53 significant bits before its fraction is cut off.  Rounding leads to the
next integer only from closer below it than half of the last bit, and a quotient with a small
denominator does not come that close.  Whatever the quotient, what is left has at most 1025 bits.

    n < d · 2 ^ b → d < 2 ^ (54 - b) → (ofRatio false n d).truncate = n / d   (truncate_ofRatio)
    ∃ k ≤ 1024, (ofRatio negative n d).truncate.natAbs ≤ 2 ^ k   (exists_natAbs_truncate_ofRatio_le)
-/

namespace SignedAccess

/-! ## Rounding to natural numbers -/

theorem div_le_roundDiv (num den : Nat) : num / den ≤ roundDiv num den := by
  unfold roundDiv
  extract_lets q r
  split
  · exact Nat.le_refl q
  · split
    · exact Nat.le_succ q
    · exact Nat.le_add_right q (q % 2)

/-- A rounded quotient exceeds the exact one by a half at most. -/
theorem roundDiv_mul_le (num den : Nat) : 2 * (den * roundDiv num den) ≤ 2 * num + den := by
  unfold roundDiv
  extract_lets q r
  have hnum : den * q + r = num := Nat.div_add_mod num den
  have hnext : den * (q + 1) = den * q + den := Nat.mul_succ den q
  split
  · omega
  · split
    · omega
    · have hmul : den * (q + q % 2) ≤ den * (q + 1) := Nat.mul_le_mul_left den (by omega)
      omega

theorem roundDiv_le {num den k : Nat} (hpos : 0 < den) (h : num ≤ den * k) :
    roundDiv num den ≤ k := by
  have hround := roundDiv_mul_le num den
  have hlt : den * roundDiv num den < den * (k + 1) := by
    rw [Nat.mul_succ]
    omega
  exact Nat.le_of_lt_succ (Nat.lt_of_mul_lt_mul_left hlt)

/-- Rounding behind the `k`-th bit of a fraction leaves the integer part alone if the denominator
has no more than `k + 1` bits. -/
theorem roundDiv_mul_pow_div {n d k : Nat} (hpos : 0 < d) (hd : d < 2 ^ (k + 1)) :
    roundDiv (n * 2 ^ k) d / 2 ^ k = n / d := by
  have hlow : n / d * 2 ^ k ≤ roundDiv (n * 2 ^ k) d := by
    refine Nat.le_trans ?_ (div_le_roundDiv _ _)
    rw [Nat.mul_comm, Nat.mul_comm n]
    exact Nat.mul_div_le_mul_div_assoc _ _ _
  have hhigh : roundDiv (n * 2 ^ k) d < (n / d + 1) * 2 ^ k := by
    have hhalf : 2 * (d * roundDiv (n * 2 ^ k) d) ≤ 2 * (n * 2 ^ k) + d := roundDiv_mul_le _ _
    have hnext : (n + 1) * 2 ^ k ≤ d * (n / d + 1) * 2 ^ k :=
      Nat.mul_le_mul_right _ (Nat.lt_mul_div_succ n hpos)
    rw [Nat.mul_assoc, Nat.succ_mul] at hnext
    rw [Nat.pow_succ] at hd
    exact Nat.lt_of_mul_lt_mul_left (a := d) (by omega)
  exact Nat.div_eq_of_lt_le hlow hhigh

namespace Binary64

/-! ## Rounding to 53 bits -/

/-- The leading bit of a quotient below `2 ^ b` stands below the place `b`. -/
theorem leadingBit_lt {n d b : Nat} (hne : n ≠ 0) (h : n < d * 2 ^ b) : leadingBit n d < b := by
  have hpow {e : Int} (he : atLeastPow n d e = true) : e < b := by
    cases e with
    | ofNat e =>
      have hle : d * 2 ^ e ≤ n := of_decide_eq_true he
      have hlt : 2 ^ e < 2 ^ b := Nat.lt_of_mul_lt_mul_left (Nat.lt_of_le_of_lt hle h)
      exact Int.ofNat_lt.2 ((Nat.pow_lt_pow_iff_right (by decide)).1 hlt)
    | negSucc e => exact Int.lt_of_lt_of_le (Int.negSucc_lt_zero e) (Int.natCast_nonneg b)
  unfold leadingBit
  extract_lets e
  split
  · next he => exact hpow he
  · have hn : n < 2 ^ (d.log2 + 1 + b) := by
      rw [Nat.pow_add]
      exact Nat.lt_of_lt_of_le h (Nat.mul_le_mul_right _ (Nat.le_of_lt Nat.lt_log2_self))
    have hlog : n.log2 < d.log2 + 1 + b := (Nat.log2_lt hne).2 hn
    omega

/-- A quotient below `2 ^ b` whose denominator has at most `54 - b` bits is cut off as if it had not
been rounded. -/
theorem truncate_ofRatio {n d b : Nat} (hb : b ≤ 52) (hpos : 0 < d) (hn : n < d * 2 ^ b)
    (hd : d < 2 ^ (54 - b)) : (ofRatio false n d).truncate = (n / d : Nat) := by
  unfold ofRatio
  split
  · next hzero =>
    rw [hzero, Nat.zero_div]
    rfl
  · next hne =>
    extract_lets e m
    have hlead : leadingBit n d < b := leadingBit_lt hne hn
    -- the last bit that is kept stands so far behind the point
    obtain ⟨k, hk, hkb⟩ : ∃ k : Nat, e = Int.negSucc k ∧ 54 - b ≤ k + 2 :=
      ⟨(-e - 1).toNat, by omega, by omega⟩
    have hneg : e < 0 := by omega
    have hround : m = roundDiv (n * 2 ^ (k + 1)) d := by
      show scaled n d (-e) = _
      rw [hk]
      rfl
    have hbits : d < 2 ^ (k + 1 + 1) :=
      Nat.lt_of_lt_of_le hd (Nat.pow_le_pow_right (by decide) hkb)
    rw [if_neg (by omega), hk, hround]
    exact congrArg Int.ofNat (roundDiv_mul_pow_div hpos hbits)

/-! ## Size -/

/-- A quotient, shifted by some places, lies below the power of two behind its leading bit. -/
theorem mul_pow_lt_of_leadingBit {n d a b : Nat} (hd : d ≠ 0)
    (h : leadingBit n d + 1 + a ≤ b) : n * 2 ^ a < d * 2 ^ b := by
  unfold leadingBit at h
  extract_lets e at h
  by_cases hat : atLeastPow n d e = true
  · rw [if_pos hat] at h
    calc n * 2 ^ a
      _ < 2 ^ (n.log2 + 1) * 2 ^ a :=
        Nat.mul_lt_mul_of_pos_right Nat.lt_log2_self (Nat.two_pow_pos a)
      _ = 2 ^ (n.log2 + 1 + a) := (Nat.pow_add 2 _ _).symm
      _ ≤ 2 ^ (d.log2 + b) := Nat.pow_le_pow_right (by decide) (by omega)
      _ = 2 ^ d.log2 * 2 ^ b := Nat.pow_add 2 _ _
      _ ≤ d * 2 ^ b := Nat.mul_le_mul_right _ (Nat.log2_self_le hd)
  · rw [if_neg hat] at h
    cases he : e with
    | ofNat k =>
      rw [he] at hat h
      have hlt : n < d * 2 ^ k := by simpa [atLeastPow] using hat
      have hk : (Int.ofNat k : Int) = k := rfl
      calc n * 2 ^ a
        _ < d * 2 ^ k * 2 ^ a := Nat.mul_lt_mul_of_pos_right hlt (Nat.two_pow_pos a)
        _ = d * 2 ^ (k + a) := by rw [Nat.mul_assoc, Nat.pow_add]
        _ ≤ d * 2 ^ b := Nat.mul_le_mul_left d (Nat.pow_le_pow_right (by decide) (by omega))
    | negSucc k =>
      rw [he] at hat h
      have hlt : n * 2 ^ (k + 1) < d := by simpa [atLeastPow] using hat
      have hk : (Int.negSucc k : Int) = -(k + 1) := Int.negSucc_eq k
      calc n * 2 ^ a
        _ ≤ n * 2 ^ (k + 1 + b) :=
          Nat.mul_le_mul_left n (Nat.pow_le_pow_right (by decide) (by omega))
        _ = n * 2 ^ (k + 1) * 2 ^ b := by rw [Nat.mul_assoc, Nat.pow_add]
        _ < d * 2 ^ b := Nat.mul_lt_mul_of_pos_right hlt (Nat.two_pow_pos b)

/-- Rounding keeps 53 bits. -/
theorem scaled_le {n d : Nat} {e : Int} (hd : d ≠ 0) (h : leadingBit n d + e ≤ 52) :
    scaled n d e ≤ 2 ^ 53 := by
  have hpos : 0 < d := Nat.pos_of_ne_zero hd
  cases e with
  | ofNat k =>
    have hlt := @mul_pow_lt_of_leadingBit n d k 53 hd (by rw [Int.ofNat_eq_natCast] at h; omega)
    exact roundDiv_le hpos (Nat.le_of_lt hlt)
  | negSucc k =>
    have hlt := @mul_pow_lt_of_leadingBit n d 0 (k + 1 + 53) hd (by
      rw [Int.negSucc_eq] at h
      omega)
    refine roundDiv_le (Nat.mul_pos hpos (Nat.two_pow_pos _)) ?_
    rw [Nat.mul_assoc, show Nat.pow 2 (k + 1) = 2 ^ (k + 1) from rfl, ← Nat.pow_add]
    simpa using Nat.le_of_lt hlt

/-- The integer part of a double is no greater than the 1024th power of two. -/
theorem exists_natAbs_truncate_ofRatio_le (negative : Bool) (n : Nat) {d : Nat} (hd : d ≠ 0) :
    ∃ k ≤ 1024, (ofRatio negative n d).truncate.natAbs ≤ 2 ^ k := by
  have hsign (m : Nat) (e : Int) :
      (Binary64.finite negative m e).truncate.natAbs = wholePart m e := by
    cases negative with
    | true => exact (Int.natAbs_neg _).trans (Int.natAbs_natCast _)
    | false => exact Int.natAbs_natCast _
  unfold ofRatio
  split
  · refine ⟨0, by decide, ?_⟩
    rw [hsign]
    exact Nat.zero_le _
  · extract_lets e m
    split
    · exact ⟨0, by decide, Nat.zero_le _⟩
    · next hfinite =>
      have hm : m ≤ 2 ^ 53 := scaled_le hd (by omega)
      rw [hsign]
      cases he : e with
      | ofNat k =>
        rw [he, Int.ofNat_eq_natCast] at hfinite
        refine ⟨53 + k, by omega, ?_⟩
        rw [Nat.pow_add]
        exact Nat.mul_le_mul_right (2 ^ k) hm
      | negSucc k => exact ⟨53, by decide, Nat.le_trans (Nat.div_le_self _ _) hm⟩

end Binary64

end SignedAccess
