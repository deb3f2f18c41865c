import SignedAccess.Number.Decimal

/-!
# Decimal texts read back

A number is determined by its decimal text, with or without zeros in front.
-/

namespace SignedAccess.Decimal

theorem value_eq_ofDigitChars (t : Text) : value t = Nat.ofDigitChars 10 t 0 := rfl

theorem value_ofNat (n : Nat) : value (ofNat n) = n := Nat.ofDigitChars_ten_toDigits

/-- Zeros in front do not count. -/
theorem value_padZeros (width : Nat) (t : Text) : value (Text.padZeros width t) = value t := by
  simp only [value_eq_ofDigitChars, Text.padZeros, List.leftpad, Nat.ofDigitChars_append,
    Nat.ofDigitChars_replicate_zero, Nat.mul_zero]

theorem isDigit_of_mem_ofNat {n : Nat} {c : Char} (h : c ∈ ofNat n) : c.isDigit = true :=
  Nat.isDigit_of_mem_toDigits (by decide) (by decide) h

theorem isDigit_of_mem_padZeros {width n : Nat} {c : Char}
    (h : c ∈ Text.padZeros width (ofNat n)) : c.isDigit = true := by
  rw [Text.padZeros, List.leftpad, List.mem_append] at h
  rcases h with h | h
  · rw [(List.mem_replicate.1 h).2]
    rfl
  · exact isDigit_of_mem_ofNat h

theorem ofNat_injective {m n : Nat} (h : ofNat m = ofNat n) : m = n := by
  rw [← value_ofNat m, h, value_ofNat]

theorem ofInt_injective {i j : Int} (h : ofInt i = ofInt j) : i = j := by
  have minus {m n : Nat} (h : ofNat m = '-' :: ofNat n) : False := by
    have hd := isDigit_of_mem_ofNat (n := m) (by rw [h]; exact List.mem_cons_self)
    revert hd
    decide
  match i, j, h with
  | .ofNat m, .ofNat n, h => rw [ofNat_injective h]
  | .negSucc m, .negSucc n, h =>
    have e := ofNat_injective (List.cons.inj h).2
    rw [show m = n by omega]
  | .ofNat m, .negSucc n, h => exact (minus h).elim
  | .negSucc m, .ofNat n, h => exact (minus h.symm).elim

end SignedAccess.Decimal
