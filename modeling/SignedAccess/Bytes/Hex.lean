import SignedAccess.Text

/-!
# Hexadecimal text

Main definitions:

* `encode` — two lower-case digits for each byte;
* `decode?` — the bytes of an even number of digits in either case.
-/

namespace SignedAccess.Hex

/-- The value of a hexadecimal digit in either case. -/
def digit? (c : Char) : Option Nat :=
  if '0' ≤ c ∧ c ≤ '9' then some (c.toNat - '0'.toNat)
  else if 'a' ≤ c ∧ c ≤ 'f' then some (c.toNat - 'a'.toNat + 10)
  else if 'A' ≤ c ∧ c ≤ 'F' then some (c.toNat - 'A'.toNat + 10)
  else none

/-- The two digits of a byte. -/
def encodeByte (b : UInt8) : Text := [Nat.digitChar (b.toNat / 16), Nat.digitChar (b.toNat % 16)]

/-- Two lower-case digits for each byte. -/
def encode (bytes : Bytes) : Text := bytes.flatMap encodeByte

/-- The bytes that pairs of digits stand for. -/
def decode? : Text → Option Bytes
  | [] => some []
  | h :: l :: rest => do
    let high ← digit? h
    let low ← digit? l
    return UInt8.ofNat (high * 16 + low) :: (← decode? rest)
  | [_] => none

/-! ## Lemmas -/

theorem encode_length (bytes : Bytes) : (encode bytes).length = 2 * bytes.length := by
  induction bytes with
  | nil => rfl
  | cons b rest ih =>
    have e : encode (b :: rest) = encodeByte b ++ encode rest := List.flatMap_cons
    rw [e, List.length_append, ih]
    simp [encodeByte]
    omega

theorem decode?_encodeByte :
    ∀ n, n < 256 → decode? (encodeByte (UInt8.ofNat n)) = some [UInt8.ofNat n] := by
  decide +kernel

/-- Bytes read back from their digits. -/
theorem decode?_encode (bytes : Bytes) : decode? (encode bytes) = some bytes := by
  induction bytes with
  | nil => rfl
  | cons b rest ih =>
    have hb := decode?_encodeByte b.toNat b.toNat_lt
    rw [UInt8.ofNat_toNat] at hb
    have e : encode (b :: rest) = encodeByte b ++ encode rest := List.flatMap_cons
    rw [e]
    simp only [encodeByte, List.cons_append, List.nil_append] at hb ⊢
    cases hh : digit? (Nat.digitChar (b.toNat / 16)) with
    | none => simp [decode?, hh] at hb
    | some high =>
      cases hl : digit? (Nat.digitChar (b.toNat % 16)) with
      | none => simp [decode?, hh, hl] at hb
      | some low =>
        simp only [decode?, hh, hl, ih, Option.pure_def, Option.bind_eq_bind, Option.bind_some,
          Option.some.injEq, List.cons.injEq, and_true] at hb ⊢
        exact hb

end SignedAccess.Hex
