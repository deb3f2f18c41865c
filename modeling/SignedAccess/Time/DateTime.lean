import SignedAccess.Number.Binary64
import SignedAccess.Number.Decimal
import SignedAccess.Time.Calendar

/-!
# Date and time

A reading of a wall clock to the microsecond, within the years 1 to 9999, with or without an
offset from UTC.  A reading without an offset counts as one in UTC wherever an instant is needed, as
it does on a machine whose own zone is UTC.

A clock with an offset may keep it, or change it as the clock of a time zone does.  What is added to
a reading is added to what the clock shows, whatever becomes of the offset.

Main definitions:

* `DateTime` — the reading of a clock;
* `DateTime.utc?` — the same instant as a reading in UTC, if that has a year between 1 and 9999;
* `Clock`, `Moment` — the offsets of a clock, and a reading with the clock that shows it;
* `Moment.shift?` — the reading so much later on the same clock;
* `DateTime.shift?` — that reading if the clock keeps its offset;
* `wholeSeconds` — microseconds as seconds in double precision, cut off toward zero;
* `DateTime.iso`, `DateTime.stamp`, `DateTime.dayStamp` — texts of a reading.
-/

namespace SignedAccess

/-- Why an instant cannot be computed. -/
inductive TimeFault where
  /-- It lies outside of the years 1 to 9999. -/
  | outOfRange
  /-- A reading without an offset lies within the first day of the year 1. -/
  | firstDay
  deriving DecidableEq, Repr

def microsPerSecond : Nat := 1000000

def microsPerMinute : Nat := 60 * microsPerSecond

def microsPerDay : Nat := 86400 * microsPerSecond

/-- The microseconds of the years 1 to 9999. -/
def clockSpan : Nat := 3652059 * microsPerDay

/-- The reading of a clock. -/
structure DateTime where
  /-- Microseconds of the wall clock since the first midnight of the year 1. -/
  wall : Nat
  /-- Microseconds by which the clock is ahead of UTC. -/
  offset : Option Int
  wall_lt : wall < clockSpan
  deriving DecidableEq

/-! ## Clocks -/

/-- The offset of a clock by what it shows; none for a clock without offsets. -/
abbrev Clock := Option (Nat → Int)

namespace Clock

/-- A clock that keeps its offset. -/
def steady (offset : Option Int) : Clock := offset.map fun o _ => o

/-- The offset at a time that the clock shows. -/
def offsetAt (clock : Clock) (wall : Nat) : Option Int := clock.map fun offsetOf => offsetOf wall

@[simp] theorem offsetAt_steady (offset : Option Int) (wall : Nat) :
    (steady offset).offsetAt wall = offset := by
  cases offset with
  | none => rfl
  | some o => rfl

end Clock

/-- A reading with the clock that shows it.  Where the clock shows one time twice, the reading may
have either of the two offsets. -/
structure Moment where
  reading : DateTime
  clock : Clock
  isSome_clock : clock.isSome = reading.offset.isSome

/-- The reading `micros` later on the same clock, or earlier if negative. -/
def Moment.shift? (m : Moment) (micros : Int) : Option DateTime :=
  let wall := (m.reading.wall : Int) + micros
  if h : 0 ≤ wall ∧ wall < clockSpan then
    some ⟨wall.toNat, m.clock.offsetAt wall.toNat, by omega⟩
  else none

/-- A later reading shows its own time, and the offset that the clock has then. -/
theorem Moment.shift?_wall {m : Moment} {u : DateTime} {d : Int} (h : m.shift? d = some u) :
    (u.wall : Int) = m.reading.wall + d ∧ u.offset = m.clock.offsetAt u.wall := by
  simp only [shift?] at h
  split at h
  · rename_i hw
    cases h
    exact ⟨Int.toNat_of_nonneg hw.1, rfl⟩
  · cases h

namespace DateTime

/-- A reading on a clock that keeps its offset. -/
def steady (t : DateTime) : Moment := ⟨t, Clock.steady t.offset, Option.isSome_map⟩

/-- The reading `micros` later on a clock that keeps its offset, or earlier if negative. -/
def shift? (t : DateTime) (micros : Int) : Option DateTime := t.steady.shift? micros

/-! ## Instants -/

/-- The microseconds that a clock is ahead of UTC, none being zero. -/
def ahead (t : DateTime) : Int := t.offset.getD 0

/-- Microseconds from the first midnight of the year 1 in UTC to the instant of a reading. -/
def micros (t : DateTime) : Int := t.wall - t.ahead

def inUtc (wall : Nat) (h : wall < clockSpan) : DateTime := ⟨wall, some 0, h⟩

/-- The instant as a reading in UTC. -/
def utc? (t : DateTime) : Option DateTime :=
  if h : 0 ≤ t.micros ∧ t.micros < clockSpan then some (inUtc t.micros.toNat (by omega)) else none

/-- The reading without its fraction of a second. -/
def floorSecond (t : DateTime) : DateTime :=
  ⟨t.wall - t.wall % microsPerSecond, t.offset, Nat.lt_of_le_of_lt (Nat.sub_le ..) t.wall_lt⟩

end DateTime

/-- Microseconds as seconds: divided in double precision and cut off toward zero. -/
def wholeSeconds (micros : Int) : Int :=
  (Binary64.ofRatio (decide (micros < 0)) micros.natAbs microsPerSecond).truncate

namespace DateTime

/-- The first midnight of 1970 in microseconds of the clock. -/
def epoch : Nat := 719162 * microsPerDay

/-- Whole seconds since the first midnight of 1970 in UTC.  A reading without an offset is one of
the machine's own zone, which is assumed to be UTC. -/
def timestamp (t : DateTime) : Except TimeFault Int :=
  if t.offset = none ∧ t.wall < microsPerDay then .error .firstDay
  else .ok (wholeSeconds (t.micros - epoch))

/-! ## Texts -/

def date (t : DateTime) : Date := Date.ofDays (t.wall / microsPerDay)

/-- Seconds since midnight. -/
def secondOfDay (t : DateTime) : Nat := t.wall % microsPerDay / microsPerSecond

def two (n : Nat) : Text := Text.padZeros 2 (Decimal.ofNat n)

/-- The time of day to the second. -/
def clockText (t : DateTime) : Text :=
  two (t.secondOfDay / 3600) ++ ':' :: two (t.secondOfDay / 60 % 60)
    ++ ':' :: two (t.secondOfDay % 60)

/-- The month and the day of the month around a separator. -/
def monthDay (sep : Text) (t : DateTime) : Text := two t.date.month ++ sep ++ two t.date.day

/-- Six digits of a fraction of a second that is not zero. -/
def fractionText (micros : Nat) : Text :=
  if micros = 0 then [] else '.' :: Text.padZeros 6 (Decimal.ofNat micros)

/-- An offset from UTC, with seconds if it has any. -/
def offsetText (offset : Int) : Text :=
  let micros := offset.natAbs
  let minutes := micros / microsPerMinute
  let rest := micros % microsPerMinute
  (if offset < 0 then '-' else '+') :: two (minutes / 60) ++ ':' :: two (minutes % 60)
    ++ (if rest = 0 then []
      else ':' :: two (rest / microsPerSecond) ++ fractionText (rest % microsPerSecond))

/-- The reading in ISO 8601. -/
def iso (t : DateTime) : Text :=
  Text.padZeros 4 (Decimal.ofNat t.date.year) ++ '-' :: monthDay ['-'] t ++ 'T' :: clockText t
    ++ fractionText (t.wall % microsPerSecond)
    ++ (match t.offset with
      | some offset => offsetText offset
      | none => [])

/-- The reading to the second, as a stamp in UTC.  The year has no leading zeros. -/
def stamp (t : DateTime) : Text :=
  Decimal.ofNat t.date.year ++ '-' :: monthDay ['-'] t ++ 'T' :: clockText t ++ ['Z']

/-- The day without separators.  The year has no leading zeros. -/
def dayStamp (t : DateTime) : Text := Decimal.ofNat t.date.year ++ monthDay [] t

/-! ## Lemmas -/

theorem shift?_wall {t u : DateTime} {d : Int} (h : t.shift? d = some u) :
    (u.wall : Int) = t.wall + d ∧ u.offset = t.offset := by
  obtain ⟨hwall, hoffset⟩ := Moment.shift?_wall h
  exact ⟨hwall, hoffset.trans (Clock.offsetAt_steady _ _)⟩

/-- A reading in UTC shows its instant. -/
theorem utc?_micros {t u : DateTime} (h : t.utc? = some u) :
    (u.wall : Int) = t.micros ∧ u.offset = some 0 := by
  simp only [utc?] at h
  split at h
  · rename_i hw
    simp only [Option.some.injEq] at h
    subst h
    exact ⟨Int.toNat_of_nonneg hw.1, rfl⟩
  · simp at h

end DateTime

end SignedAccess
