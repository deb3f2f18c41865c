/-!
# The calendar

The Gregorian calendar, extended back to the year 1.

Main definitions:

* `Date` — a year, a month and a day;
* `Date.toDays` — the days from 1 January of the year 1 to a date;
* `Date.ofDays` — the date so many days after it.
-/

namespace SignedAccess

/-- A day of the calendar. -/
structure Date where
  year : Nat
  month : Nat
  day : Nat
  deriving DecidableEq, Repr

namespace Date

/-! ## Algorithm -/

/-- Whether a year has 366 days. -/
def isLeap (year : Nat) : Bool := year % 4 = 0 && (year % 100 ≠ 0 || year % 400 = 0)

/-- The lengths of the months of a year. -/
def monthLengths (leap : Bool) : List Nat :=
  [31, if leap then 29 else 28, 31, 30, 31, 30, 31, 31, 30, 31, 30, 31]

/-- The days before 1 January of a year. -/
def daysBefore (year : Nat) : Nat :=
  (year - 1) * 365 + (year - 1) / 4 - (year - 1) / 100 + (year - 1) / 400

/-- Whether the calendar has the day, if it is extended to the years 0 to 9999. -/
def isReal (d : Date) : Bool :=
  d.year ≤ 9999 && 1 ≤ d.month && 1 ≤ d.day &&
    match (monthLengths (isLeap d.year))[d.month - 1]? with
    | some length => d.day ≤ length
    | none => false

/-- The days from 1 January of the year 1 to a date. -/
def toDays (d : Date) : Nat :=
  daysBefore d.year + ((monthLengths (isLeap d.year)).take (d.month - 1)).foldl (· + ·) 0
    + (d.day - 1)

/-- The month and the day of the month that lie `n` days into months of these lengths, the first
of which has the number `month`. -/
def dayOfMonth (month : Nat) : List Nat → (n : Nat) → Nat × Nat
  | [], n => (month, n + 1)
  | length :: rest, n =>
    if n < length then (month, n + 1) else dayOfMonth (month + 1) rest (n - length)

/-- The date `n` days after 1 January of the year 1. -/
def ofDays (n : Nat) : Date :=
  let quadCentury := n / 146097
  let n := n % 146097
  let century := min (n / 36524) 3
  let n := n - century * 36524
  let olympiad := n / 1461
  let n := n % 1461
  let yearOf := min (n / 365) 3
  let n := n - yearOf * 365
  let year := quadCentury * 400 + century * 100 + olympiad * 4 + yearOf + 1
  let (month, day) := dayOfMonth 1 (monthLengths (isLeap year)) n
  ⟨year, month, day⟩

end Date

end SignedAccess
