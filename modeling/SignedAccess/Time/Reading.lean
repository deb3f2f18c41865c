import SignedAccess.Time.DateTime

/-!
# Reading dates and times

Two notations: a date with an optional time of day and offset, and a count of seconds or
milliseconds since the first midnight of 1970.

Main definitions:

* `ReadFault` — why a text or a number is no date and time;
* `DateTime.ofIso` — the first notation;
* `DateTime.ofUnix` — the second, for a number;
* `DateTime.read` — either, for a text.
-/

namespace SignedAccess

/-- Why a text or a number is no date and time. -/
inductive ReadFault where
  /-- It is in no notation of one, or too far away. -/
  | unreadable
  /-- It lies in the year before the year 1. -/
  | yearZero
  deriving DecidableEq, Repr

namespace DateTime

/-! ## Dates with times -/

/-- The number of the first `n` characters, which must be digits, and the rest. -/
def digits? (n : Nat) (t : Text) : Option (Nat × Text) :=
  let front := t.take n
  if front.length = n ∧ front.all Char.isDigit then some (Decimal.value front, t.drop n) else none

/-- The text after a character that must stand in front. -/
def after? (c : Char) : Text → Option Text
  | [] => none
  | x :: rest => if x = c then some rest else none

def readDate? (t : Text) : Option (Date × Text) := do
  let (year, t) ← digits? 4 t
  let (month, t) ← digits? 2 (← after? '-' t)
  let (day, t) ← digits? 2 (← after? '-' t)
  let date : Date := ⟨year, month, day⟩
  if date.isReal then some (date, t) else none

/-- The microseconds of a fraction behind a point or a comma, and the rest.  Digits beyond the sixth
are cut off. -/
def readFraction? (t : Text) : Option (Nat × Text) :=
  match t with
  | [] => some (0, [])
  | mark :: rest =>
    if mark = '.' ∨ mark = ',' then
      let digits := rest.takeWhile Char.isDigit
      if digits = [] then none
      else
        some (Decimal.value ((digits ++ List.replicate 6 '0').take 6), rest.dropWhile Char.isDigit)
    else some (0, t)

/-- The microseconds since midnight of a time of day, and the rest.  Seconds may be missing. -/
def readClock? (t : Text) : Option (Nat × Text) := do
  let (hour, t) ← digits? 2 t
  let (minute, t) ← digits? 2 (← after? ':' t)
  let (second, fraction, t) ← match t with
    | ':' :: rest => do
      let (second, t) ← digits? 2 rest
      let (fraction, t) ← readFraction? t
      some (second, fraction, t)
    | _ => some (0, 0, t)
  if hour ≤ 23 ∧ minute ≤ 59 ∧ second ≤ 59 then
    some (((hour * 60 + minute) * 60 + second) * microsPerSecond + fraction, t)
  else none

/-- The offset that stands at the end of a text, in microseconds, and none for no offset. -/
def readOffset? (t : Text) : Option (Option Int) :=
  match t with
  | [] => some none
  | ['Z'] | ['z'] => some (some 0)
  | sign :: rest => do
    let (hour, rest) ← digits? 2 rest
    let (minute, rest) ← digits? 2 ((after? ':' rest).getD rest)
    let minutes : Int := hour * 60 + minute
    if rest = [] ∧ minute ≤ 59 ∧ minutes < 1440 then
      if sign = '+' then some (some (minutes * microsPerMinute))
      else if sign = '-' ∨ sign = '\u2212' then some (some (-(minutes * microsPerMinute)))
      else none
    else none

/-- The date and the time of day in microseconds, with the offset.  A date alone stands for its
midnight. -/
def readIso? (t : Text) : Option (Date × Nat × Option Int) := do
  let (date, t) ← readDate? t
  match t with
  | [] => some (date, 0, none)
  | sep :: rest => do
    if sep = 'T' ∨ sep = 't' ∨ sep = ' ' ∨ sep = '_' then
      let (micros, rest) ← readClock? rest
      some (date, micros, ← readOffset? rest)
    else none

/-- The reading at a time of day. -/
def at? (date : Date) (micros : Nat) (offset : Option Int) : Option DateTime :=
  let wall := date.toDays * microsPerDay + micros
  if h : wall < clockSpan then some ⟨wall, offset, h⟩ else none

/-- A date, which stands for its midnight, or a date with a time of day.  The date may lie in the
year zero, which no reading of a clock shows. -/
def ofIso (t : Text) : Except ReadFault DateTime :=
  match readIso? t with
  | none => .error .unreadable
  | some (date, micros, offset) =>
    if date.year = 0 then .error .yearZero
    else match at? date micros offset with
      | some d => .ok d
      | none => .error .unreadable

/-! ## Counts of seconds -/

/-- Beyond this magnitude a count is one of milliseconds. -/
def secondsLimit : Nat := 20000000000

/-- The microseconds of the year zero, a leap year. -/
def yearZeroSpan : Nat := 366 * microsPerDay

/-- The reading in UTC at a count of seconds, or of milliseconds, and a further number of
microseconds. -/
def ofUnix (count : Int) (micros : Nat) : Except ReadFault DateTime :=
  let total : Int :=
    if count.natAbs ≤ secondsLimit then count * microsPerSecond else count * 1000
  let wall := total + micros + epoch
  if h : 0 ≤ wall ∧ wall < clockSpan then .ok (inUtc wall.toNat (by omega))
  else if -(yearZeroSpan : Int) ≤ wall ∧ wall < 0 then .error .yearZero
  else .error .unreadable

/-- The microseconds of a double's fraction of a second. -/
def microsOf (fraction : Binary64) : Nat := (fraction.mul (.ofInt microsPerSecond)).nearest

/-- The reading at a double.  The fraction counts as one of a second, whatever the unit, and with
its magnitude. -/
def ofUnixReal (x : Binary64) : Except ReadFault DateTime :=
  match x with
  | .finite .. => ofUnix x.floor (microsOf x.fractionalPart)
  | _ => .error .unreadable

/-- A double with digits behind the point added, each divided by its power of ten and rounded. -/
def addPlaces (sum unit : Binary64) : Text → Binary64
  | [] => sum
  | c :: rest =>
    match unit with
    | .finite .. =>
      let place := (Binary64.ofInt (Decimal.digitValue c)).div unit
      addPlaces (sum.add place) (unit.mul (.ofInt 10)) rest
    | _ => sum

/-- The reading at a count with a fraction.  The count is turned into seconds, in double precision,
before its fraction is looked at, and what is left of it may count as milliseconds once more. -/
def ofUnixPlaces (negative : Bool) (whole : Nat) (places : Text) : Except ReadFault DateTime :=
  let sum := addPlaces (.ofInt whole) (.ofInt 10) places
  let count := if negative then (Binary64.ofInt 0).sub sum else sum
  let isMillis := (Binary64.sub (.ofInt secondsLimit) sum).floor < 0
  let seconds := if isMillis then count.div (.ofInt 1000) else count
  ofUnix seconds.floor (microsOf (seconds.sub (.ofInt seconds.floor)))

/-- The greatest whole part of a count. -/
def maxCount : Nat := 0x7FFFFFFFFFFFFFFF

/-- The reading at a count in decimal notation. -/
def ofUnixText (t : Text) : Except ReadFault DateTime :=
  let (negative, rest) := Decimal.signed t
  let whole := rest.takeWhile Char.isDigit
  if whole = [] ∨ maxCount < Decimal.value whole then .error .unreadable
  else match rest.dropWhile Char.isDigit with
    | [] => ofUnix (Decimal.withSign negative (Decimal.value whole)) 0
    | '.' :: places =>
      if places.all Char.isDigit then ofUnixPlaces negative (Decimal.value whole) places
      else .error .unreadable
    | _ => .error .unreadable

/-- A date with or without a time of day, or a count of seconds. -/
def read (t : Text) : Except ReadFault DateTime :=
  match ofIso t with
  | .error .unreadable => ofUnixText t
  | result => result

end DateTime

end SignedAccess
