import SignedAccess.Text

/-!
# Punycode

A text in ASCII that stands for one with other characters: those in ASCII, a hyphen, and then digits
that tell, character by character, which one to insert and where.

Main definitions:

* `Punycode.readDelta` — a number of variable length;
* `Punycode.decode?` — the code points of a text;
* `Punycode.decodePrefix` — the code points up to the first fault.
-/

namespace SignedAccess.Punycode

/-! ## Numbers -/

/-- The value of a digit: letters of either case, then decimal digits. -/
def digit? (c : Char) : Option Nat :=
  let n := c.toUpper.toNat
  if 0x41 ≤ n ∧ n ≤ 0x5A then some (n - 0x41)
  else if 0x30 ≤ n ∧ n ≤ 0x39 then some (n - 0x30 + 26)
  else none

/-- The least digit at a place that is not the last one of its number. -/
def threshold (place bias : Nat) : Nat :=
  if place ≤ bias then 1 else if bias + 26 ≤ place then 26 else place - bias

/-- Reads a number whose first digits amount to `sum`, the next one having a weight; and what
follows it. -/
def readDelta (bias : Nat) : (place weight sum : Nat) → Text → Option (Nat × Text)
  | _, _, _, [] => none
  | place, weight, sum, c :: rest =>
    match digit? c with
    | none => none
    | some d =>
      let t := threshold place bias
      if d < t then some (sum + d * weight, rest)
      else readDelta bias (place + 36) (weight * (36 - t)) (sum + d * weight) rest

/-- Halves of a range taken off a number until it is small, and the bias that they amount to. -/
def scaleDown : (fuel delta bias : Nat) → Nat × Nat
  | 0, delta, bias => (delta, bias)
  | fuel + 1, delta, bias =>
    if 455 < delta then scaleDown fuel (delta / 35) (bias + 36) else (delta, bias)

/-- The bias behind a number, by the count of characters there are then. -/
def adapt (delta count : Nat) (isFirst : Bool) : Nat :=
  let delta := if isFirst then delta / 700 else delta / 2
  let delta := delta + delta / count
  let (delta, bias) := scaleDown (delta.log2 + 1) delta 0
  bias + 36 * delta / (delta + 38)

/-! ## Insertions -/

/-- A text in the making. -/
structure Draft where
  codes : List Nat
  /-- The code point that was inserted last. -/
  code : Nat
  /-- The place behind the last insertion. -/
  place : Nat
  bias : Nat
  isFirst : Bool

/-- The draft with one more code point. -/
def Draft.insert (d : Draft) (delta code : Nat) : Draft :=
  let count := d.codes.length + 1
  let place := (d.place + delta) % count
  ⟨d.codes.take place ++ code :: d.codes.drop place, code, place + 1,
    adapt delta count d.isFirst, false⟩

/-- The code point that a number stands for. -/
def Draft.next (d : Draft) (delta : Nat) : Nat := d.code + (d.place + delta) / (d.codes.length + 1)

/-- Inserts what digits tell, in at most `fuel` steps; `beyond` makes a code point of a number that
is none.  A fault ends it, and comes with the draft as far as it got. -/
def insertAll (beyond : Option Nat) : (fuel : Nat) → Draft → Text → Bool × List Nat
  | 0, d, _ => (true, d.codes)
  | _ + 1, d, [] => (true, d.codes)
  | fuel + 1, d, c :: rest =>
    match readDelta d.bias 36 1 0 (c :: rest) with
    | none => (false, d.codes)
    | some (delta, rest) =>
      if d.next delta < 0x110000 then insertAll beyond fuel (d.insert delta (d.next delta)) rest
      else match beyond with
        | some code => insertAll beyond fuel (d.insert delta code) rest
        | none => (false, d.codes)

/-- What stands before and behind the last hyphen; without one nothing stands before. -/
def cutLastHyphen (t : Text) : Text × Text :=
  match Text.cut? '-' t.reverse with
  | some (back, front) => (front.reverse, back.reverse)
  | none => ([], t)

/-- The code points of a text, by those before its last hyphen and what follows. -/
def decodeFrom (beyond : Option Nat) (codes : List Nat) (digits : Text) : Bool × List Nat :=
  insertAll beyond digits.length ⟨codes, 0x80, 0, 72, true⟩ digits

/-- The code points of a text, which is in ASCII; surrogates may be among them. -/
def decode? (t : Text) : Option (List Nat) :=
  let (base, digits) := cutLastHyphen t
  match decodeFrom none (base.map Char.toNat) digits with
  | (true, codes) => some codes
  | (false, _) => none

/-- The code points of a text up to the first fault, a question mark standing for a number that is
no code point. -/
def decodePrefix (t : Text) : List Nat :=
  let (base, digits) := cutLastHyphen t
  (decodeFrom (some 0x3F) (base.map Char.toNat) digits).2

end SignedAccess.Punycode
