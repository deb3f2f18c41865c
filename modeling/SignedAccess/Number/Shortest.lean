import SignedAccess.Number.Binary64
import SignedAccess.Number.Decimal

/-!
# Shortest decimal text of doubles

A double stands for all reals that round to it.  Its text is the shortest decimal among them, and of
two such decimals the nearer one.

Main definitions:

* `Shortest.Interval` — the reals that round to a double, over a common denominator;
* `Shortest.decimal` — the shortest decimal among them;
* `Shortest.text` — that decimal, positional or with an exponent.
-/

namespace SignedAccess.Shortest

/-! ## The reals of a double -/

/-- The reals from `low` to `high`, and `value` among them, all over the denominator `den`. -/
structure Interval where
  low : Nat
  value : Nat
  high : Nat
  den : Nat
  /-- Whether the ends belong to it. -/
  isClosed : Bool

/-- The reals that round to `m · 2 ^ e`, for a positive `m`.  The gap to the double below a power of
two is half as wide as the gap to the one above; the ends round to an even `m`. -/
def intervalOf (m : Nat) (e : Int) : Interval :=
  let isNarrow := m = Nat.pow 2 52 ∧ -1074 < e
  let low := if isNarrow then 4 * m - 1 else 4 * m - 2
  let isClosed := m % 2 = 0
  match e with
  | .ofNat e =>
    let f := Nat.pow 2 e
    ⟨low * f, 4 * m * f, (4 * m + 2) * f, 4, isClosed⟩
  | .negSucc e => ⟨low, 4 * m, 4 * m + 2, 4 * Nat.pow 2 (e + 1), isClosed⟩

/-- The same reals times `10 ^ places`. -/
def Interval.shift (i : Interval) : (places : Int) → Interval
  | .ofNat n =>
    let f := Nat.pow 10 n
    ⟨i.low * f, i.value * f, i.high * f, i.den, i.isClosed⟩
  | .negSucc n => { i with den := i.den * Nat.pow 10 (n + 1) }

/-- Whether a whole number is among the reals. -/
def Interval.holds (i : Interval) (n : Nat) : Bool :=
  let n := n * i.den
  (i.low < n && n < i.high) || (i.isClosed && (n = i.low || n = i.high))

/-- The whole number next to the value, if one of its two neighbours is among the reals; of two the
nearer one, and the even one if they are equally near. -/
def Interval.neighbour? (i : Interval) : Option Nat :=
  let below := i.value / i.den
  let above := below + 1
  let half := (below + above) * i.den
  let prefersBelow := 2 * i.value < half || (2 * i.value = half && below % 2 = 0)
  match i.holds below, i.holds above with
  | true, true => some (if prefersBelow then below else above)
  | true, false => some below
  | false, true => some above
  | false, false => none

/-! ## Decimals -/

/-- How many places a value is moved so that it becomes greater than one. -/
def farShift : Nat := 400

/-- How many digits stand before the point of a value, or less than zero if there are zeros behind
it. -/
def Interval.magnitude (i : Interval) : Int :=
  ((Decimal.ofNat (i.value * Nat.pow 10 farShift / i.den)).length : Int) - farShift

/-- No double has as many decimal digits. -/
def mostDigits : Nat := 800

/-- The shortest decimal that rounds to `m · 2 ^ e`, as its digits and the place of the point among
them. -/
def decimal (m : Nat) (e : Int) : Text × Int :=
  let i := intervalOf m e
  let magnitude := i.magnitude
  let found := (List.range mostDigits).findSome? fun (n : Nat) =>
    let places : Int := (n : Int) + 1 - magnitude
    (i.shift places).neighbour?.map fun c => (c, places)
  let (c, places) := found.getD (0, 0)
  let digits := Decimal.ofNat c
  (Text.trimEnd (· = '0') digits, digits.length - places)

/-! ## Text -/

/-- Decimals with the point after the `point`-th digit are written without an exponent within these
bounds. -/
def isPositional (point : Int) : Bool := -4 < point && point ≤ 16

/-- A decimal without an exponent, with at least one digit on either side of the point. -/
def positional (digits : Text) (point : Int) : Text :=
  if point ≤ 0 then "0.".toList ++ List.replicate (-point).toNat '0' ++ digits
  else
    let whole := digits.take point.toNat
    let rest := digits.drop point.toNat
    whole ++ List.replicate (point.toNat - digits.length) '0' ++
      '.' :: (if rest = [] then ['0'] else rest)

/-- A decimal with an exponent of at least two digits and one digit before the point. -/
def scientific (digits : Text) (point : Int) : Text :=
  let exponent := point - 1
  digits.take 1 ++ (if digits.length ≤ 1 then [] else '.' :: digits.drop 1)
    ++ 'e' :: (if exponent < 0 then '-' else '+') :: Text.padZeros 2 (Decimal.ofNat exponent.natAbs)

/-- The text of a positive double `m · 2 ^ e`. -/
def magnitudeText (m : Nat) (e : Int) : Text :=
  let (digits, point) := decimal m e
  if isPositional point then positional digits point else scientific digits point

/-- The text of the double `m · 2 ^ e` with a sign.  A full mantissa is the half of one at the next
exponent. -/
def text (negative : Bool) (m : Nat) (e : Int) : Text :=
  (if negative then ['-'] else []) ++
    if m = 0 then "0.0".toList
    else if m = Nat.pow 2 53 then magnitudeText (Nat.pow 2 52) (e + 1)
    else magnitudeText m e

end SignedAccess.Shortest
