/-!
# Double-precision rounding

Real numbers arrive as ratios of natural numbers and are rounded once, to nearest and to even on
a tie, to 53 significant bits.

Main definitions:

* `Binary64` — a double-precision number;
* `roundDiv` — a quotient rounded to the nearest natural number;
* `Binary64.ofRatio` — the double nearest to a ratio;
* `Binary64.add`, `Binary64.sub`, `Binary64.mul`, `Binary64.div` — exact results, rounded once;
* `Binary64.truncate`, `Binary64.floor` — a double cut off at the point, or rounded down to it.
-/

namespace SignedAccess

/-- A double-precision number: `mantissa · 2 ^ exponent` with a sign, an infinity, or no number. -/
inductive Binary64 where
  | finite (negative : Bool) (mantissa : Nat) (exponent : Int)
  | infinite (negative : Bool)
  | notNumber
  deriving DecidableEq, Repr

/-- `num / den` rounded to the nearest natural number, a tie to the even one. -/
def roundDiv (num den : Nat) : Nat :=
  let q := num / den
  let r := num % den
  if 2 * r < den then q else if den < 2 * r then q + 1 else q + q % 2

/-- `num / den` rounded to the nearest natural number, a tie upward. -/
def roundHalfUp (num den : Nat) : Nat := (2 * num + den) / (2 * den)

namespace Binary64

/-- `n · 2 ^ e / d` rounded to the nearest natural number. -/
def scaled (n d : Nat) : Int → Nat
  | .ofNat e => roundDiv (n * Nat.pow 2 e) d
  | .negSucc e => roundDiv n (d * Nat.pow 2 (e + 1))

/-- Whether `n / d` is at least `2 ^ e`. -/
def atLeastPow (n d : Nat) : Int → Bool
  | .ofNat e => d * Nat.pow 2 e ≤ n
  | .negSucc e => d ≤ n * Nat.pow 2 (e + 1)

/-- The exponent of the leading bit of the positive ratio `n / d`. -/
def leadingBit (n d : Nat) : Int :=
  let e : Int := (n.log2 : Int) - d.log2
  if atLeastPow n d e then e else e - 1

/-- The double nearest to `n / d`. -/
def ofRatio (negative : Bool) (n d : Nat) : Binary64 :=
  if n = 0 then .finite negative 0 0
  else
    let e := max (leadingBit n d - 52) (-1074)
    let m := scaled n d (-e)
    if 971 < e ∨ (e = 971 ∧ Nat.pow 2 53 ≤ m) then .infinite negative else .finite negative m e

/-- The double nearest to `digits · 10 ^ exponent`.  The bounds keep the powers small where the
answer is clear from the size alone. -/
def ofDecimal (negative : Bool) (digits : Nat) (count : Nat) (exponent : Int) : Binary64 :=
  if digits = 0 ∨ exponent + count < -400 then .finite negative 0 0
  else if 400 < exponent ∧ 400 < exponent + count then .infinite negative
  else match exponent with
    | .ofNat e => ofRatio negative (digits * Nat.pow 10 e) 1
    | .negSucc e => ofRatio negative digits (Nat.pow 10 (e + 1))

/-! ## Arithmetic -/

def fraction? : Binary64 → Option (Int × Nat)
  | .finite negative m (.ofNat e) =>
    let n := m * Nat.pow 2 e
    some (if negative then -(n : Int) else n, 1)
  | .finite negative m (.negSucc e) => some (if negative then -(m : Int) else m, Nat.pow 2 (e + 1))
  | _ => none

/-- The double nearest to a fraction. -/
def ofFraction (num : Int) (den : Nat) : Binary64 := ofRatio (decide (num < 0)) num.natAbs den

/-- The double nearest to an integer. -/
def ofInt (n : Int) : Binary64 := ofFraction n 1

/-- An operation on fractions as one on finite doubles. -/
def lift (op : Int × Nat → Int × Nat → Int × Nat) (x y : Binary64) : Binary64 :=
  match x.fraction?, y.fraction? with
  | some a, some b => ofFraction (op a b).1 (op a b).2
  | _, _ => .notNumber

/-- The sum of finite doubles. -/
def add : Binary64 → Binary64 → Binary64 := lift fun a b => (a.1 * b.2 + b.1 * a.2, a.2 * b.2)

/-- The difference of finite doubles. -/
def sub : Binary64 → Binary64 → Binary64 := lift fun a b => (a.1 * b.2 - b.1 * a.2, a.2 * b.2)

/-- The product of finite doubles. -/
def mul : Binary64 → Binary64 → Binary64 := lift fun a b => (a.1 * b.1, a.2 * b.2)

/-- The quotient of finite doubles, of which the second is not zero. -/
def div : Binary64 → Binary64 → Binary64 :=
  lift fun a b => (a.1 * b.2 * b.1.sign, a.2 * b.1.natAbs)

/-! ## Integer parts -/

/-- A finite double rounded down to an integer. -/
def floor (x : Binary64) : Int :=
  match x.fraction? with
  | some (num, den) => num / den
  | none => 0

/-- The fraction of a finite double, whatever its sign. -/
def fractionalPart (x : Binary64) : Binary64 :=
  match x.fraction? with
  | some (num, den) => ofFraction (num.natAbs % den : Nat) den
  | none => .notNumber

/-- A finite double that is not negative, rounded to a natural number, a tie upward. -/
def nearest (x : Binary64) : Nat :=
  match x.fraction? with
  | some (num, den) => roundHalfUp num.natAbs den
  | none => 0

/-- The integer part of a magnitude `m · 2 ^ e`. -/
def wholePart (m : Nat) : Int → Nat
  | .ofNat e => m * Nat.pow 2 e
  | .negSucc e => m / Nat.pow 2 (e + 1)

/-- Whether `m · 2 ^ e` has no fraction. -/
def isWhole (m : Nat) : Int → Bool
  | .ofNat _ => true
  | .negSucc e => m % Nat.pow 2 (e + 1) = 0

/-- A finite double cut off at the point, toward zero. -/
def truncate : Binary64 → Int
  | .finite negative m e => if negative then -(wholePart m e : Int) else wholePart m e
  | .infinite _ => 0
  | .notNumber => 0

end Binary64

end SignedAccess
