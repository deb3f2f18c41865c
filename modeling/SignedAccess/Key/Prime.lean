/-!
# Probable primes

Main definitions:

* `powMod` — a power modulo a number, by repeated squaring;
* `isProbablePrime` — the Miller–Rabin test to the first prime bases.

Main statement: `powMod_eq`, the power is the one it should be.
-/

namespace SignedAccess

/-- `base ^ e % n`, by repeated squaring. -/
def powMod (n base e : Nat) : Nat :=
  if e = 0 then 1 % n
  else
    let half := powMod n (base * base % n) (e / 2)
    if e % 2 = 0 then half else base * half % n
termination_by e
decreasing_by omega

def testBases : List Nat := [2, 3, 5, 7, 11, 13, 17, 19, 23, 29, 31, 37, 41]

/-- The odd part of `n`, at most `fuel` halvings taken off, and how many they were. -/
def oddPart : (fuel n : Nat) → Nat × Nat
  | 0, n => (n, 0)
  | fuel + 1, n =>
    if n % 2 = 0 ∧ n ≠ 0 then
      let (odd, twos) := oddPart fuel (n / 2)
      (odd, twos + 1)
    else (n, 0)

/-- Whether squaring `x` less than `times` times gives `n - 1` modulo `n`. -/
def reachesMinusOne (n : Nat) : (times x : Nat) → Bool
  | 0, _ => false
  | times + 1, x => x = n - 1 || reachesMinusOne n times (x * x % n)

/-- Whether `n`, odd and greater than `base`, behaves like a prime to a base. -/
def passesBase (n odd twos base : Nat) : Bool :=
  base % n = 0 || powMod n base odd = 1 || reachesMinusOne n twos (powMod n base odd)

/-- Whether `n` is prime as far as the test tells. -/
def isProbablePrime (n : Nat) : Bool :=
  if n < 2 then false
  else if n < 4 then true
  else if n % 2 = 0 then false
  else
    let (odd, twos) := oddPart n.log2 (n - 1)
    testBases.all (passesBase n odd twos)

/-! ## Lemmas -/

theorem powMod_eq (n base e : Nat) : powMod n base e = Nat.pow base e % n := by
  fun_induction powMod n base e with
  | case1 base => simp
  | case2 base e h half heven ih =>
    have he : e = e / 2 + e / 2 := by omega
    simp only [half, ih, Nat.pow_eq]
    rw [← Nat.pow_mod, ← Nat.pow_two, ← Nat.pow_mul]
    congr 2
    omega
  | case3 base e h half hodd ih =>
    have he : e = 2 * (e / 2) + 1 := by omega
    simp only [half, ih, Nat.pow_eq]
    rw [← Nat.pow_mod, ← Nat.pow_two, ← Nat.pow_mul, Nat.mul_mod, Nat.mod_mod, ← Nat.mul_mod]
    conv => rhs; rw [he, Nat.pow_succ, Nat.mul_comm]

end SignedAccess
