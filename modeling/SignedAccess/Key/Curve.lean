import SignedAccess.Bytes.BigEndian
import SignedAccess.Key.Prime

/-!
# Elliptic curves

The points of a curve over a prime field satisfy `y² = x³ + a x + b`, those over a binary field
`y² + x y = x³ + a x² + b`.

Main definitions:

* `BinaryField` — polynomials over two elements modulo one of them, with `mul`, `inverse`, `trace`;
* `Curve` — the field and the coefficients of a curve;
* `Curve.readPoint?` — what the bytes of a point stand for.
-/

namespace SignedAccess

/-! ## Binary fields -/

/-- A field of polynomials over two elements, each polynomial a number whose bits are the
coefficients. -/
structure BinaryField where
  degree : Nat
  /-- The polynomial modulo which is calculated. -/
  modulus : Nat
  deriving DecidableEq, Repr

namespace BinaryField

/-- The product with the variable. -/
def double (f : BinaryField) (a : Nat) : Nat :=
  let d := a * 2
  if d.testBit f.degree then d ^^^ f.modulus else d

/-- The product of `a` with the `bits` lowest coefficients of `b`, and `acc` in front of them. -/
def mulFrom (f : BinaryField) (a b : Nat) : (bits acc : Nat) → Nat
  | 0, acc => acc
  | i + 1, acc =>
    mulFrom f a b i (if b.testBit i then f.double acc ^^^ a else f.double acc)

def mul (f : BinaryField) (a b : Nat) : Nat := mulFrom f a b f.degree 0

def square (f : BinaryField) (a : Nat) : Nat := mul f a a

/-- The product of `acc` with the next `count` squares of squares from `a` on. -/
def inverseFrom (f : BinaryField) : (count a acc : Nat) → Nat
  | 0, _, acc => acc
  | count + 1, a, acc =>
    let a := f.square a
    inverseFrom f count a (f.mul acc a)

/-- The inverse of an element that is not zero. -/
def inverse (f : BinaryField) (a : Nat) : Nat := inverseFrom f (f.degree - 1) a 1

/-- The sum of `acc`, of `a` and of its next squares, `count` summands in all. -/
def traceFrom (f : BinaryField) : (count a acc : Nat) → Nat
  | 0, _, acc => acc
  | count + 1, a, acc => traceFrom f count (f.square a) (acc ^^^ a)

/-- The trace, zero or one; `z² + z = a` has a solution just if it is zero. -/
def trace (f : BinaryField) (a : Nat) : Nat := traceFrom f f.degree a 0

end BinaryField

/-! ## Curves -/

inductive Field where
  | prime (p : Nat)
  | binary (field : BinaryField)
  deriving DecidableEq, Repr

structure Curve where
  /-- The arcs of its object identifier. -/
  name : List Nat
  field : Field
  a : Nat
  b : Nat
  /-- How often the base point added to itself is the point at infinity. -/
  order : Nat
  /-- Whether signatures are made with it. -/
  isSupported : Bool
  deriving Repr

/-- A point as its bytes give it. -/
inductive Point where
  | infinity
  | finite
  deriving DecidableEq, Repr

namespace Field

/-- How many bits the coordinates have. -/
def bits : Field → Nat
  | .prime p => p.log2 + 1
  | .binary f => f.degree

/-- How many bytes a coordinate takes. -/
def width (f : Field) : Nat := (f.bits + 7) / 8

/-- Whether a number is a coordinate. -/
def holds (f : Field) (x : Nat) : Bool :=
  match f with
  | .prime p => x < p
  | .binary f => x.log2 < f.degree

end Field

namespace Curve

/-- The right side of the equation over a prime field. -/
def cubic (c : Curve) (p x : Nat) : Nat := (x * x * x + c.a * x + c.b) % p

def hasPoint (c : Curve) (x y : Nat) : Bool :=
  match c.field with
  | .prime p => y * y % p = c.cubic p x
  | .binary f => f.square y ^^^ f.mul x y = f.mul (f.square x) (x ^^^ c.a) ^^^ c.b

/-- Whether a point with the abscissa `x` is on the curve, on the side that the last bit tells. -/
def hasAbscissa (c : Curve) (x : Nat) (isOdd : Bool) : Bool :=
  match c.field with
  | .prime p =>
    let s := c.cubic p x
    if s = 0 then !isOdd else powMod p s (p / 2) = 1
  | .binary f => x = 0 || f.trace (x ^^^ c.a ^^^ f.mul c.b (f.square (f.inverse x))) = 0

/-- The last bit that tells the side of a point. -/
def sideOf (c : Curve) (x y : Nat) : Bool :=
  match c.field with
  | .prime _ => y % 2 = 1
  | .binary f => x ≠ 0 && f.mul y (f.inverse x) % 2 = 1

/-- The point of bytes.  The first byte tells the form: the point at infinity, the abscissa and the
side, both coordinates, or both coordinates and the side. -/
def readPoint? (c : Curve) : Bytes → Option Point
  | [] => none
  | form :: rest =>
    let width := c.field.width
    let x := BigEndian.value (rest.take width)
    let y := BigEndian.value (rest.drop width)
    let isOdd : Bool := form.toNat % 2 = 1
    let hasBoth := rest.length = 2 * width && c.field.holds x && c.field.holds y && c.hasPoint x y
    if form = 0x00 then if rest = [] then some .infinity else none
    else if form = 0x02 ∨ form = 0x03 then
      if rest.length = width ∧ c.field.holds x ∧ c.hasAbscissa x isOdd then some .finite else none
    else if form = 0x04 then if hasBoth then some .finite else none
    else if form = 0x06 ∨ form = 0x07 then
      if hasBoth && c.sideOf x y = isOdd then some .finite else none
    else none

end Curve

end SignedAccess
