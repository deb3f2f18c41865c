import SignedAccess.Text.NormalTable

/-!
# Normal form of texts

Many texts can be written with a letter and its marks apart or in one.  In the composed normal form
all is in one that can be, and the marks that are left stand in a fixed order.  Code points are
numbers here, as a text that is read from elsewhere may hold some that are no characters.

Main definitions:

* `Normal.decompose` — a code point taken apart;
* `Normal.order` — marks in their order;
* `Normal.compose` — what can be in one put into one;
* `Normal.isNormal` — whether code points are in the composed normal form.
-/

namespace SignedAccess.Text

/-! ## Rows -/

/-- The base that a row makes a composite of. -/
def MarkRow.base? (row : MarkRow) (n : Nat) : Option Nat :=
  ((row.composites.toList.map Char.toNat).zip (row.bases.toList.map Char.toNat)).lookup n

/-- The composite that a row makes of a base. -/
def MarkRow.composite? (row : MarkRow) (n : Nat) : Option Nat :=
  ((row.bases.toList.map Char.toNat).zip (row.composites.toList.map Char.toNat)).lookup n

namespace Normal

/-! ## Syllables -/

def firstSyllable : Nat := 0xAC00

/-- The count of Korean syllables: 19 initial consonants, 21 vowels, and 27 final consonants or
none. -/
def syllableCount : Nat := 19 * 21 * 28

/-- A Korean syllable taken apart. -/
def syllableParts (n : Nat) : List Nat :=
  let i := n - firstSyllable
  let final := i % 28
  [0x1100 + i / 588, 0x1161 + i % 588 / 28] ++ if final = 0 then [] else [0x11A7 + final]

/-- Whether a code point is a Korean syllable. -/
def isSyllable (n : Nat) : Bool := firstSyllable ≤ n && n < firstSyllable + syllableCount

/-- A consonant and a vowel in one, or a syllable without a final consonant and one in one. -/
def syllable? (a b : Nat) : Option Nat :=
  if 0x1100 ≤ a ∧ a < 0x1113 ∧ 0x1161 ≤ b ∧ b < 0x1176 then
    some (firstSyllable + ((a - 0x1100) * 21 + (b - 0x1161)) * 28)
  else if isSyllable a ∧ (a - firstSyllable) % 28 = 0 ∧ 0x11A8 ≤ b ∧ b < 0x11C3 then
    some (a + (b - 0x11A7))
  else none

/-! ## Pairs -/

/-- The two code points that one is made of. -/
def pair? (n : Nat) : Option (Nat × Nat) :=
  match compositions.findSome? fun row => (row.base? n).map fun base => (base, row.mark) with
  | some pair => some pair
  | none => (widePairs ++ oneWayPairs).lookup n

/-- The code point that two make up. -/
def composite? (a b : Nat) : Option Nat :=
  match syllable? a b with
  | some n => some n
  | none =>
    match (compositions.filter fun row => row.mark = b).findSome? fun row => row.composite? a with
    | some n => some n
    | none => (widePairs.find? fun p => p.2 = (a, b)).map Prod.fst

/-! ## Algorithm -/

/-- A code point taken apart, and its first part again as often as `depth` tells. -/
def decomposeWithin : (depth : Nat) → Nat → List Nat
  | 0, n => [n]
  | depth + 1, n =>
    match equivalents.char? n with
    | some c => decomposeWithin depth c.toNat
    | none => match pair? n with
      | some (base, mark) => decomposeWithin depth base ++ decomposeWithin depth mark
      | none => [n]

/-- A code point taken apart as far as it goes, which is never more than four times. -/
def decompose (n : Nat) : List Nat :=
  if n < 0xC0 then [n] else if isSyllable n then syllableParts n else decomposeWithin 4 n

/-- The combining class of a code point, zero for all but marks. -/
def combiningClass (n : Nat) : Nat :=
  match combiningRuns.find? fun run => run.1 ≤ n && n ≤ run.2.1 with
  | some run => run.2.2
  | none => 0

/-- Code points from the last to the first with one more behind them, which goes before the marks of
higher classes. -/
def insertMark (n : Nat) : List Nat → List Nat
  | [] => [n]
  | m :: rest =>
    if combiningClass n ≠ 0 ∧ combiningClass n < combiningClass m then m :: insertMark n rest
    else n :: m :: rest

/-- Code points with the marks in their order. -/
def order (points : List Nat) : List Nat :=
  (points.foldl (fun done n => insertMark n done) []).reverse

/-- Code points in the making: those that are done, from the last to the first; the last that is no
mark; and the marks behind it, from the last to the first. -/
structure Draft where
  done : List Nat
  base? : Option Nat
  marks : List Nat

/-- All code points of a draft, from the last to the first. -/
def Draft.all (d : Draft) : List Nat := d.marks ++ d.base?.toList ++ d.done

/-- Whether a code point of a class meets the base of a draft, no mark of its class or of a higher
one being between them. -/
def Draft.reaches (d : Draft) (n : Nat) : Bool :=
  match d.marks with
  | [] => true
  | m :: _ => combiningClass m < combiningClass n

/-- A draft with one more code point. -/
def Draft.push (d : Draft) (n : Nat) : Draft :=
  match if d.reaches n then d.base? >>= fun base => composite? base n else none with
  | some whole => ⟨d.done, some whole, d.marks⟩
  | none => if combiningClass n = 0 then ⟨d.all, some n, []⟩ else ⟨d.done, d.base?, n :: d.marks⟩

/-- What can be in one put into one. -/
def compose (points : List Nat) : List Nat := (points.foldl Draft.push ⟨[], none, []⟩).all.reverse

/-- Whether code points are in the composed normal form. -/
def isNormal (points : List Nat) : Bool := compose (order (points.flatMap decompose)) = points

end Normal

end SignedAccess.Text
