import SignedAccess.Text.Charset.JapaneseTable
import SignedAccess.Text.Charset.Scan

/-!
# Japanese character sets

The national sets arrange their characters in rows and columns.  EUC writes both with the high bit
set; Shift JIS folds two rows into one first byte.  An ill-formed character is given up after its
first byte.

Main definitions:

* `Japanese.Edition` — the two editions of the extended set;
* `Japanese.plane1?`, `Japanese.plane2?` — the text of a code of the extended set;
* `Japanese.eucJp`, `Japanese.eucJis`, `Japanese.shiftJis`, `Japanese.windows`,
  `Japanese.shiftJisX0213` — the steps of the encodings.
-/

namespace SignedAccess.Japanese

/-! ## Sets -/

/-- The editions of the extended set. -/
inductive Edition where
  | first
  | second
  deriving DecidableEq, Repr

def code (row column : Nat) : Nat := row * 0x100 + column

def single (c : Option Char) : Option Text := c.map ([·])

/-- Whether an edition leaves out a code of the first plane. -/
def isLeftOut (edition : Edition) (n : Nat) : Bool := edition = .first && jis0213Added.contains n

/-- The text of a code in the first plane of the extended set. -/
def plane1? (edition : Edition) (n : Nat) : Option Text :=
  if isLeftOut edition n then none
  else match jis0208.char? n with
    | some c => some [c]
    | none => match jis0213.char? n with
      | some c => some [c]
      | none => (jis0213Pairs.lookup n).map String.toList

/-- The text of a code in the second plane of the extended set, in which the second edition
exchanged one character. -/
def plane2? (edition : Edition) (n : Nat) : Option Text :=
  if edition = .first ∧ n = 0x7D3B then some ['\u9B1D'] else single (jis0213Plane2.char? n)

/-- The character of a byte in the half-width set. -/
def katakana? (b : Nat) : Option Char :=
  if 0xA1 ≤ b ∧ b ≤ 0xDF then some (Char.ofNat (0xFEC0 + b)) else none

/-- A single byte, read as its own number. -/
def ascii (b : UInt8) : Step Unit := .read [Char.ofNat b.toNat] 1 ()

/-- The first `length` bytes, read as a text if they are one. -/
def orBad (length : Nat) (t : Option Text) : Step Unit :=
  match t with
  | some t => .read t length ()
  | none => .bad 1

/-! ## EUC -/

/-- A byte without its high bit, or with one that it lacks. -/
def flip (b : UInt8) : Nat := (b ^^^ 0x80).toNat

/-- A step in EUC, by the steps over codes in two bytes and the texts of those in three. -/
def euc (two : Nat → Step Unit) (three : Nat → Option Text) : Bytes → Step Unit
  | [] => .short
  | a :: rest =>
    if a < 0x80 then ascii a
    else match rest with
      | [] => .short
      | b :: rest =>
        if a = 0x8E then orBad 2 (single (katakana? b.toNat))
        else if a = 0x8F then match rest with
          | [] => .short
          | c :: _ => orBad 3 (three (code (flip b) (flip c)))
        else two (code (flip a) (flip b))

def eucJp : Bytes → Step Unit :=
  euc (fun n => orBad 2 (single (jis0208.char? n))) (fun n => single (jis0212.char? n))

/-- A step over a pair of the first plane.  A code that the edition leaves out is given up as
a whole. -/
def extendedPair (edition : Edition) (n : Nat) : Step Unit :=
  if isLeftOut edition n then .bad 2 else orBad 2 (plane1? edition n)

/-- A step in EUC with the extended set.  One tilde is wide here, and the supplementary set stands
in for what the second plane lacks. -/
def eucJis (edition : Edition) : Bytes → Step Unit :=
  euc (fun n => if n = 0x2232 then .read ['\uFF5E'] 2 () else extendedPair edition n)
    (fun n => (plane2? edition n).or (single (jis0212.char? n)))

/-! ## Shift JIS -/

/-- Whether a byte begins a pair. -/
def leads (b : UInt8) : Bool := (0x81 ≤ b && b ≤ 0x9F) || (0xE0 ≤ b && b ≤ 0xFC)

/-- The row, counted from zero, and the column of a pair. -/
def unshift? (a b : UInt8) : Option (Nat × Nat) :=
  if b < 0x40 ∨ b = 0x7F ∨ 0xFC < b then none
  else
    let row := 2 * (if a < 0xE0 then a.toNat - 0x81 else a.toNat - 0xC1)
    let column := if b < 0x80 then b.toNat - 0x40 else b.toNat - 0x41
    some (if column < 0x5E then (row, column + 0x21) else (row + 1, column - 0x5E + 0x21))

/-- A step in an encoding of single bytes and pairs. -/
def pairs (alone? : UInt8 → Option (Option Char)) (pair : UInt8 → UInt8 → Step Unit) :
    Bytes → Step Unit
  | [] => .short
  | a :: rest =>
    match alone? a with
    | some c => orBad 1 (single c)
    | none => match rest with
      | [] => .short
      | b :: _ => pair a b

/-- What a byte of Shift JIS stands for alone, if it begins no pair. -/
def shiftAlone? (b : UInt8) : Option (Option Char) :=
  if b < 0x80 then some (some (Char.ofNat b.toNat))
  else if leads b then none else some (katakana? b.toNat)

def shiftJis : Bytes → Step Unit :=
  pairs shiftAlone? fun a b => match unshift? a b with
    | some (row, column) => orBad 2 (single (jis0208.char? (code (row + 0x21) column)))
    | none => .bad 1

/-- What a byte of the Windows variant stands for alone. -/
def windowsAlone? (b : UInt8) : Option (Option Char) :=
  if b ≤ 0x80 then some (some (Char.ofNat b.toNat))
  else if b = 0xA0 then some (some '\uF8F0')
  else if 0xFD ≤ b then some (some (Char.ofNat (0xF8F1 - 0xFD + b.toNat)))
  else shiftAlone? b

/-- The text of a pair of the Windows variant: of its additions, of the main set, or of the
user-defined area. -/
def windowsPair? (a b : UInt8) : Option Text :=
  match cp932.char? (code a.toNat b.toNat) with
  | some c => some [c]
  | none => match unshift? a b with
    | some (row, column) =>
      if 0xF0 ≤ a ∧ a ≤ 0xF9 then
        some [Char.ofNat (0xE000 + 94 * (row - 0x5E) + (column - 0x21))]
      else single (jis0208.char? (code (row + 0x21) column))
    | none => none

/-- A step in the Windows variant of Shift JIS. -/
def windows : Bytes → Step Unit := pairs windowsAlone? fun a b => orBad 2 (windowsPair? a b)

/-- What a byte of Shift JIS with the extended set stands for alone: two signs differ from ASCII. -/
def extendedAlone? (b : UInt8) : Option (Option Char) :=
  if b = 0x5C then some (some '\u00A5')
  else if b = 0x7E then some (some '\u203E')
  else shiftAlone? b

/-- The row of the second plane that a row beyond the first one means. -/
def secondRow (row : Nat) : Nat :=
  if 0x67 ≤ row then row + 0x07
  else if 0x63 ≤ row ∨ row = 0x5F then row - 0x37
  else row - 0x3D

/-- A step in Shift JIS with the extended set.  The backslash has its usual width here. -/
def shiftJisX0213 (edition : Edition) : Bytes → Step Unit :=
  pairs extendedAlone? fun a b => match unshift? a b with
    | some (row, column) =>
      if row < 0x5E then
        let n := code (row + 0x21) column
        if n = 0x2140 then .read ['\\'] 2 () else extendedPair edition n
      else orBad 2 (plane2? edition (code (secondRow row) column))
    | none => .bad 1

end SignedAccess.Japanese
