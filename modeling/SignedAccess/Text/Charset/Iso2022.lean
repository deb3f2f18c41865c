import SignedAccess.Text.Charset.ByteTable
import SignedAccess.Text.Charset.Chinese

/-!
# Encodings that switch between character sets

Escape sequences put character sets in four places.  Bytes below 0x80 are read by the set in the
first place or, behind a shift, by the one in the second; a single shift reads one byte by the
third.  An escape that no set uses lets bytes through as they are up to its end.

Main definitions:

* `Iso2022.Mark`, `Iso2022.Variant` — the sets, and which of them a variant of the encoding knows;
* `Iso2022.State` — what stands in which place;
* `Iso2022.step` — the step of a variant.
-/

namespace SignedAccess.Iso2022

open Japanese (code Edition)

/-! ## Character sets -/

/-- A character set by the last byte of its escape sequence, and whether it has two bytes. -/
structure Mark where
  final : UInt8
  wide : Bool
  deriving DecidableEq, Repr

def ascii : Mark := ⟨0x42, false⟩
def roman : Mark := ⟨0x4A, false⟩
def katakana : Mark := ⟨0x49, false⟩
def latin : Mark := ⟨0x41, false⟩
def greek : Mark := ⟨0x46, false⟩
def jis0208 : Mark := ⟨0x42, true⟩
def jis0208Old : Mark := ⟨0x40, true⟩
def jis0212 : Mark := ⟨0x44, true⟩
def jis0213First : Mark := ⟨0x4F, true⟩
def jis0213Second : Mark := ⟨0x51, true⟩
def jis0213Plane2 : Mark := ⟨0x50, true⟩
def ksx1001 : Mark := ⟨0x43, true⟩
def gb2312 : Mark := ⟨0x41, true⟩

/-- The text of a byte in a set of single bytes. -/
def single? (set : Mark) (a : Nat) : Option Text :=
  if set = roman then
    some [if a = 0x5C then '\u00A5' else if a = 0x7E then '\u203E' else Char.ofNat a]
  else if set = katakana then Japanese.single (Japanese.katakana? (a + 0x80))
  else none

/-- The text of two bytes in a set of pairs. -/
def pair? (set : Mark) (a b : Nat) : Option Text :=
  let n := code a b
  if set = jis0208 ∨ set = jis0208Old then Japanese.single (Japanese.jis0208.char? n)
  else if set = jis0212 then Japanese.single (Japanese.jis0212.char? n)
  else if set = jis0213First then Japanese.plane1? .first n
  else if set = jis0213Second then Japanese.plane1? .second n
  else if set = jis0213Plane2 then Japanese.plane2? .second n
  else if set = ksx1001 then Japanese.single (Korean.ksx1001.char? n)
  else if set = gb2312 then Japanese.single (Chinese.gb2312.char? n)
  else none

structure Variant where
  name : String
  aliases : List String
  /-- The sets that may be switched to, beside ASCII. -/
  sets : List Mark
  /-- Whether the shift characters shift. -/
  shifts : Bool
  /-- Whether there are single shifts. -/
  singleShifts : Bool
  /-- Whether a revision may be announced in front of an escape sequence. -/
  announces : Bool
  deriving DecidableEq, Repr

/-! ## States -/

/-- What stands in which place. -/
structure State where
  first : Mark
  second : Mark
  third : Mark
  shifted : Bool
  /-- Whether an escape that no set uses is under way. -/
  escaping : Bool
  deriving DecidableEq, Repr

def State.start : State := ⟨ascii, ascii, ascii, false, false⟩

/-! ## Escape sequences -/

/-- The length from which on an escape sequence is given up. -/
def maxLength : Nat := 16

/-- Whether a byte ends an escape sequence. -/
def isFinal (b : UInt8) : Bool := (0x41 ≤ b && b ≤ 0x5A) || b = 0x40

/-- Whether a byte behind the escape begins a sequence that puts a set in a place. -/
def isOpening (b : UInt8) : Bool := b = 0x28 || b = 0x29 || b = 0x24 || b = 0x2E || b = 0x26

/-- The length of the escape sequence at the start of bytes, zero for one that is too long and none
for one that is cut short.  The announcement of a revision does not end it. -/
def lengthFrom? (announces : Bool) (bytes : Array UInt8) : (fuel i : Nat) → Option Nat
  | 0, _ => some 0
  | fuel + 1, i =>
    if maxLength ≤ i then some 0
    else match bytes[i]? with
      | none => none
      | some b =>
        if isFinal b then some (i + 1)
        else if announces ∧ b = 0x26 ∧ bytes[i + 1]? = some 0x40 then
          lengthFrom? announces bytes fuel (i + 3)
        else lengthFrom? announces bytes fuel (i + 1)

/-- The set and the place that an escape sequence names, by its bytes. -/
def named? (v : Variant) : Bytes → Option (Mark × Nat)
  | [_, b, c] =>
    if b = 0x24 then some (⟨c, true⟩, 0)
    else if b = 0x28 then some (⟨c, false⟩, 0)
    else if b = 0x29 then some (⟨c, false⟩, 1)
    else if b = 0x2E ∧ v.singleShifts then some (⟨c, false⟩, 2)
    else none
  | [_, b, c, d] =>
    if b ≠ 0x24 then none
    else if c = 0x28 then some (⟨d, true⟩, 0)
    else if c = 0x29 then some (⟨d, true⟩, 1)
    else none
  | [_, _, _, d, e, f] =>
    if v.announces ∧ d = 0x1B ∧ e = 0x24 ∧ f = 0x42 then some (jis0208, 0) else none
  | _ => none

/-- The state behind an escape sequence. -/
def designate (s : State) (set : Mark) : (place : Nat) → State
  | 0 => { s with first := set }
  | 1 => { s with second := set }
  | _ => { s with third := set }

/-- A step over an escape sequence. -/
def escape (v : Variant) (s : State) (bytes : Bytes) : Step State :=
  match lengthFrom? v.announces (bytes.take (2 * maxLength)).toArray maxLength 1 with
  | none => .short
  | some 0 => .bad 1
  | some n =>
    match named? v (bytes.take n) with
    | some (set, place) =>
      if set = ascii ∨ set ∈ v.sets then .read [] n (designate s set place) else .bad n
    | none => .bad n

/-- The character of a byte in the Greek set, as it was before three signs came into it. -/
def greekChar? (b : UInt8) : Option Char :=
  if b = 0xA4 ∨ b = 0xA5 ∨ b = 0xAA then none else ByteTable.iso8859Part7.char? b

def singleShift (s : State) (b : UInt8) : Step State :=
  if s.third = latin then
    if b < 0x80 then .read [Char.ofNat (b.toNat + 0x80)] 3 s else .bad 3
  else if s.third = greek then
    match greekChar? (b ^^^ 0x80) with
    | some c => .read [c] 3 s
    | none => .bad 3
  else if s.third = ascii then
    if b < 0x80 then .read [Char.ofNat b.toNat] 3 s else .bad 3
  else .broken

/-! ## Steps -/

/-- A step over a graphic character. -/
def graphic (s : State) (bytes : Bytes) : Step State :=
  let set := if s.shifted then s.second else s.first
  match bytes with
  | a :: rest =>
    if set = ascii then .read [Char.ofNat a.toNat] 1 s
    else if set.wide then match rest with
      | b :: _ => match pair? set a.toNat b.toNat with
        | some t => .read t 2 s
        | none => .bad 2
      | [] => .short
    else match single? set a.toNat with
      | some t => .read t 1 s
      | none => .bad 1
  | [] => .short

def step (v : Variant) (s : State) (bytes : Bytes) : Step State :=
  match bytes with
  | [] => .short
  | a :: rest =>
    let char : Text := [Char.ofNat a.toNat]
    if s.escaping then .read char 1 { s with escaping := !isFinal a }
    else if a = 0x1B then match rest with
      | [] => .short
      | b :: rest =>
        if isOpening b then escape v s bytes
        else if v.singleShifts ∧ b = 0x4E then match rest with
          | [] => .short
          | c :: _ => singleShift s c
        else .read char 1 { s with escaping := true }
    else if a = 0x0F ∧ v.shifts then .read [] 1 { s with shifted := false }
    else if a = 0x0E ∧ v.shifts then .read [] 1 { s with shifted := true }
    else if a = 0x0A then .read char 1 { s with shifted := false }
    else if a < 0x20 then .read char 1 s
    else if 0x80 ≤ a then .bad 1
    else graphic s bytes

/-! ## Variants -/

def japanese : Variant :=
  ⟨"iso2022_jp", ["csiso2022jp", "iso2022jp", "iso_2022_jp"], [jis0208, roman, jis0208Old],
    false, false, true⟩

def japanese1 : Variant :=
  ⟨"iso2022_jp_1", ["iso2022jp_1", "iso_2022_jp_1"], [jis0208, jis0212, roman, jis0208Old],
    false, false, true⟩

def japanese2 : Variant :=
  ⟨"iso2022_jp_2", ["iso2022jp_2", "iso_2022_jp_2"],
    [jis0208, jis0212, ksx1001, gb2312, roman, jis0208Old, latin, greek], false, true, true⟩

def japanese2004 : Variant :=
  ⟨"iso2022_jp_2004", ["iso2022jp_2004", "iso_2022_jp_2004"],
    [jis0208, jis0213Second, jis0213Plane2], false, false, true⟩

def japanese3 : Variant :=
  ⟨"iso2022_jp_3", ["iso2022jp_3", "iso_2022_jp_3"], [jis0208, jis0213First, jis0213Plane2],
    false, false, true⟩

def japaneseExtended : Variant :=
  ⟨"iso2022_jp_ext", ["iso2022jp_ext", "iso_2022_jp_ext"],
    [jis0208, jis0212, roman, katakana, jis0208Old], false, false, true⟩

def korean : Variant :=
  ⟨"iso2022_kr", ["csiso2022kr", "iso2022kr", "iso_2022_kr"], [ksx1001], true, false, false⟩

def variants : List Variant :=
  [japanese, japanese1, japanese2, japanese2004, japanese3, japaneseExtended, korean]

end SignedAccess.Iso2022
