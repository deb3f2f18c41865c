import SignedAccess.Text.Charset.Scan

/-!
# UTF-7

ASCII stands for itself but for the plus sign, behind which UTF-16 units follow in base64 up to the
first character that is none of its digits; a minus sign at the end belongs to the sequence.

Main definition: `Utf7.scan` — what bytes in UTF-7 stand for.
-/

namespace SignedAccess.Utf7

/-- The value of a base64 digit. -/
def digit? (b : UInt8) : Option Nat :=
  let n := b.toNat
  if 0x41 ≤ n ∧ n ≤ 0x5A then some (n - 0x41)
  else if 0x61 ≤ n ∧ n ≤ 0x7A then some (n - 0x61 + 26)
  else if 0x30 ≤ n ∧ n ≤ 0x39 then some (n - 0x30 + 52)
  else if n = 0x2B then some 62
  else if n = 0x2F then some 63
  else none

/-- What has been read of a base64 sequence and not yet been told. -/
structure Shift where
  /-- How many bits there are. -/
  count : Nat
  bits : Nat
  /-- A high surrogate that waits for its partner. -/
  high : Option Nat

/-- A base64 sequence at its start. -/
def Shift.start : Shift := ⟨0, 0, none⟩

/-- Whether a base64 sequence may not end here. -/
def Shift.isOpen (s : Shift) : Bool := 6 ≤ s.count || (0 < s.count && s.bits ≠ 0)

/-- Takes up a complete unit. -/
def Shift.take (s : Shift) (unit : Nat) : List Piece × Shift :=
  let isHigh := 0xD800 ≤ unit ∧ unit < 0xDC00
  match s.high with
  | some high =>
    if 0xDC00 ≤ unit ∧ unit < 0xE000 then
      ([.surrogate high, .surrogate unit], { s with high := none })
    else if isHigh then ([.surrogate high], { s with high := some unit })
    else ([.surrogate high, .ofCode unit], { s with high := none })
  | none => if isHigh then ([], { s with high := some unit }) else ([.ofCode unit], s)

/-- Takes up a base64 digit. -/
def Shift.push (s : Shift) (digit : Nat) : List Piece × Shift :=
  let count := s.count + 6
  let bits := s.bits * 64 + digit
  if 16 ≤ count then
    let below := Nat.pow 2 (count - 16)
    Shift.take ⟨count - 16, bits % below, s.high⟩ (bits / below)
  else ([], ⟨count, bits, s.high⟩)

mutual

/-- What bytes outside of a base64 sequence stand for, in at most `fuel` steps. -/
def direct : (fuel : Nat) → Bytes → List Piece
  | 0, _ => []
  | _ + 1, [] => []
  | fuel + 1, b :: rest =>
    if b = 0x2B then match rest with
      | [] => []
      | c :: after =>
        if c = 0x2D then .char '+' :: direct fuel after
        else if (digit? c).isNone then .illFormed :: direct fuel after
        else shifted fuel Shift.start rest
    else if b < 0x80 then .char (Char.ofNat b.toNat) :: direct fuel rest
    else .illFormed :: direct fuel rest

/-- What bytes within a base64 sequence stand for, in at most `fuel` steps. -/
def shifted : (fuel : Nat) → Shift → Bytes → List Piece
  | 0, _, _ => []
  | _ + 1, s, [] => if s.isOpen || s.high.isSome then [.illFormed] else []
  | fuel + 1, s, b :: rest =>
    match digit? b with
    | some d => (s.push d).1 ++ shifted fuel (s.push d).2 rest
    | none =>
      if s.isOpen then .illFormed :: direct fuel rest
      else
        let lone := match s.high with
          | some high => if b < 0x80 ∧ b ≠ 0x2B then [.surrogate high] else []
          | none => []
        lone ++ direct fuel (if b = 0x2D then rest else b :: rest)

end

/-- What bytes in UTF-7 stand for. -/
def scan (bytes : Bytes) : List Piece := direct (2 * bytes.length + 1) bytes

end SignedAccess.Utf7
