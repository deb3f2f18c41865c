import SignedAccess.Bytes.Hex
import SignedAccess.Text.Charset.Scan

/-!
# Text with backslash escapes

Bytes stand for the characters of the same number but for escapes.  Names of characters are not
known here.

Main definitions:

* `Escapes.scan` — what bytes with the escapes of a string literal stand for;
* `Escapes.scanRaw` — what they stand for where only code points are escaped.
-/

namespace SignedAccess.Escapes

/-- The number of at most `count` hexadecimal digits in front, how many there are, and the rest. -/
def hexDigits : (count : Nat) → (value found : Nat) → Bytes → Nat × Nat × Bytes
  | 0, value, found, bytes => (value, found, bytes)
  | _ + 1, value, found, [] => (value, found, [])
  | count + 1, value, found, b :: rest =>
    match Hex.digit? (Char.ofNat b.toNat) with
    | some d => hexDigits count (value * 16 + d) (found + 1) rest
    | none => (value, found, b :: rest)

/-- The code point of `count` hexadecimal digits, and the rest. -/
def hexCode (count : Nat) (bytes : Bytes) : Piece × Bytes :=
  let (value, found, rest) := hexDigits count 0 0 bytes
  (if found = count then .ofCode value else .illFormed, rest)

/-- The number of at most `count` octal digits, and the rest. -/
def octal : (count value : Nat) → Bytes → Nat × Bytes
  | 0, value, bytes => (value, bytes)
  | _ + 1, value, [] => (value, [])
  | count + 1, value, b :: rest =>
    if 0x30 ≤ b ∧ b ≤ 0x37 then octal count (value * 8 + (b.toNat - 0x30)) rest
    else (value, b :: rest)

/-- What is left behind the name of a character in braces, which no character has. -/
def behindName (bytes : Bytes) : Bytes :=
  match bytes with
  | 0x7B :: rest => match rest.span (· ≠ 0x7D) with
    | (_, []) => []
    | ([], brace) => brace
    | (_, _ :: after) => after
  | _ => bytes

/-- The control character of a letter. -/
def control? (b : UInt8) : Option Char :=
  match Char.ofNat b.toNat with
  | 'a' => some '\x07'
  | 'b' => some '\x08'
  | 't' => some '\t'
  | 'n' => some '\n'
  | 'v' => some '\x0B'
  | 'f' => some '\x0C'
  | 'r' => some '\r'
  | _ => none

/-- What the bytes behind a backslash stand for, and the rest. -/
def escape (b : UInt8) (rest : Bytes) : List Piece × Bytes :=
  let char (n : Nat) : Piece := .char (Char.ofNat n)
  let one (p : Piece × Bytes) : List Piece × Bytes := ([p.1], p.2)
  if b = 0x0A then ([], rest)
  else if b = 0x5C ∨ b = 0x27 ∨ b = 0x22 then ([char b.toNat], rest)
  else if b = 0x78 then one (hexCode 2 rest)
  else if b = 0x75 then one (hexCode 4 rest)
  else if b = 0x55 then one (hexCode 8 rest)
  else if b = 0x4E then ([.illFormed], behindName rest)
  else if 0x30 ≤ b ∧ b ≤ 0x37 then
    let (n, rest) := octal 3 0 (b :: rest)
    ([char n], rest)
  else match control? b with
    | some c => ([.char c], rest)
    | none => ([.char '\\', char b.toNat], rest)

/-- What bytes stand for, in at most `fuel` steps. -/
def scanUpTo : (fuel : Nat) → Bytes → List Piece
  | 0, _ => []
  | _ + 1, [] => []
  | _ + 1, [0x5C] => [.illFormed]
  | fuel + 1, 0x5C :: b :: rest => (escape b rest).1 ++ scanUpTo fuel (escape b rest).2
  | fuel + 1, b :: rest => .char (Char.ofNat b.toNat) :: scanUpTo fuel rest

/-- What bytes with the escapes of a string literal stand for. -/
def scan (bytes : Bytes) : List Piece := scanUpTo bytes.length bytes

/-- What bytes with escaped code points stand for, in at most `fuel` steps. -/
def scanRawUpTo : (fuel : Nat) → Bytes → List Piece
  | 0, _ => []
  | _ + 1, [] => []
  | fuel + 1, 0x5C :: b :: rest =>
    if b = 0x75 ∨ b = 0x55 then
      let (piece, rest) := hexCode (if b = 0x75 then 4 else 8) rest
      piece :: scanRawUpTo fuel rest
    else .char '\\' :: .char (Char.ofNat b.toNat) :: scanRawUpTo fuel rest
  | fuel + 1, b :: rest => .char (Char.ofNat b.toNat) :: scanRawUpTo fuel rest

/-- What bytes with escaped code points stand for. -/
def scanRaw (bytes : Bytes) : List Piece := scanRawUpTo bytes.length bytes

end SignedAccess.Escapes
