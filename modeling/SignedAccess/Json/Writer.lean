import SignedAccess.Json
import SignedAccess.Number.Shortest
import SignedAccess.Text.Quoted

/-!
# JSON text

Main definitions:

* `Json.Spacing` — what is written after a comma and after a colon;
* `Json.write` — the text of a value, in printable ASCII;
* `Json.isWritable` — whether a value has no integer that is too long to be written.
-/

namespace SignedAccess.Json

/-- The separators between items and between a key and its value. -/
structure Spacing where
  item : Text
  key : Text

/-- Separators without blanks. -/
def Spacing.compact : Spacing := ⟨",".toList, ":".toList⟩

/-- Separators with a blank behind each. -/
def Spacing.wide : Spacing := ⟨", ".toList, ": ".toList⟩

/-- The escape of a 16-bit unit. -/
def escapeUnit (n : Nat) : Text := "\\u".toList ++ Text.hexDigits 4 n

/-- A character within a JSON string.  All but printable ASCII is escaped, in two units beyond
U+FFFF. -/
def writeChar (c : Char) : Text :=
  if c = '"' then "\\\"".toList
  else if c = '\\' then "\\\\".toList
  else if c = '\n' then "\\n".toList
  else if c = '\r' then "\\r".toList
  else if c = '\t' then "\\t".toList
  else if c = '\x08' then "\\b".toList
  else if c = '\x0C' then "\\f".toList
  else if 0x20 ≤ c.toNat ∧ c.toNat < 0x7F then [c]
  else if c.toNat < 0x10000 then escapeUnit c.toNat
  else escapeUnit (0xD800 + (c.toNat - 0x10000) / 0x400)
    ++ escapeUnit (0xDC00 + (c.toNat - 0x10000) % 0x400)

def writeText (t : Text) : Text := '"' :: t.flatMap writeChar ++ ['"']

/-- A code point within a JSON string. -/
def writePoint : CodePoint → Text
  | .char c => writeChar c
  | .surrogate place => escapeUnit (0xD800 + place)

def writePoints (t : CodeText) : Text := '"' :: t.flatMap writePoint ++ ['"']

/-- The shortest text of a double that is read back. -/
def writeReal : Binary64 → Text
  | .notNumber => "NaN".toList
  | .infinite negative => (if negative then "-" else "").toList ++ "Infinity".toList
  | .finite negative m e => Shortest.text negative m e

mutual

def write (s : Spacing) : Json → Text
  | .null => "null".toList
  | .bool b => (if b then "true" else "false").toList
  | .int n => Decimal.ofInt n
  | .real x => writeReal x
  | .text t => writeText t
  | .unpaired t => writePoints t
  | .array items => '[' :: Text.joined s.item (writeItems s items) ++ [']']
  | .object fields => '{' :: Text.joined s.item (writeFields s fields) ++ ['}']

def writeItems (s : Spacing) : List Json → List Text
  | [] => []
  | j :: rest => write s j :: writeItems s rest

def writeFields (s : Spacing) : List (Text × Json) → List Text
  | [] => []
  | (key, j) :: rest => (writeText key ++ s.key ++ write s j) :: writeFields s rest

end

/-! ## Limits -/

/-- Whether an integer has no more digits than are written. -/
def isShort (n : Int) : Bool := n.natAbs < Nat.pow 10 Decimal.maxDigits

mutual

/-- Whether all integers of a value are short. -/
def isWritable : Json → Bool
  | .int n => isShort n
  | .array items => areItemsWritable items
  | .object fields => areFieldsWritable fields
  | .null | .bool _ | .real _ | .text _ | .unpaired _ => true

/-- Whether all integers of the items of an array are short. -/
def areItemsWritable : List Json → Bool
  | [] => true
  | j :: rest => isWritable j && areItemsWritable rest

/-- Whether all integers of the fields of an object are short. -/
def areFieldsWritable : List (Text × Json) → Bool
  | [] => true
  | (_, j) :: rest => isWritable j && areFieldsWritable rest

end

end SignedAccess.Json
