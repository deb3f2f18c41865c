import SignedAccess.Text

/-!
# Tables of characters by code

Main definitions:

* `CodeRun`, `CodeTable` — characters of consecutive codes, and runs of them in ascending order;
* `CodeTable.char?` — the character of a code.
-/

namespace SignedAccess

/-- The characters of consecutive codes; U+FFFD stands for none. -/
structure CodeRun where
  first : Nat
  chars : String
  deriving Repr

/-- Runs in ascending order of their codes. -/
abbrev CodeTable := List CodeRun

def CodeRun.char? (r : CodeRun) (code : Nat) : Option Char :=
  match r.chars.toList[code - r.first]? with
  | some c => if c = '\uFFFD' then none else some c
  | none => none

/-- The character of a code.  It stands in the last run that does not begin behind it. -/
def CodeTable.char? (t : CodeTable) (code : Nat) : Option Char :=
  match (t.takeWhile fun r => r.first ≤ code).getLast? with
  | some r => r.char? code
  | none => none

end SignedAccess
