import SignedAccess.Text
import SignedAccess.Text.CaseTable
import SignedAccess.Text.Ranges

/-!
# Letter case

Full Unicode case mappings.  A character may become several (`ß` is `SS` in upper case), and the
lower case of a capital sigma hangs on its neighbours: `ς` at the end of a word, `σ` elsewhere.

Main definitions:

* `upper`, `lower` — the case mappings on texts;
* `isCased`, `isIgnorable` — the properties that tell where a word ends.
-/

namespace SignedAccess.Text

/-! ## Algorithm -/

/-- The code point that `runs` assigns to `n`, which is `n` itself outside of all runs. -/
def shifted : List (Nat × Nat × Nat × Int) → Nat → Nat
  | [], n => n
  | (first, last, step, shift) :: rest, n =>
    if n < first then n
    else if n ≤ last ∧ (n - first) % step = 0 then (n + shift).toNat
    else shifted rest n

/-- The upper case of a character. -/
def upperChar (c : Char) : Text :=
  if c.toNat < 0x80 then [c.toUpper]
  else match upperExpansions.lookup c.toNat with
    | some points => points.map Char.ofNat
    | none => [Char.ofNat (shifted upperRuns c.toNat)]

def upper (t : Text) : Text := t.flatMap upperChar

/-- The lower case of a character other than the capital sigma.  The capital I with a dot keeps
its dot as a combining mark. -/
def lowerChar (c : Char) : Text :=
  if c.toNat < 0x80 then [c.toLower]
  else if c.toNat = 0x130 then ['i', Char.ofNat 0x307]
  else [Char.ofNat (shifted lowerRuns c.toNat)]

/-- Whether `c` is a cased letter (and not case-ignorable). -/
def isCased (c : Char) : Bool := inRanges casedRanges c.toNat

/-- Whether the end of a word is sought beyond `c`. -/
def isIgnorable (c : Char) : Bool := inRanges ignorableRanges c.toNat

/-- Whether the first character that is not ignorable is a cased letter. -/
def startsCased : Text → Bool
  | [] => false
  | c :: rest => if isIgnorable c then startsCased rest else isCased c

/-- The lower case of what follows a text; `afterCased` tells whether the last character there
that is not ignorable is a cased letter. -/
def lowerFrom (afterCased : Bool) : Text → Text
  | [] => []
  | c :: rest =>
    (if c = 'Σ' then [if afterCased && !startsCased rest then 'ς' else 'σ'] else lowerChar c)
      ++ lowerFrom (if isIgnorable c then afterCased else isCased c) rest

def lower (t : Text) : Text := lowerFrom false t

/-! ## Lemmas -/

theorem lowerChar_of_ascii {c : Char} (h : c.toNat < 0x80) : lowerChar c = [c.toLower] := by
  simp [lowerChar, h]

end SignedAccess.Text
