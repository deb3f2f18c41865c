import SignedAccess.Endpoint.HostName.DirectionTable
import SignedAccess.Endpoint.HostName.LetterTable
import SignedAccess.Endpoint.HostName.NeighbourTable
import SignedAccess.Text.NormalForm
import SignedAccess.Text.Punycode
import SignedAccess.Text.Ranges

/-!
# Encoded host names

A host name beyond ASCII is written label by label in ASCII: `xn--` and Punycode.  Not every such
text stands for a name.

Main definitions:

* `HostName.Fault` — why a host name is none;
* `HostName.fitsPlace` — where the characters may stand that may not stand everywhere;
* `HostName.fitsDirections` — how characters of both directions of writing go together;
* `HostName.checkLabel` — the rules for a label;
* `HostName.check` — a host name in ASCII, if it begins with an encoded label.
-/

namespace SignedAccess.HostName

/-- Why a host name is none. -/
inductive Fault where
  /-- It has not the form of a name, or one of its labels has not the form of a label. -/
  | form
  /-- A character that no label may hold. -/
  | character
  /-- A character that a label may not hold there. -/
  | place
  /-- Characters of both directions of writing that do not go together. -/
  | direction
  deriving DecidableEq, Repr

/-! ## Places -/

/-- Whether a code point has a property of the Unicode tables. -/
def isIn (ranges : List (Nat × Nat)) (n : Nat) : Bool := Text.inRanges ranges n

/-- Whether a label may hold a code point anywhere. -/
def isLetter (n : Nat) : Bool :=
  isIn letterRanges n || isIn wideLetterRanges n
    || alternateRanges.any fun r => r.1 ≤ n && n ≤ r.2 && (n - r.1) % 2 = 0

/-- Whether a letter before a place and one behind it are joined. -/
def joinsOver (before after : List Nat) : Bool :=
  ((before.dropWhile (isIn transparentRanges)).head?.any (isIn joinsNextRanges))
    && (after.dropWhile (isIn transparentRanges)).head?.any (isIn joinsPreviousRanges)

/-- Whether a mark that takes away a vowel stands right before a place. -/
def followsVirama (before : List Nat) : Bool :=
  before.head?.any fun n => Text.Normal.combiningClass n = 9

/-- Whether a joiner or a non-joiner may stand between the characters before it, the nearest first,
and those behind it. -/
def fitsJoiner (n : Nat) (before after : List Nat) : Bool :=
  followsVirama before
    || (n = 0x200C && !before.head?.any (isIn unknownRanges) && joinsOver before after)

/-- Whether `n` is a digit of the first of the two rows of digits of the Arabic script. -/
def isArabicDigit (n : Nat) : Bool := 0x660 ≤ n && n ≤ 0x669

/-- Whether `n` is a digit of the second row. -/
def isExtendedDigit (n : Nat) : Bool := 0x6F0 ≤ n && n ≤ 0x6F9

/-- Whether a character that is bound to its place may stand between the characters before it, the
nearest first, and those behind it.  There is no rule for other characters. -/
def fitsPlace? (n : Nat) (before after : List Nat) : Option Bool :=
  if n = 0xB7 then some (before.head? = some 0x6C && after.head? = some 0x6C)
  else if n = 0x375 then some (after.head?.any (isIn greekRanges))
  else if n = 0x5F3 ∨ n = 0x5F4 then some (before.head?.any (isIn hebrewScriptRanges))
  else if n = 0x30FB then some ((before ++ after).any (isIn japaneseRanges))
  else if isArabicDigit n then some (!(before ++ after).any isExtendedDigit)
  else if isExtendedDigit n then some (!(before ++ after).any isArabicDigit)
  else none

/-- The characters of a label one by one, each with those before it, the nearest first. -/
def checkPlaces (before : List Nat) : List Nat → Except Fault Unit
  | [] => .ok ()
  | n :: after => do
    if !isLetter n then
      if n = 0x200C ∨ n = 0x200D then
        if !fitsJoiner n before after then throw .form
      else match fitsPlace? n before after with
        | some true => pure ()
        | some false => throw .place
        | none => throw .character
    checkPlaces (n :: before) after

/-! ## Directions -/

/-- How a character goes with the directions of writing. -/
inductive Direction where
  | leftward
  | rightward
  | digit
  | arabicDigit
  | nonspacing
  | neutral
  | unknown
  deriving DecidableEq, Repr

/-- The direction of a character that a label may hold. -/
def Direction.of (n : Nat) : Direction :=
  if isIn hebrewRanges n || isIn arabicRanges n then .leftward
  else if isIn arabicDigitRanges n then .arabicDigit
  else if isIn digitRanges n then .digit
  else if isIn nonspacingRanges n then .nonspacing
  else if isIn neutralRanges n then .neutral
  else if isIn unknownRanges n then .unknown
  else .rightward

/-- Whether the directions of the characters of a label go together.  With a letter that is written
to the left, or an Arabic digit, the label begins with such a letter, holds none that is written to
the right and digits of one kind only, and ends with a letter or a digit, marks apart. -/
def fitDirections (ds : List Direction) : Bool :=
  !ds.contains .unknown
    && (!(ds.contains .leftward || ds.contains .arabicDigit)
      || (ds.head? = some .leftward && !ds.contains .rightward
        && !(ds.contains .digit && ds.contains .arabicDigit)
        && (ds.reverse.dropWhile (· = .nonspacing)).head? ≠ some .neutral))

/-! ## Labels -/

def maxLength : Nat := 254

/-- Whether hyphens stand where no label has them: at an end, or in the third and fourth place. -/
def hasStrayHyphens (points : List Nat) : Bool :=
  (points.drop 2).take 2 = [0x2D, 0x2D] || points.head? = some 0x2D || points.getLast? = some 0x2D

def checkLabel (points : List Nat) : Except Fault Unit := do
  if points = [] ∨ maxLength < points.length then throw .form
  if !Text.Normal.isNormal points then throw .form
  if hasStrayHyphens points ∨ points.head?.any (isIn markRanges) then throw .form
  checkPlaces [] points
  if !fitDirections (points.map Direction.of) then throw .direction

/-- What an encoded label begins with. -/
def encodedStart : Text := "xn--".toList

/-- The rules for a label in ASCII, which may be an encoded one. -/
def checkAsciiLabel (label : Text) : Except Fault Unit :=
  match Text.without? encodedStart label with
  | none => checkLabel (label.map Char.toNat)
  | some code =>
    if code = [] ∨ code.getLast? = some '-' then .error .form
    else match Punycode.decode? code with
      | some points => checkLabel points
      | none => .error .form

/-- The labels of a name.  An empty one at the end does not count. -/
def labels (name : Text) : List Text :=
  let all := name.splitOn '.'
  if all.getLast? = some [] then all.dropLast else all

/-- Whether a host is an encoded name if it begins as one. -/
def check (host : Text) : Except Fault Unit :=
  match Text.without? encodedStart host with
  | none => .ok ()
  | some _ =>
    if maxLength < host.length then .error .form
    else (labels host).forM checkAsciiLabel

end SignedAccess.HostName
