import SignedAccess.Number.Decimal
import SignedAccess.Text.Charset

/-!
# The character set of a content type

The value of a `Content-Type` header is a type and its parameters, between semicolons.  A parameter
may come in parts that are numbered, and its characters as percent escapes behind the name of their
own character set.

Main definitions:

* `ContentType.parameters` — the parameters as they are written;
* `ContentType.Parameter`, `ContentType.collected` — a parameter, and those of a value with their
  parts put together;
* `ContentType.charset?` — the name of the character set.
-/

namespace SignedAccess.ContentType

/-! ## Parameters as written -/

/-- The parts of a value between semicolons that stand outside of quotes.  A quote behind a
backslash opens and closes nothing, wherever it stands. -/
def parts (value : Text) : List Text := go false none value
where
  /-- The parts of what follows `last`; `quoted` tells whether a quotation is open. -/
  go (quoted : Bool) (last : Option Char) : Text → List Text
    | [] => [[]]
    | c :: rest =>
      if c = ';' ∧ !quoted then [] :: go false none rest
      else match go (if c = '"' ∧ last ≠ some '\\' then !quoted else quoted) (some c) rest with
        | [] => [[c]]
        | part :: others => (c :: part) :: others

/-- A part as a name, in lower case, and a value; the value is empty for a bare name. -/
def nameAndValue (part : Text) : Text × Text :=
  match Text.cut? '=' part with
  | some (name, value) => (Text.lower (Text.trim name), Text.trim value)
  | none => (Text.trim part, [])

/-- The parameters of a value as they are written, the type being the first. -/
def parameters (value : Text) : List (Text × Text) := (parts value).map nameAndValue

/-! ## Quotes -/

/-- A text with another put in the place of each `old`, which is not empty. -/
def replace (old new : Text) (t : Text) : Text := go t.length t
where
  /-- The same for what follows, in at most `fuel` steps. -/
  go : (fuel : Nat) → Text → Text
    | 0, t => t
    | _ + 1, [] => []
    | fuel + 1, c :: rest =>
      match Text.without? old (c :: rest) with
      | some rest => new ++ go fuel rest
      | none => c :: go fuel rest

/-- A text without the quotes or the angle brackets around it. -/
def unquote (t : Text) : Text :=
  let inside := (t.drop 1).dropLast
  if t.length < 2 then t
  else if t.head? = some '"' ∧ t.getLast? = some '"' then
    replace "\\\"".toList ['"'] (replace "\\\\".toList ['\\'] inside)
  else if t.head? = some '<' ∧ t.getLast? = some '>' then inside
  else t

/-- A text as it stands between quotes. -/
def escaped (t : Text) : Text := t.flatMap fun c => if c = '\\' ∨ c = '"' then ['\\', c] else [c]

def quote (t : Text) : Text := '"' :: t ++ ['"']

/-! ## Parts put together -/

/-- A parameter, whose value may name a character set of its own. -/
inductive Parameter where
  | plain (name value : Text)
  | extended (name : Text) (charset : Option Text) (value : Text)
  deriving DecidableEq, Repr

/-- A part of a parameter. -/
structure Segment where
  name : Text
  number : Option Nat
  value : Text
  /-- Whether the value holds percent escapes. -/
  isEncoded : Bool
  deriving DecidableEq, Repr

/-- Whether a character may stand in the name of a parameter in parts. -/
def isWordChar (c : Char) : Bool := c.isAlphanum || c = '_'

/-- The name and the number that the name of a part tells. -/
def segmentName? (name : Text) : Option (Text × Option Nat) :=
  let word := name.takeWhile isWordChar
  match word, name.dropWhile isWordChar with
  | _ :: _, '*' :: rest =>
    let digits := rest.takeWhile Char.isDigit
    let behind := rest.dropWhile Char.isDigit
    if rest = [] then some (word, none)
    else if digits ≠ [] ∧ (behind = [] ∨ behind = ['*']) then
      some (word, some (Decimal.value digits))
    else none
  | _, _ => none

/-- A parameter as a part of another, if its name tells so. -/
def segment? (p : Text × Text) : Option Segment :=
  (segmentName? p.1).map fun s => ⟨s.1, s.2, unquote p.2, p.1.getLast? = some '*'⟩

/-- Percent escapes read as the characters of the same number. -/
def percentDecoded : Text → Text
  | '%' :: a :: b :: rest =>
    match Hex.digit? a, Hex.digit? b with
    | some x, some y => Char.ofNat (16 * x + y) :: percentDecoded rest
    | _, _ => '%' :: percentDecoded (a :: b :: rest)
  | c :: rest => c :: percentDecoded rest
  | [] => []

/-- Whether a part comes before another, or is the same: by its number, and then by its value. -/
def Segment.isUpTo (a b : Segment) : Bool :=
  let x := a.number.getD 0
  let y := b.number.getD 0
  x < y || (x = y && (Text.precedes a.value b.value ||
    (a.value = b.value && (!a.isEncoded || b.isEncoded))))

def Segment.text (s : Segment) : Text := if s.isEncoded then percentDecoded s.value else s.value

/-- A value that may begin with the name of its character set and a language, each in front of an
apostrophe. -/
def cutCharset (value : Text) : Option Text × Text :=
  match Text.cut? '\'' value with
  | some (charset, rest) => match Text.cut? '\'' rest with
    | some (_, rest) => (some charset, rest)
    | none => (none, value)
  | none => (none, value)

/-- The parameter that parts of one name make up. -/
def assemble (name : Text) (segments : List Segment) : Parameter :=
  let value := escaped ((segments.mergeSort Segment.isUpTo).flatMap Segment.text)
  if segments.any Segment.isEncoded then
    let (charset, value) := cutCharset value
    .extended name charset (quote value)
  else .plain name (quote value)

/-- The parts of one name and those of others. -/
def ofName (name : Text) (segments : List Segment) : List Segment :=
  segments.filter fun s => s.name = name

/-- The parameters of a value: the type, those in one piece, and those in parts.  Parts of one name
must have numbers all or none. -/
def collected (value : Text) : Except CharsetFault (List Parameter) :=
  match parameters value with
  | [] => .ok []
  | first :: others =>
    let segments := others.filterMap segment?
    let whole := others.filter fun p => (segment? p).isNone
    let names := (segments.map Segment.name).eraseDups
    let isMixed (name : Text) : Bool :=
      (ofName name segments).any (·.number.isSome) && (ofName name segments).any (·.number.isNone)
    if names.any isMixed then .error .unordered
    else .ok (.plain first.1 first.2 ::
      (whole.map fun p => .plain p.1 (quote (escaped (unquote p.2)))) ++
      names.map fun name => assemble name (ofName name segments))

/-! ## The character set -/

/-- Whether a parameter names the character set. -/
def Parameter.isCharset : Parameter → Bool
  | .plain name _ | .extended name _ _ => Text.lower name = "charset".toList

/-- The bytes of a text whose characters have their numbers. -/
def bytesOf (t : Text) : Bytes := t.map fun c => UInt8.ofNat c.toNat

/-- A value read in the character set that it names, or else as it is. -/
def readIn (charset : Option Text) (value : Text) : Except CharsetFault Text :=
  let name := match charset with
    | none | some [] => "us-ascii".toList
    | some name => name
  if '\x00' ∈ name then .error .nulInName
  else .ok (((Charset.ofName? name).bind fun c => c.decode? (bytesOf value)).getD value)

/-- The name of the character set in a `Content-Type` value, in lower case; a name beyond ASCII is
none. -/
def charset? (value : Text) : Except CharsetFault (Option Text) := do
  let parameters ← collected value
  match parameters.find? Parameter.isCharset with
  | none => return none
  | some p =>
    let name ← match p with
      | .plain _ value => pure (unquote value)
      | .extended _ charset value => readIn charset (unquote value)
    return if name.all fun c => c.toNat < 0x80 then some (Text.lower name) else none

end SignedAccess.ContentType
