import SignedAccess.Bytes.Hex
import SignedAccess.Json
import SignedAccess.Number.Decimal

/-!
# Reading JSON text

Beside the standard grammar, `NaN`, `Infinity` and `-Infinity` are numbers; raw control
characters are refused, and so is an integer of more than `Decimal.maxDigits` digits.

Text is read strictly or leniently.  A strict reader refuses a surrogate without a partner, keeps
every field of an object even if its key comes again, counts a minus sign among the digits of a
number, and lets an empty array or object stand one level deeper than others.  A lenient one takes
what it meets, of repeated keys the last, and tells a text that nests too deep apart.

Main definitions:

* `Json.Strictness` — how deep values may nest, and which of the two ways is taken;
* `Json.Nesting` — how deep they may nest for a reader that lives on the stack of its caller;
* `Json.ReadFault` — why a text has no value;
* `Json.readWithin` — the value of a text, by a reader that takes integers up to some length;
* `Json.read` — the value of a text.
-/

namespace SignedAccess.Json

/-- What a reader refuses beyond the grammar. -/
structure Strictness where
  /-- The deepest nesting of arrays and objects. -/
  maxDepth : Nat
  strict : Bool

/-- How deep arrays and objects may nest.  It is for the machine to say how much of its stack is
left; there is enough for an object without others in it. -/
structure Nesting where
  maxDepth : Nat
  object_fits : 0 < maxDepth

/-- Why a text has no value. -/
inductive ReadFault where
  | malformed
  /-- An array or an object stands too deep. -/
  | tooDeep (isArray : Bool)
  deriving DecidableEq, Repr

/-- A value read from a text, and what follows it. -/
abbrev Reading := Except ReadFault (Json × Text)

/-- The character that announces an unpaired surrogate in a text; its place among the surrogates
follows.  No JSON text holds this character as such. -/
def surrogateMark : Char := '\x00'

/-! ## Strings -/

/-- Four hexadecimal digits. -/
def unit? (a b c d : Char) : Option Nat := do
  let a ← Hex.digit? a
  let b ← Hex.digit? b
  let c ← Hex.digit? c
  let d ← Hex.digit? d
  return ((a * 16 + b) * 16 + c) * 16 + d

/-- The character that a one-letter escape stands for. -/
def escaped? (c : Char) : Option Char :=
  if c = '"' ∨ c = '\\' ∨ c = '/' then some c
  else if c = 'b' then some '\x08'
  else if c = 'f' then some '\x0C'
  else if c = 'n' then some '\n'
  else if c = 'r' then some '\r'
  else if c = 't' then some '\t'
  else none

/-- The number of a marked surrogate at a place, beyond those of all code points. -/
def markedUnit (place : Char) : Nat := 0x110000 + place.toNat

/-- The code points and surrogates up to the closing quote, and what follows it; `done` holds
those before, the latest first.  A marked surrogate, which makes no pair, has a number of its
own. -/
def readUnits? (strict : Bool) (done : List Nat) : Text → Option (List Nat × Text)
  | [] => none
  | '"' :: rest => some (done.reverse, rest)
  | '\\' :: 'u' :: a :: b :: c :: d :: rest =>
    match unit? a b c d with
    | some n => readUnits? strict (n :: done) rest
    | none => none
  | '\\' :: c :: rest =>
    match escaped? c with
    | some e => readUnits? strict (e.toNat :: done) rest
    | none => none
  | c :: rest =>
    if c = surrogateMark ∧ !strict then
      match rest with
      | [] => none
      | place :: rest => readUnits? strict (markedUnit place :: done) rest
    else if c.toNat < 0x20 ∨ c = '\\' then none
    else readUnits? strict (c.toNat :: done) rest

/-- The code point of a unit that makes no pair. -/
def singleOf (n : Nat) : CodePoint := CodePoint.ofNat (if n < 0x110000 then n else n - 0x102800)

/-- The code points of units, of which neighbouring surrogates make pairs. -/
def pointsOf : List Nat → CodeText
  | [] => []
  | [n] => [singleOf n]
  | n :: l :: rest =>
    if 0xD800 ≤ n ∧ n < 0xDC00 ∧ 0xDC00 ≤ l ∧ l < 0xE000 then
      .char (Char.ofNat (0x10000 + (n - 0xD800) * 0x400 + (l - 0xDC00))) :: pointsOf rest
    else singleOf n :: pointsOf (l :: rest)

/-- The text of a string, or its code points if a surrogate has no partner. -/
def textOrPoints (t : CodeText) : Except CodeText Text :=
  match t.text? with
  | some s => .ok s
  | none => .error t

/-- What a string stands for, after its opening quote, and what follows it. -/
def readString? (strict : Bool) (t : Text) : Option (Except CodeText Text × Text) :=
  (readUnits? strict [] t).map fun r => (textOrPoints (pointsOf r.1), r.2)

/-! ## Numbers -/

/-- The leading digits of a text, and the rest. -/
def digitsOf (t : Text) : Text × Text := (t.takeWhile Char.isDigit, t.dropWhile Char.isDigit)

/-- The digits of a fraction, if a dot with a digit behind it follows. -/
def fraction (t : Text) : Text × Text :=
  match t with
  | '.' :: rest => if (digitsOf rest).1 = [] then ([], t) else digitsOf rest
  | _ => ([], t)

def exponent? (t : Text) : Option Int × Text :=
  match t with
  | e :: rest =>
    if e = 'e' ∨ e = 'E' then
      let (negative, tail) := Decimal.signed rest
      let (digits, after) := digitsOf tail
      if digits = [] then (none, t)
      else (some (Decimal.withSign negative (Decimal.value digits)), after)
    else (none, t)
  | [] => (none, t)

/-- Whether a run of digits is no longer than a limit. -/
def fits (limit : Nat) (strict negative : Bool) (digits : Text) : Bool :=
  digits.length + (if strict && negative then 1 else 0) ≤ limit

/-- A number without its sign, whose digits are limited. -/
def readMagnitude? (limit : Nat) (strict negative : Bool) (t : Text) : Option (Json × Text) :=
  let (whole, rest) := match t with
    | '0' :: rest => (['0'], rest)
    | _ => digitsOf t
  if whole = [] then none
  else
    let (places, rest) := fraction rest
    let (power, rest) := exponent? rest
    if places = [] ∧ power.isNone then
      if fits limit strict negative whole then
        some (.int (Decimal.withSign negative (Decimal.value whole)), rest)
      else none
    else if strict && !fits limit strict negative whole then none
    else
      let digits := whole ++ places
      some (.real (Binary64.ofDecimal negative (Decimal.value digits) digits.length
        (power.getD 0 - places.length)), rest)

/-- A number, an infinity or no number. -/
def readNumber? (limit : Nat) (strict : Bool) (t : Text) : Option (Json × Text) :=
  match Text.without? "NaN".toList t with
  | some rest => some (.real .notNumber, rest)
  | none => match Text.without? "Infinity".toList t with
    | some rest => some (.real (.infinite false), rest)
    | none => match Text.without? "-Infinity".toList t with
      | some rest => some (.real (.infinite true), rest)
      | none => match t with
        | '-' :: rest => readMagnitude? limit strict true rest
        | _ => readMagnitude? limit strict false t

/-! ## Values -/

/-- The blanks between tokens. -/
def isGap (c : Char) : Bool := c = ' ' || c = '\n' || c = '\r' || c = '\t'

/-- `t` from its next token on. -/
def skipGaps (t : Text) : Text := t.dropWhile isGap

/-- A literal name or a number. -/
def readScalar? (limit : Nat) (strict : Bool) (t : Text) : Option (Json × Text) :=
  match Text.without? "null".toList t with
  | some rest => some (.null, rest)
  | none => match Text.without? "true".toList t with
    | some rest => some (.bool true, rest)
    | none => match Text.without? "false".toList t with
      | some rest => some (.bool false, rest)
      | none => readNumber? limit strict t

/-- A reading that may lack a value. -/
def orMalformed (r : Option (Json × Text)) : Reading :=
  match r with
  | some r => .ok r
  | none => .error .malformed

/-- The fields of an object with one more.  A field whose key has no text is left out. -/
def withField (strict : Bool) (key : Except CodeText Text) (value : Json)
    (done : List (Text × Json)) : List (Text × Json) :=
  match key with
  | .ok key => if strict then done ++ [(key, value)] else insertField key value done
  | .error _ => done

mutual

/-- The value at the start of a text and what follows it; arrays and objects nest at most `depth`
deep. -/
def readValue (limit : Nat) (s : Strictness) (depth : Nat) : (fuel : Nat) → Text → Reading
  | 0, _ => .error .malformed
  | _ + 1, '"' :: rest =>
    match readString? s.strict rest with
    | some (.ok t, rest) => .ok (.text t, rest)
    | some (.error points, rest) =>
      if s.strict then .error .malformed else .ok (.unpaired points, rest)
    | none => .error .malformed
  | fuel + 1, '[' :: rest =>
    if depth = 0 ∧ !s.strict then .error (.tooDeep true)
    else match skipGaps rest with
      | ']' :: rest => .ok (.array [], rest)
      | rest =>
        if depth = 0 then .error (.tooDeep true) else readItems limit s (depth - 1) fuel [] rest
  | fuel + 1, '{' :: rest =>
    if depth = 0 ∧ !s.strict then .error (.tooDeep false)
    else match skipGaps rest with
      | '}' :: rest => .ok (.object [], rest)
      | rest =>
        if depth = 0 then .error (.tooDeep false) else readFields limit s (depth - 1) fuel [] rest
  | _ + 1, t => orMalformed (readScalar? limit s.strict t)

/-- The items of an array from the next one on; `done` holds those before, the latest first. -/
def readItems (limit : Nat) (s : Strictness) (depth : Nat) :
    (fuel : Nat) → (done : List Json) → Text → Reading
  | 0, _, _ => .error .malformed
  | fuel + 1, done, t =>
    match readValue limit s depth fuel t with
    | .ok (j, rest) => match skipGaps rest with
      | ',' :: rest => readItems limit s depth fuel (j :: done) (skipGaps rest)
      | ']' :: rest => .ok (.array (j :: done).reverse, rest)
      | _ => .error .malformed
    | .error e => .error e

/-- The fields of an object from the next one on, `done` being those before. -/
def readFields (limit : Nat) (s : Strictness) (depth : Nat) :
    (fuel : Nat) → (done : List (Text × Json)) → Text → Reading
  | 0, _, _ => .error .malformed
  | fuel + 1, done, t =>
    match t with
    | '"' :: t => match readString? s.strict t with
      | some (key, rest) =>
        if !key.toBool && s.strict then .error .malformed
        else match skipGaps rest with
        | ':' :: rest => match readValue limit s depth fuel (skipGaps rest) with
          | .ok (j, rest) =>
            let done := withField s.strict key j done
            match skipGaps rest with
            | ',' :: rest => readFields limit s depth fuel done (skipGaps rest)
            | '}' :: rest => .ok (.object done, rest)
            | _ => .error .malformed
          | .error e => .error e
        | _ => .error .malformed
      | none => .error .malformed
    | _ => .error .malformed

end

/-- The value of a text that holds nothing else but blanks, by a reader of integers with a limited
number of digits. -/
def readWithin (limit : Nat) (s : Strictness) (t : Text) : Except ReadFault Json :=
  match readValue limit s s.maxDepth (2 * t.length + 2) (skipGaps t) with
  | .ok (j, rest) => if skipGaps rest = [] then .ok j else .error .malformed
  | .error e => .error e

/-- The value of a text that holds nothing else but blanks. -/
def read (s : Strictness) (t : Text) : Except ReadFault Json := readWithin Decimal.maxDigits s t

end SignedAccess.Json
