import SignedAccess.Text.Blank

/-!
# Decimal text of integers

Main definitions:

* `ofNat`, `ofInt` — the digits of a number, with a minus sign for a negative one;
* `value` — the number of a run of digits;
* `readPlain` — an integer in the notation of JSON;
* `readLoose` — an integer in the loose notation of form fields, with blanks around it, a plus sign,
  leading zeros, underscores between digits, and a fraction of zeros.
-/

namespace SignedAccess.Decimal

/-! ## Writing -/

/-- The decimal digits of a natural number. -/
def ofNat (n : Nat) : Text := Nat.toDigits 10 n

def ofInt : Int → Text
  | .ofNat n => ofNat n
  | .negSucc n => '-' :: ofNat (n + 1)

/-! ## Reading -/

def digitValue (c : Char) : Nat := c.toNat - '0'.toNat

/-- The number of a run of digits. -/
def value (digits : Text) : Nat := digits.foldl (fun n c => 10 * n + digitValue c) 0

/-- The digits of a text in which single underscores may stand between digits; none for any other
text. -/
def grouped? : Text → Option Text
  | [] => none
  | [c] => if c.isDigit then some [c] else none
  | c :: '_' :: d :: rest =>
    if c.isDigit then (grouped? (d :: rest)).map (c :: ·) else none
  | c :: rest => if c.isDigit then (grouped? rest).map (c :: ·) else none

/-- The most digits of an integer that is read or written. -/
def maxDigits : Nat := 4300

/-- The sign of a text and what follows it. -/
def signed : Text → Bool × Text
  | '-' :: rest => (true, rest)
  | '+' :: rest => (false, rest)
  | t => (false, t)

def withSign (negative : Bool) (n : Nat) : Int := if negative then -(n : Int) else n

/-! ## Loose notation -/

/-- Why a text is no integer. -/
inductive IntFault where
  | malformed
  | tooLong
  deriving DecidableEq, Repr

/-- An integer in the notation of JSON: digits without a leading zero, perhaps behind a minus sign.
Too many digits are told apart whatever follows them; a minus sign counts as one. -/
def readPlain (t : Text) : Except IntFault Int :=
  let (negative, rest) := match t with
    | '-' :: rest => (true, rest)
    | _ => (false, t)
  let digits := rest.takeWhile Char.isDigit
  if digits = [] then .error .malformed
  else if digits.head? = some '0' then if rest = ['0'] then .ok 0 else .error .malformed
  else if maxDigits < t.length - rest.length + digits.length then .error .tooLong
  else if digits.length = rest.length then .ok (withSign negative (value digits))
  else .error .malformed

/-- Whether an integer may begin with a character once its leading zeros are gone. -/
def isLeading (c : Char) : Bool := c = '-' || ('1' ≤ c && c ≤ '9')

/-- What is left behind leading zeros; `last` is the last of them.  Underscores may stand among
them, and a zero is kept in front of a point. -/
def behindZeros? (last : Char) : Text → Option Text
  | [] => some [last]
  | c :: rest =>
    if c = '0' ∨ c = '_' then behindZeros? c rest
    else if isLeading c then some (c :: rest)
    else if c = '.' then some (last :: c :: rest)
    else none

def withoutZeros? : Text → Option Text
  | [] => none
  | c :: rest =>
    if c = '0' then behindZeros? c rest else if isLeading c then some (c :: rest) else none

/-- A text without a plus sign in front, behind which no minus sign may stand. -/
def withoutPlus? (t : Text) : Option Text :=
  match t with
  | '+' :: rest => if rest.head? = some '-' then none else some rest
  | _ => some t

/-- The part of a number before a fraction of zeros; a dot must be followed by a zero. -/
def withoutZeroFraction? (t : Text) : Option Text :=
  match Text.cut? '.' t with
  | none => some t
  | some (whole, fraction) =>
    if fraction ≠ [] ∧ fraction.all (· = '0') then some whole else none

/-- Whether two underscores are neighbours. -/
def hasDoubleUnderscore : Text → Bool
  | '_' :: '_' :: _ => true
  | _ :: rest => hasDoubleUnderscore rest
  | [] => false

/-- A text without its underscores, if each stands alone within it. -/
def withoutUnderscores (t : Text) : Text :=
  if t.head? = some '_' ∨ t.getLast? = some '_' ∨ hasDoubleUnderscore t then t
  else t.filter (· ≠ '_')

/-- A text in loose notation as one in the notation of JSON. -/
def tidy? (t : Text) : Option Text := do
  let t ← withoutPlus? (Text.trimBoth Text.isSpace t)
  return withoutUnderscores (← withoutZeroFraction? (← withoutZeros? t))

/-- An integer in loose notation. -/
def readLoose (t : Text) : Except IntFault Int :=
  match readPlain t with
  | .error .malformed =>
    match tidy? t with
    | some t => readPlain t
    | none => .error .malformed
  | result => result

end SignedAccess.Decimal
