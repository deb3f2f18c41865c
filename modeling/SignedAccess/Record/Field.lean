import SignedAccess.Json
import SignedAccess.Record.Fault
import SignedAccess.Text.Blank
import SignedAccess.Text.Case
import SignedAccess.Time.Reading

/-!
# Fields of raw records

Main definitions:

* `Field.text`, `Field.string`, `Field.int`, `Field.bool`, `Field.instant` — readers of single
  values, liberal in the notations they take;
* `Field.optional`, `Field.list`, `Field.mapping` — readers made of readers;
* `Field.required`, `Field.withDefault` — a field of a record;
* `Field.record` — a record, which must be an object.
-/

namespace SignedAccess.Field

open Decoded

variable {α : Type}

/-! ## Single values -/

/-- A text.  A string with a surrogate that has no partner is none; `string` takes those as well. -/
def text : Json → Decoded Text
  | .text t => .ok t
  | _ => fault .stringType

/-- A string, in which surrogates may stand without their partners. -/
def string : Json → Decoded CodeText
  | .text t => .ok (.ofText t)
  | .unpaired t => .ok t
  | _ => fault .stringType

/-- A text of at least one character. -/
def nonempty : Json → Decoded { t : Text // t ≠ [] }
  | .text [] => fault .stringTooShort
  | .text (c :: rest) => .ok ⟨c :: rest, List.cons_ne_nil c rest⟩
  | .unpaired _ => fault .stringUnicode
  | _ => fault .stringType

/-- The magnitude from which on a number is too great for a machine word. -/
def realLimit : Nat := 0x8000000000000000

/-- An integer: a number without a fraction, a truth value as zero or one, or a text of one. -/
def int : Json → Decoded Int
  | .int n => .ok n
  | .bool b => .ok (if b then 1 else 0)
  | .real (.finite negative m e) =>
    if !Binary64.isWhole m e then fault .intFromFloat
    else if realLimit ≤ Binary64.wholePart m e then fault .intParsingSize
    else .ok (Binary64.finite negative m e).truncate
  | .real _ => fault .finiteNumber
  | .text t => match Decimal.readLoose t with
    | .ok n => .ok n
    | .error .tooLong => fault .intParsingSize
    | .error .malformed => fault .intParsing
  | .unpaired _ => fault .intParsing
  | _ => fault .intType

/-- The words for true and false. -/
def truthOf? (t : Text) : Option Bool :=
  let word := t.map Char.toLower
  if ["1", "on", "t", "true", "y", "yes"].any (fun w => w.toList = word) then some true
  else if ["0", "off", "f", "false", "n", "no"].any (fun w => w.toList = word) then some false
  else none

/-- The truth value of zero or one.  Other words of the machine count as notations of a truth value,
greater numbers do not. -/
def truthOfInt (n : Int) : Decoded Bool :=
  if n = 0 then .ok false
  else if n = 1 then .ok true
  else if -(realLimit : Int) ≤ n ∧ n < realLimit then fault .boolParsing
  else fault .boolType

/-- A truth value, as such, as zero or one, or as a word for it. -/
def bool : Json → Decoded Bool
  | .bool b => .ok b
  | .int n => truthOfInt n
  | .real (.finite negative m e) =>
    if Binary64.isWhole m e && Binary64.wholePart m e < realLimit then
      truthOfInt (Binary64.finite negative m e).truncate
    else fault .boolType
  | .real _ => fault .boolType
  | .text t => match truthOf? t with
    | some b => .ok b
    | none => fault .boolParsing
  | .unpaired _ => fault .boolParsing
  | _ => fault .boolType

/-- Whether an integer is beyond all doubles. -/
def isBeyondReals (n : Int) : Bool :=
  match Binary64.ofRatio false n.natAbs 1 with
  | .infinite _ => true
  | _ => false

/-- A date and time, in text or as a count of seconds or milliseconds since 1970. -/
def instant : Json → Decoded DateTime
  | .text t => match DateTime.read t with
    | .ok d => .ok d
    | .error .unreadable => fault .datetimeFromDateParsing
    | .error .yearZero => fault .datetimeParsing
  | .unpaired _ => fault .datetimeFromDateParsing
  | .int n => match DateTime.ofUnix n 0 with
    | .ok d => .ok d
    | .error _ => fault (if isBeyondReals n then .datetimeType else .datetimeParsing)
  | .real x => match DateTime.ofUnixReal x with
    | .ok d => .ok d
    | .error _ => fault .datetimeParsing
  | _ => fault .datetimeType

/-- A value that may be missing, which null says. -/
def optional (read : Json → Decoded α) : Json → Decoded (Option α)
  | .null => .ok none
  | j => match read j with
    | .ok a => .ok (some a)
    | .error e => .error e

/-! ## Lists and mappings -/

/-- The readings of items, each under its index. -/
def items (read : Json → Decoded α) (js : List Json) : List (Decoded α) :=
  js.mapIdx fun i j => under (Decimal.ofNat i) (read j)

def list (read : Json → Decoded α) : Json → Decoded (List α)
  | .array js => all (items read js)
  | _ => fault .listType

/-- A mapping from texts, in order. -/
def mapping (read : Json → Decoded α) : Json → Decoded (List (Text × α))
  | .object fields =>
    all (fields.map fun f => ap (.ok fun a => (f.1, a)) (under f.1 (read f.2)))
  | _ => fault .dictType

/-! ## Records -/

def required (fields : List (Text × Json)) (key : String) (read : Json → Decoded α) : Decoded α :=
  match Json.fieldOf? key.toList fields with
  | some j => under key.toList (read j)
  | none => under key.toList (fault .missing)

/-- A field that has a value of its own if it is not there. -/
def withDefault (fields : List (Text × Json)) (key : String) (default : α)
    (read : Json → Decoded α) : Decoded α :=
  match Json.fieldOf? key.toList fields with
  | some j => under key.toList (read j)
  | none => .ok default

def record (kind : RecordKind) (read : List (Text × Json) → Decoded α) :
    Json → Except Rejection α
  | .object fields => orReject kind (read fields)
  | _ => orReject kind (fault .modelType)

end SignedAccess.Field
