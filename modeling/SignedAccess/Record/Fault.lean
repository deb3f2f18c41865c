import SignedAccess.Number.Decimal

/-!
# Faults of raw records

A raw record is a JSON value.  Reading it collects every fault, each with the path of the field
in which it lies.

Main definitions:

* `FaultKind`, `Fault` — what is wrong, and where;
* `Rejection` — the faults of a record of a kind;
* `Decoded` — a value, or the faults that stood against it.
-/

namespace SignedAccess

/-- What is wrong with a field. -/
inductive FaultKind where
  | missing
  | extraForbidden
  | modelType
  | stringType
  | stringTooShort
  | stringUnicode
  | intType
  | intParsing
  | intParsingSize
  | intFromFloat
  | finiteNumber
  | boolType
  | boolParsing
  | listType
  | dictType
  | enumValue
  | callableType
  | datetimeType
  | datetimeParsing
  | datetimeFromDateParsing
  | jsonInvalid
  | valueError
  deriving DecidableEq, Repr

def FaultKind.code : FaultKind → Text
  | .missing => "missing".toList
  | .extraForbidden => "extra_forbidden".toList
  | .modelType => "model_type".toList
  | .stringType => "string_type".toList
  | .stringTooShort => "string_too_short".toList
  | .stringUnicode => "string_unicode".toList
  | .intType => "int_type".toList
  | .intParsing => "int_parsing".toList
  | .intParsingSize => "int_parsing_size".toList
  | .intFromFloat => "int_from_float".toList
  | .finiteNumber => "finite_number".toList
  | .boolType => "bool_type".toList
  | .boolParsing => "bool_parsing".toList
  | .listType => "list_type".toList
  | .dictType => "dict_type".toList
  | .enumValue => "enum".toList
  | .callableType => "callable_type".toList
  | .datetimeType => "datetime_type".toList
  | .datetimeParsing => "datetime_parsing".toList
  | .datetimeFromDateParsing => "datetime_from_date_parsing".toList
  | .jsonInvalid => "json_invalid".toList
  | .valueError => "value_error".toList

/-- A fault and the path to its field. -/
structure Fault where
  path : List Text
  kind : FaultKind
  deriving DecidableEq, Repr

/-- The text of a fault: its path and its code. -/
def Fault.message (f : Fault) : Text :=
  Text.joined ['.'] f.path ++ " [".toList ++ f.kind.code ++ [']']

inductive RecordKind where
  | options
  | pathStyle
  | virtualHostedStyle
  | boundHostname
  | canonicalRequest
  | claims
  | credentials
  | token
  | tokenResponse
  | authSettings
  | storageSettings
  | logSettings
  deriving DecidableEq, Repr

/-- The faults of a record. -/
structure Rejection where
  record : RecordKind
  faults : List Fault
  deriving DecidableEq, Repr

/-- The text of a rejection: the texts of its faults in order. -/
def Rejection.message (r : Rejection) : Text := Text.joined "; ".toList (r.faults.map Fault.message)

/-- A value, or the faults that stood against it. -/
abbrev Decoded (α : Type) := Except (List Fault) α

namespace Decoded

variable {α β : Type}

/-- A single fault at the place where reading stands. -/
def fault (kind : FaultKind) : Decoded α := .error [⟨[], kind⟩]

def under (key : Text) : Decoded α → Decoded α
  | .ok a => .ok a
  | .error faults => .error (faults.map fun f => { f with path := key :: f.path })

/-- A function applied to a value, with the faults of both. -/
def ap : Decoded (α → β) → Decoded α → Decoded β
  | .ok f, .ok a => .ok (f a)
  | .ok _, .error e => .error e
  | .error e, .ok _ => .error e
  | .error e₁, .error e₂ => .error (e₁ ++ e₂)

/-- A value on a further condition, with the faults of both. -/
def also (value : Decoded α) (condition : Decoded Unit) : Decoded α :=
  ap (value.map fun a _ => a) condition

/-- The values of a list, or the faults of all its members. -/
def all : List (Decoded α) → Decoded (List α)
  | [] => .ok []
  | d :: rest => ap (ap (.ok List.cons) d) (all rest)

def orReject (record : RecordKind) : Decoded α → Except Rejection α
  | .ok a => .ok a
  | .error faults => .error ⟨record, faults⟩

/-! ## Lemmas -/

theorem ap_eq_ok_iff {f : Decoded (α → β)} {d : Decoded α} {b : β} :
    ap f d = .ok b ↔ ∃ g a, f = .ok g ∧ d = .ok a ∧ g a = b := by
  cases f <;> cases d <;> simp [ap]

end Decoded

end SignedAccess
