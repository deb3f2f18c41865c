import SignedAccess.Number.Binary64
import SignedAccess.Text.CodePoint

/-!
# JSON values

Object fields keep their order.  A string in which a surrogate has no partner has no text and is a
value of its own.

Main definitions:

* `Json` — a value;
* `Json.field?` — a field of an object;
* `Json.insertField` — a field set, in its first position if it was there before;
* `Json.isTruthy` — whether a value counts as true.
-/

namespace SignedAccess

inductive Json where
  | null
  | bool (b : Bool)
  | int (n : Int)
  | real (x : Binary64)
  | text (t : Text)
  | unpaired (t : CodeText)
  | array (items : List Json)
  | object (fields : List (Text × Json))

namespace Json

instance : Inhabited Json := ⟨.null⟩

def fieldOf? (key : Text) (fields : List (Text × Json)) : Option Json := fields.lookup key

def field? (key : Text) : Json → Option Json
  | .object fields => fieldOf? key fields
  | _ => none

/-- Sets a field.  A key that is there already keeps its position and takes the new value. -/
def insertField (key : Text) (value : Json) : List (Text × Json) → List (Text × Json)
  | [] => [(key, value)]
  | f :: rest => if f.1 = key then (key, value) :: rest else f :: insertField key value rest

/-- Whether a value counts as true: neither nothing nor zero nor empty. -/
def isTruthy : Json → Bool
  | .null | .bool false | .int 0 | .real (.finite _ 0 _) => false
  | .text [] | .array [] | .object [] => false
  | _ => true

/-- A text, or null for none. -/
def ofText? : Option Text → Json
  | some t => .text t
  | none => .null

/-- A string, whose surrogates may have no partners. -/
def ofPoints (t : CodeText) : Json :=
  match t.text? with
  | some s => .text s
  | none => .unpaired t

/-- An integer, or null for none. -/
def ofInt? : Option Int → Json
  | some n => .int n
  | none => .null

end Json

end SignedAccess
