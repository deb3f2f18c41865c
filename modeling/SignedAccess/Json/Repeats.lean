import SignedAccess.Json

/-!
# Objects with repeated keys

A strict reader keeps every field of an object.  Of the fields of one key in a nested object the
last counts.  In a record whose keys are sought one after the other each search begins behind the
field that was found last and goes once around, so that of the fields of one key it may find any; a
long record is indexed, and then the last counts again.

Main definitions:

* `Json.merged` — a value in whose objects no key comes twice;
* `Json.sought` — the fields that searches for keys in turn find.
-/

namespace SignedAccess.Json

/-! ## Nested objects -/

/-- Fields of which those that come later take the place of those before. -/
def mergeFields (fields : List (Text × Json)) : List (Text × Json) :=
  fields.foldl (fun done f => insertField f.1 f.2 done) []

mutual

/-- A value in whose objects no key comes twice. -/
def merged : Json → Json
  | .array items => .array (mergedItems items)
  | .object fields => .object (mergeFields (mergedFields fields))
  | j => j

def mergedItems : List Json → List Json
  | [] => []
  | j :: rest => merged j :: mergedItems rest

def mergedFields : List (Text × Json) → List (Text × Json)
  | [] => []
  | (key, j) :: rest => (key, merged j) :: mergedFields rest

end

/-! ## Searches in turn -/

/-- The most fields among which a key is sought one by one. -/
def searchLimit : Nat := 16

/-- The first field of a key when the search begins behind a position and goes once around, and
where it is. -/
def searchFrom? (fields : List (Text × Json)) (last : Nat) (key : Text) : Option (Nat × Json) :=
  let order := (List.range fields.length).map fun i => (last + 1 + i) % fields.length
  order.findSome? fun i => match fields[i]? with
    | some (k, j) => if k = key then some (i, j) else none
    | none => none

/-- The fields that searches for keys in turn find, the last search having ended at a position. -/
def soughtFrom (fields : List (Text × Json)) (last : Nat) : List Text → List (Text × Json)
  | [] => []
  | key :: keys => match searchFrom? fields last key with
    | some (i, j) => (key, j) :: soughtFrom fields i keys
    | none => soughtFrom fields last keys

/-- The fields that searches for keys in turn find. -/
def sought (fields : List (Text × Json)) (keys : List Text) : List (Text × Json) :=
  soughtFrom (if searchLimit < fields.length then mergeFields fields else fields) 0 keys

end SignedAccess.Json
