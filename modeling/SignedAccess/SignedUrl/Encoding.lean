import SignedAccess.SignedUrl.NameTable
import SignedAccess.Text.Percent

/-!
# Paths and queries

Main definitions:

* `encodePath` — a path with all but its slashes percent-encoded where needed;
* `encodePairs` — named values as a query, in the order given;
* `encodeQuery` — named values as a query, by name.
-/

namespace SignedAccess.SignedUrl

/-- Whether a character stands in an encoded path as it is. -/
def isPathChar (c : Char) : Bool := Percent.isUnreserved c || c = '/'

/-- The percent-encoding of a path, whose slashes stay. -/
def encodePath (path : Text) : Text := Percent.encode isPathChar path

/-- The percent-encoding of a name or a value. -/
def encodePart (t : Text) : Text := Percent.encode Percent.isUnreserved t

/-- A named value in a query. -/
def encodePair (p : Text × Text) : Text := encodePart p.1 ++ '=' :: encodePart p.2

/-- Named values in a query, in the order given. -/
def encodePairs (pairs : List (Text × Text)) : Text := Text.joined ['&'] (pairs.map encodePair)

/-- Named values one by one. -/
def pairsOf (parameters : List (Text × List Text)) : List (Text × Text) :=
  parameters.flatMap fun p => p.2.map fun value => (p.1, value)

/-- The query of named values: by name, and the values of one name in their order. -/
def encodeQuery (parameters : List (Text × List Text)) : Text :=
  encodePairs (NameTable.ofPairs (pairsOf parameters)).pairs

/-! ## Lemmas -/

theorem encodePath_append (s t : Text) : encodePath (s ++ t) = encodePath s ++ encodePath t :=
  Percent.encode_append isPathChar s t

theorem pairsOf_append (ps qs : List (Text × List Text)) :
    pairsOf (ps ++ qs) = pairsOf ps ++ pairsOf qs :=
  List.flatMap_append

end SignedAccess.SignedUrl
