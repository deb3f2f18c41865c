import SignedAccess.Settings

/-!
# URL styles

Where the bucket of an object stands in a URL.

Main definitions:

* `UrlStyle` — the styles;
* `UrlStyle.host`, `UrlStyle.resourcePath` — the host and the path of an object;
* `UrlStyle.decode` — a style from a raw record that does not name it.
-/

namespace SignedAccess

/-- Where the bucket of an object stands in a URL. -/
inductive UrlStyle where
  /-- In front of the path, on the storage host or on an endpoint of its own. -/
  | path (endpoint : Option Text)
  /-- In front of the storage host. -/
  | virtualHosted
  /-- Nowhere: a host name is bound to the bucket. -/
  | boundHostname (hostname : Text)
  deriving DecidableEq, Repr

namespace UrlStyle

/-! ## Host and path -/

/-- The host of a bucket.  An empty endpoint counts as none. -/
def host (storage : StorageSettings) (bucket : Text) : UrlStyle → Text
  | .path endpoint =>
    match endpoint with
    | none | some [] => storage.host
    | some host => host
  | .virtualHosted => bucket ++ '.' :: storageHostDefault
  | .boundHostname hostname => hostname

/-- The path of an object, not encoded and without a slash in front. -/
def resourcePath (bucket object : Text) : UrlStyle → Text
  | .path _ => bucket ++ '/' :: object
  | .virtualHosted => object
  | .boundHostname _ => object

/-! ## Raw records -/

def decodePath (fields : List (Text × Json)) : Decoded UrlStyle :=
  (Field.withDefault fields "endpoint" none (Field.optional Field.text)).map .path

/-- The style of a bound host name, from the fields of a record. -/
def decodeBoundHostname (fields : List (Text × Json)) : Decoded UrlStyle :=
  (Field.required fields "hostname" Field.text).map .boundHostname

def readPath : Json → Except Rejection UrlStyle := Field.record .pathStyle decodePath

def readVirtualHosted : Json → Except Rejection UrlStyle :=
  Field.record .virtualHostedStyle fun _ => .ok .virtualHosted

/-- A record of the style of a bound host name. -/
def readBoundHostname : Json → Except Rejection UrlStyle :=
  Field.record .boundHostname decodeBoundHostname

/-- The faults of a value that is no record: one for each style. -/
def noRecord : List Fault :=
  ["PathStyle", "VirtualHostedStyle", "BucketBoundHostname"].map fun style =>
    ⟨[style.toList], .modelType⟩

/-- A style from a record that does not name it.  Of the styles without faults the one that uses
a field of the record is taken, the path style first. -/
def decode : Json → Decoded UrlStyle
  | .object fields =>
    match decodePath fields, decodeBoundHostname fields with
    | .ok style, .ok other =>
      .ok (if (Json.fieldOf? "endpoint".toList fields).isSome then style else other)
    | .ok style, .error _ => .ok style
    | .error _, .ok other => .ok other
    | .error _, .error _ => .ok .virtualHosted
  | _ => .error noRecord

end UrlStyle

end SignedAccess
