import SignedAccess.Bytes.Hex
import SignedAccess.SignedUrl.Encoding
import SignedAccess.SignedUrl.Header
import SignedAccess.SignedUrl.Options

/-!
# Canonical requests

The request that a signed URL stands for, in the one form over which it is signed.

Main definitions:

* `CanonicalRequest` — the parts of the form;
* `CanonicalRequest.render` — its text;
* `CanonicalRequest.stringToSign` — the text that is signed: algorithm, time, scope and the digest
  of the form;
* `CanonicalRequest.build` — the request for an object under options;
* `CanonicalRequest.url` — the URL that carries a signature.
-/

namespace SignedAccess

open SignedUrl (encodePath encodeQuery)

structure CanonicalRequest where
  method : Text
  /-- The encoded path, which begins with a slash. -/
  path : Text
  /-- The encoded query. -/
  query : Text
  /-- The lines of the headers, in order. -/
  headers : List Text
  /-- The names of the headers. -/
  signedHeaders : Text
  /-- The digest of the body, or a mark that there is none. -/
  payloadHash : Text
  host : Text
  timestamp : Text
  credentialScope : Text
  deriving DecidableEq, Repr

namespace CanonicalRequest

/-! ## Fixed parts -/

def algorithm : Text := "GOOG4-RSA-SHA256".toList
def unsignedPayload : Text := "UNSIGNED-PAYLOAD".toList
def payloadHashHeader : Text := "x-goog-content-sha256".toList
def scopeEnd : Text := "auto/storage/goog4_request".toList

def algorithmKey : Text := "X-Goog-Algorithm".toList
def credentialKey : Text := "X-Goog-Credential".toList
def dateKey : Text := "X-Goog-Date".toList
def expiresKey : Text := "X-Goog-Expires".toList
def signedHeadersKey : Text := "X-Goog-SignedHeaders".toList
def signatureKey : Text := "X-Goog-Signature".toList

/-- The query parameters that are set by signing. -/
def generatedKeys : List Text :=
  [algorithmKey, credentialKey, dateKey, expiresKey, signedHeadersKey, signatureKey]

def hostName : Text := "host".toList
def contentTypeName : Text := "content-type".toList
def contentMd5Name : Text := "content-md5".toList

/-- The headers that are set by signing. -/
def generatedNames : List Text := [hostName, contentTypeName, contentMd5Name]

/-! ## Texts -/

/-- The canonical form: one part a line, with an empty line behind the headers. -/
def render (r : CanonicalRequest) : Text :=
  Text.joined ['\n'] [r.method, r.path, r.query, Text.joined ['\n'] r.headers ++ ['\n'],
    r.signedHeaders, r.payloadHash]

/-- The digest of the canonical form. -/
def digest (r : CanonicalRequest) : Text := Hex.encode (Sha256.digest (Utf8.encode r.render))

def stringToSign (r : CanonicalRequest) : Text :=
  Text.joined ['\n'] [algorithm, r.timestamp, r.credentialScope, r.digest]

def url (insecure : Bool) (signature : Bytes) (r : CanonicalRequest) : Text :=
  (if insecure then "http".toList else "https".toList) ++ "://".toList ++ r.host ++ r.path
    ++ '?' :: r.query ++ '&' :: signatureKey ++ '=' :: Hex.encode signature

/-! ## Building a request -/

/-- The scope of a credential on the day of `now`, which is in UTC. -/
def scope (now : DateTime) : Text := now.dayStamp ++ '/' :: scopeEnd

/-- The headers of a request: those of the caller and those set by signing, by name. -/
def headersOf (host : Text) (opts : SignedUrlOptions) : List Header :=
  let withHost := Header.insert ⟨hostName, host⟩ (Header.sanitize opts.headers)
  let withType :=
    if opts.contentType = [] then withHost
    else Header.insert ⟨contentTypeName, Text.trim opts.contentType⟩ withHost
  if opts.md5 = [] then withType else Header.insert ⟨contentMd5Name, Text.trim opts.md5⟩ withType

/-- The names of headers, as they are signed. -/
def namesOf (headers : List Header) : Text := Text.joined [';'] (headers.map Header.name)

/-- The digest of the body that the caller's headers announce. -/
def payloadHashOf (entries : List Text) : Text :=
  (Header.value? payloadHashHeader (Header.sanitize entries)).getD unsignedPayload

/-- Whole seconds from `now` to the end of validity. -/
def lifetime (expires now : DateTime) : Int := wholeSeconds (expires.micros - now.micros)

/-- The query parameters that are set by signing, but for the signature. -/
def generatedParameters (accessId signedHeaders : Text) (now : DateTime) (seconds : Int) :
    List (Text × List Text) :=
  [(algorithmKey, [algorithm]), (credentialKey, [accessId ++ '/' :: scope now]),
   (dateKey, [now.stamp]), (expiresKey, [Decimal.ofInt seconds]),
   (signedHeadersKey, [signedHeaders])]

/-- The request for an object at `now`, both times being in UTC. -/
def ofUtc (host bucket object : Text) (opts : SignedUrlOptions) (now expires : DateTime) :
    CanonicalRequest :=
  let headers := headersOf host opts
  let signedHeaders := namesOf headers
  { method := Text.upper opts.method
    path := '/' :: encodePath (opts.style.resourcePath bucket object)
    query := encodeQuery
      (generatedParameters opts.accessId signedHeaders now (lifetime expires now)
        ++ opts.queryParameters)
    headers := headers.map Header.line
    signedHeaders := signedHeaders
    payloadHash := payloadHashOf opts.headers
    host := host
    timestamp := now.stamp
    credentialScope := scope now }

/-- The request for an object under options that have an end of validity. -/
def build (storage : StorageSettings) (bucket object : Text) (opts : SignedUrlOptions)
    (now : DateTime) : Except Error CanonicalRequest :=
  match opts.expires with
  | none => .error .unvalidated
  | some expires => do
    let now ← now.utc
    let expires ← expires.utc
    return ofUtc (opts.style.host storage bucket) bucket object opts now expires

/-! ## Raw records -/

/-- A request of a raw record. -/
def read : Json → Except Rejection CanonicalRequest :=
  Field.record .canonicalRequest fun fields =>
    let text (key : String) : Decoded Text := Field.required fields key Field.text
    let start : Decoded _ := .ok CanonicalRequest.mk
    start
      |>.ap (text "method")
      |>.ap (text "path")
      |>.ap (text "query")
      |>.ap (Field.required fields "headers" (Field.list Field.text))
      |>.ap (text "signed_headers")
      |>.ap (text "payload_hash")
      |>.ap (text "host")
      |>.ap (text "timestamp")
      |>.ap (text "credential_scope")

end CanonicalRequest

end SignedAccess
