import SignedAccess.SignedUrl.Signing

/-!
# Signed URLs for strings that are no texts

The strings of a caller may hold surrogates without partners.  The checks look at them as at any
other character that they do not know.  What is signed has to be encoded, and a call whose request
holds a surrogate ends there, before anyone is asked to sign.

Main definitions:

* `CodeOptions` — options whose values are strings of code points;
* `CodeOptions.check` — the checks of such options;
* `CodeOptions.create` — the call that gives a signed URL under them.
-/

namespace SignedAccess

/-- Where the bucket of an object stands in a URL. -/
inductive CodeStyle where
  | path (endpoint : Option CodeText)
  | virtualHosted
  | boundHostname (hostname : CodeText)

namespace CodeStyle

def ofStyle : UrlStyle → CodeStyle
  | .path endpoint => .path (endpoint.map CodeText.ofText)
  | .virtualHosted => .virtualHosted
  | .boundHostname hostname => .boundHostname (.ofText hostname)

def shown : CodeStyle → UrlStyle
  | .path endpoint => .path (endpoint.map CodeText.shown)
  | .virtualHosted => .virtualHosted
  | .boundHostname hostname => .boundHostname hostname.shown

def hostStrings (bucket : CodeText) : CodeStyle → List CodeText
  | .path endpoint => endpoint.toList
  | .virtualHosted => [bucket]
  | .boundHostname hostname => [hostname]

def pathStrings (bucket object : CodeText) : CodeStyle → List CodeText
  | .path _ => [bucket, object]
  | .virtualHosted | .boundHostname _ => [object]

end CodeStyle

/-- What a signed URL allows, and who signs it, in strings of code points. -/
structure CodeOptions where
  accessId : CodeText
  privateKey : CodeText
  signBytes : Option SignFunction
  method : CodeText
  expires : Option DateTime
  contentType : CodeText
  headers : List CodeText
  queryParameters : List (CodeText × List CodeText)
  md5 : CodeText
  style : CodeStyle
  insecure : Bool

namespace CodeOptions

/-! ## Options of texts -/

def ofOptions (opts : SignedUrlOptions) : CodeOptions :=
  { accessId := .ofText opts.accessId
    privateKey := .ofText opts.privateKey
    signBytes := opts.signBytes
    method := .ofText opts.method
    expires := opts.expires
    contentType := .ofText opts.contentType
    headers := opts.headers.map CodeText.ofText
    queryParameters := opts.queryParameters.map fun p => (.ofText p.1, p.2.map CodeText.ofText)
    md5 := .ofText opts.md5
    style := .ofStyle opts.style
    insecure := opts.insecure }

/-- The options with a replacement character for every surrogate. -/
def shown (opts : CodeOptions) : SignedUrlOptions :=
  { accessId := opts.accessId.shown
    privateKey := opts.privateKey.shown
    signBytes := opts.signBytes
    method := opts.method.shown
    expires := opts.expires
    contentType := opts.contentType.shown
    headers := opts.headers.map CodeText.shown
    queryParameters := opts.queryParameters.map fun p => (p.1.shown, p.2.map CodeText.shown)
    md5 := opts.md5.shown
    style := opts.style.shown
    insecure := opts.insecure }

/-! ## Checks -/

/-- The checks of the options.  Neither a surrogate nor the character that is shown for it is part
of a method, a reserved name or a digest in base64, or blank, or changed with the case.  A refused
method is named as it is shown. -/
def check (opts : CodeOptions) (now : DateTime) : Except Error Unit := opts.shown.check now

/-! ## What is encoded -/

/-- Strings that are encoded must be texts. -/
def requireTexts (strings : List CodeText) : Except Error Unit :=
  if strings.all fun t => t.text?.isSome then .ok () else .error .unencodable

def signedHeaders (opts : CodeOptions) : List CodeText :=
  opts.headers.filter fun entry => (Header.ofEntry? entry.shown).isSome

/-- The strings that are encoded for the path and the query: those of the path, the account, the
names of headers, and the parameters that have a value. -/
def queryStrings (opts : CodeOptions) (bucket object : CodeText) : List CodeText :=
  opts.style.pathStrings bucket object ++ opts.accessId
    :: opts.signedHeaders.map (fun entry => entry.takeWhile (· ≠ .char ':'))
    ++ opts.queryParameters.flatMap fun p => if p.2 = [] then [] else p.1 :: p.2

/-- The strings that are encoded for the digest of the request: those of the host and of the
headers. -/
def headerStrings (opts : CodeOptions) (bucket : CodeText) : List CodeText :=
  opts.style.hostStrings bucket ++ opts.contentType :: opts.signedHeaders

/-! ## Signing -/

def signer (opts : CodeOptions) : Except Error Signer := do
  if opts.signBytes.isNone then requireTexts [opts.privateKey]
  opts.shown.signer

/-- The request to be signed and its signer, after all checks at the time of signing. -/
def prepare (opts : CodeOptions) (storage : StorageSettings) (bucket object : CodeText)
    (clock : DateTime) : Except Error (CanonicalRequest × Signer) := do
  let now ← SignedUrl.signingTime clock
  opts.check now
  requireTexts (opts.queryStrings bucket object)
  let request ← CanonicalRequest.build storage bucket.shown object.shown opts.shown now
  let signer ← opts.signer
  requireTexts (opts.headerStrings bucket)
  return (request, signer)

/-- The log entry for a URL that was signed. -/
def created (opts : CodeOptions) (bucket object : CodeText) (request : CanonicalRequest) :
    LogEntry :=
  { level := .info
    event := "signed_url.created".toList
    fields := [("bucket".toList, .ofPoints bucket), ("object".toList, .ofPoints object),
      ("method".toList, .text request.method), ("access_id".toList, .ofPoints opts.accessId)] }

/-- A URL that gives access to an object within the limits of the options. -/
def create (opts : CodeOptions) (storage : StorageSettings) (bucket object : CodeText)
    (clock : DateTime) : Call Bytes Text :=
  Call.after (opts.prepare storage bucket object clock) fun p =>
    SignedUrl.signLogged (opts.created bucket object p.1) opts.insecure p.1 p.2

end CodeOptions

end SignedAccess
