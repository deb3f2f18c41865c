import SignedAccess.Call
import SignedAccess.SignedUrl.Acceptance

/-!
# Signed URLs

Main definitions:

* `SignedUrlOptions.signer` — who signs under the options;
* `SignedUrl.prepare` — the request to be signed and its signer, after all checks;
* `SignedUrl.create` — the call that gives a signed URL.
-/

namespace SignedAccess

/-- Who signs under the options: the function if there is one, the private key otherwise. -/
def SignedUrlOptions.signer (opts : SignedUrlOptions) : Except Error Signer :=
  match opts.signBytes with
  | some f => .ok (.caller f)
  | none => (PrivateKey.loadText opts.privateKey).map .key

namespace SignedUrl

def created (bucket object : Text) (opts : SignedUrlOptions) (request : CanonicalRequest) :
    LogEntry :=
  { level := .info
    event := "signed_url.created".toList
    fields := [("bucket".toList, .text bucket), ("object".toList, .text object),
      ("method".toList, .text request.method), ("access_id".toList, .text opts.accessId)] }

/-- The time of signing: whole seconds in UTC. -/
def signingTime (now : DateTime) : Except Error DateTime := now.utc.map DateTime.floorSecond

/-- The request to be signed and its signer, after all checks at the time of signing. -/
def prepare (storage : StorageSettings) (bucket object : Text) (opts : SignedUrlOptions)
    (now : DateTime) : Except Error (CanonicalRequest × Signer) := do
  let now ← signingTime now
  opts.check now
  let request ← CanonicalRequest.build storage bucket object opts now
  let signer ← opts.signer
  return (request, signer)

/-- Signs a request.  A URL is logged, by the entry given, once it is signed. -/
def signLogged (entry : LogEntry) (insecure : Bool) (request : CanonicalRequest)
    (signer : Signer) : Call Bytes Text :=
  let message := Utf8.encode request.stringToSign
  match signer.sign message with
  | .ok signature => ⟨.ok (request.url insecure signature), [entry], signer.asked message⟩
  | .error e => ⟨.error e, [], signer.asked message⟩

def sign (bucket object : Text) (opts : SignedUrlOptions) (request : CanonicalRequest)
    (signer : Signer) : Call Bytes Text :=
  signLogged (created bucket object opts request) opts.insecure request signer

/-- A URL that gives access to an object within the limits of the options. -/
def create (storage : StorageSettings) (bucket object : Text) (opts : SignedUrlOptions)
    (now : DateTime) : Call Bytes Text :=
  Call.after (prepare storage bucket object opts now) fun p => sign bucket object opts p.1 p.2

end SignedUrl

end SignedAccess
