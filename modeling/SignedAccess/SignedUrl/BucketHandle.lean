import SignedAccess.Credentials
import SignedAccess.SignedUrl.Signing

/-!
# Buckets with credentials

Main definitions:

* `BucketHandle` — a bucket, and perhaps the credentials that sign for it;
* `BucketHandle.signedUrl` — a signed URL for one of its objects.
-/

namespace SignedAccess

/-- A bucket, and perhaps the credentials that sign for it. -/
structure BucketHandle where
  name : Text
  credentials : Option Credentials

/-- The options with the account and the private key of credentials in place of those that are
missing. -/
def SignedUrlOptions.completed (c : Credentials) (opts : SignedUrlOptions) :
    Except Error SignedUrlOptions :=
  let named := if opts.accessId = [] then { opts with accessId := c.clientEmail } else opts
  if opts.privateKey = [] ∧ opts.signBytes.isNone then
    c.requirePrivateKey.map fun key => { named with privateKey := key }
  else .ok named

namespace BucketHandle

def optionsFor (bucket : BucketHandle) (opts : SignedUrlOptions) : Except Error SignedUrlOptions :=
  match bucket.credentials with
  | some c => opts.completed c
  | none => .ok opts

def signedUrl (bucket : BucketHandle) (storage : StorageSettings) (object : Text)
    (opts : SignedUrlOptions) (now : DateTime) : Call Bytes Text :=
  Call.after (bucket.optionsFor opts) fun opts =>
    SignedUrl.create storage bucket.name object opts now

end BucketHandle

end SignedAccess
