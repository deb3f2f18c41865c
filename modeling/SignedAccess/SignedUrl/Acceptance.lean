import SignedAccess.Bytes.Base64
import SignedAccess.SignedUrl.CanonicalRequest

/-!
# Acceptance of options

Options are checked before anything is signed.  The checks have an order, and the first that
fails gives the reason.

Main definitions:

* `SignedUrlOptions.check` — all checks, at a given time;
* `require` — a single check.
-/

namespace SignedAccess

/-- A condition on the options, with the reason if it fails. -/
def require (holds : Bool) (reason : OptionReason) (detail : Option Text) : Except Error Unit :=
  if holds then .ok () else .error (.invalidOption reason detail)

theorem require_eq_ok_iff {holds : Bool} {reason : OptionReason} {detail : Option Text} {u : Unit} :
    require holds reason detail = .ok u ↔ holds = true := by
  cases holds <;> simp [require]

namespace SignedUrlOptions

/-! ## Limits -/

/-- The methods that a signed URL may allow. -/
def methods : List Text :=
  ["DELETE".toList, "GET".toList, "HEAD".toList, "POST".toList, "PUT".toList]

/-- The bytes of an MD5 digest. -/
def md5Size : Nat := 16

/-- The seconds from which on an end of validity is too far: seven days and one second. -/
def lifetimeCutoff : Nat := 604801

/-- The least seconds of validity. -/
def leastLifetime : Nat := 1

/-! ## Single checks -/

/-- Whether exactly one of the private key and the signing function is there. -/
def hasOneSigner (opts : SignedUrlOptions) : Bool :=
  decide (opts.privateKey = []) == opts.signBytes.isSome

/-- The MD5 digest, if there is one, is one in base64. -/
def checkMd5 (md5 : Text) : Except Error Unit :=
  if md5 = [] then .ok ()
  else match Base64.decodePadded? md5 with
    | none => .error (.invalidOption .invalidMd5 none)
    | some digest => require (digest.length = md5Size) .invalidMd5Length none

/-- Whether the name of a query parameter is one that is set by signing, in any case. -/
def isGeneratedKey (name : Text) : Bool :=
  (CanonicalRequest.generatedKeys.map Text.lower).contains (Text.lower name)

/-- No query parameter is one that is set by signing. -/
def checkParameters (parameters : List (Text × List Text)) : Except Error Unit :=
  match parameters.find? fun p => isGeneratedKey p.1 with
  | some p => .error (.invalidOption .reservedQueryParameter (some p.1))
  | none => .ok ()

/-- No header is one that is set by signing. -/
def checkHeaders (entries : List Text) : Except Error Unit :=
  let isGenerated (h : Header) : Bool := CanonicalRequest.generatedNames.contains h.name
  match (Header.sanitize entries).find? isGenerated with
  | some h => .error (.invalidOption .reservedHeader (some h.name))
  | none => .ok ()

/-! ## All checks -/

/-- The checks of the time of validity and of all that follows, both times being in UTC. -/
def checkFrom (opts : SignedUrlOptions) (now expires : DateTime) : Except Error Unit := do
  let remaining := expires.micros - now.micros
  require (decide ((leastLifetime * microsPerSecond : Nat) ≤ remaining)) .expiresInPast none
  checkMd5 opts.md5
  let cutoff ← now.later lifetimeCutoff
  require (decide (expires.micros < cutoff.micros)) .expiresTooFar none
  checkParameters opts.queryParameters
  checkHeaders opts.headers

def check (opts : SignedUrlOptions) (now : DateTime) : Except Error Unit := do
  require (decide (opts.accessId ≠ [])) .missingAccessId none
  require opts.hasOneSigner .signerRequired none
  require (methods.contains (Text.upper opts.method)) .invalidMethod (some opts.method)
  match opts.expires with
  | none => .error (.invalidOption .missingExpires none)
  | some expires => do
    let now ← now.utc
    let expires ← expires.utc
    checkFrom opts now expires

end SignedUrlOptions

end SignedAccess
