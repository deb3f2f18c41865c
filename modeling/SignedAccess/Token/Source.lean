import SignedAccess.Credentials
import SignedAccess.Endpoint.Exchange
import SignedAccess.Settings
import SignedAccess.Token.Jwt

/-!
# Sources of tokens

A source makes tokens out of the credentials of a service account, a fresh one for every call.

Main definitions:

* `SelfSignedSource` — signs its own tokens;
* `ExchangeSource` — exchanges signed assertions for tokens at an endpoint;
* `TokenSource.create` — the source that fits credentials and a request for access;
* `ExchangeSource.tokens` — the calls of a source one after the other.
-/

namespace SignedAccess

/-! ## Self-signed tokens -/

/-- A source that signs its own tokens. -/
structure SelfSignedSource where
  email : Text
  key : PrivateKey
  keyId : Text
  audience : Text
  deriving DecidableEq, Repr

namespace SelfSignedSource

/-- The source of credentials.  An audience of the credentials goes before the one that is asked
for. -/
def ofCredentials (c : Credentials) (audience : Text) : Except Error SelfSignedSource := do
  let key ← PrivateKey.loadText (← c.requirePrivateKey)
  let audience := match c.audience with
    | none | some [] => audience
    | some own => own
  return ⟨c.clientEmail, key, c.privateKeyId, audience⟩

/-- The log entry for a token that was signed. -/
def selfSigned (s : SelfSignedSource) : LogEntry :=
  ⟨.debug, "token.self_signed".toList,
    [("issuer".toList, .text s.email), ("audience".toList, .text s.audience)]⟩

/-- The claims of a token that is signed at a given time. -/
def claims (s : SelfSignedSource) (now : DateTime) : Except Error Claims :=
  Claims.issue s.email s.audience now.steady (some s.email) none

/-- The claims as a signed token, which has text. -/
def signed (s : SelfSignedSource) (claims : Claims) : Except Error { t : Text // t ≠ [] } :=
  match h : Jwt.sign claims s.key s.keyId with
  | .ok jwt => .ok ⟨jwt, Jwt.ne_nil_of_sign h⟩
  | .error e => .error e

/-- A token. -/
def token (s : SelfSignedSource) (now : DateTime) : Call TokenRequest Token :=
  Call.after (s.claims now >>= s.signed) fun jwt =>
    ⟨(now.later Claims.lifetime).map fun expiry => Token.ofText jwt Token.bearer (some expiry) none,
      [s.selfSigned], []⟩

end SelfSignedSource

/-! ## Exchanged tokens -/

/-- A source that exchanges signed assertions for tokens at an endpoint. -/
structure ExchangeSource where
  email : Text
  /-- The principal on whose behalf access is asked for. -/
  delegate : Option Text
  key : PrivateKey
  keyId : Text
  scopes : Text
  tokenUrl : Text
  deriving DecidableEq, Repr

namespace ExchangeSource

/-- The source of credentials.  An endpoint of the credentials goes before the one of the
settings. -/
def ofCredentials (c : Credentials) (scopes : Text) (delegate : Option Text)
    (settings : AuthSettings) : Except Error ExchangeSource := do
  let key ← PrivateKey.loadText (← c.requirePrivateKey)
  let tokenUrl := match c.tokenUri with
    | none | some [] => settings.tokenUrl
    | some own => own
  return ⟨c.clientEmail, delegate, key, c.privateKeyId, scopes, tokenUrl⟩

/-- The claims of an assertion that is signed at a given time. -/
def claims (s : ExchangeSource) (now : DateTime) : Except Error Claims :=
  Claims.issue s.email s.tokenUrl now.steady s.delegate (some s.scopes)

def assertion (s : ExchangeSource) (now : DateTime) : Except Error Text := do
  Jwt.sign (← s.claims now) s.key s.keyId

/-- A token, by what the endpoint does if it is asked. -/
def token (nesting : Json.Nesting) (s : ExchangeSource) (now : DateTime) (reply : EndpointReply) :
    Call TokenRequest Token :=
  Call.after (s.assertion now) fun assertion =>
    Exchange.run nesting s.tokenUrl assertion now.steady reply

/-- The calls of a source one after the other at the readings of a clock.  A request gets the reply
next in turn; `asked` tells how many requests went before. -/
def tokens (nesting : Json.Nesting) (s : ExchangeSource) (reply : Nat → EndpointReply)
    (asked : Nat) : List DateTime → List (Call TokenRequest Token)
  | [] => []
  | now :: rest =>
    let call := s.token nesting now (reply asked)
    call :: tokens nesting s reply (asked + call.sent.length) rest

end ExchangeSource

/-! ## Choice of a source -/

inductive TokenSource where
  | selfSigned (source : SelfSignedSource)
  | exchange (source : ExchangeSource)
  deriving DecidableEq, Repr

namespace TokenSource

structure Access where
  scopes : Option Text
  audience : Option Text
  delegate : Option Text
  /-- Whether there is a client that can reach an endpoint. -/
  hasClient : Bool
  deriving DecidableEq, Repr

/-- Whether a text is missing or empty. -/
def isUnset (t : Option Text) : Bool := (t.getD []).isEmpty

/-- The source for credentials.  With scopes tokens are exchanged, without they are signed for an
audience. -/
def create (c : Credentials) (access : Access) (settings : AuthSettings) :
    Except Error TokenSource :=
  if c.type ≠ Credentials.serviceAccount then .error (.unsupportedCredentials c.type)
  else if !isUnset access.scopes then
    if access.hasClient then
      (ExchangeSource.ofCredentials c (access.scopes.getD []) access.delegate settings).map
        .exchange
    else .error .clientRequired
  else if !isUnset access.delegate then .error .delegationNeedsScopes
  else if isUnset access.audience && isUnset c.audience then .error .audienceRequired
  else (SelfSignedSource.ofCredentials c (access.audience.getD [])).map .selfSigned

end TokenSource

end SignedAccess
