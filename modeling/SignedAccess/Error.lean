import SignedAccess.Endpoint.Redirect
import SignedAccess.Record.Fault
import SignedAccess.Text.Charset
import SignedAccess.Text.Quoted
import SignedAccess.Time.DateTime

/-!
# Errors

Main definitions:

* `OptionReason` — why the options of a signed URL are refused;
* `SigningFault` — why there is no signature;
* `SettingsFault` — why there are no settings;
* `Error` — every way in which a call of the library fails;
* `Error.message` — its text;
* `ErrorKind` — the kinds of errors, each below its parent;
* `DateTime.utc`, `DateTime.later` — times, or the error that they leave the calendar.
-/

namespace SignedAccess

/-! ## Causes -/

/-- Why the options of a signed URL are refused, in the order in which they are checked. -/
inductive OptionReason where
  | missingAccessId
  | signerRequired
  | invalidMethod
  | missingExpires
  | expiresInPast
  | invalidMd5
  | invalidMd5Length
  | expiresTooFar
  | reservedQueryParameter
  | reservedHeader
  deriving DecidableEq, Repr

def OptionReason.message : OptionReason → Text
  | .missingAccessId => "storage: missing required GoogleAccessID".toList
  | .signerRequired => "storage: exactly one of PrivateKey or SignBytes must be set".toList
  | .invalidMethod => "storage: invalid HTTP method".toList
  | .missingExpires => "storage: missing required expires option".toList
  | .expiresInPast => "storage: expires must be in the future".toList
  | .invalidMd5 => "storage: invalid MD5 checksum".toList
  | .invalidMd5Length => "storage: invalid MD5 checksum length".toList
  | .expiresTooFar => "storage: expires must be within seven days from now".toList
  | .reservedQueryParameter => "storage: query parameter is reserved for signing".toList
  | .reservedHeader => "storage: header is generated for signing".toList

/-- Why there is no signature. -/
inductive SigningFault where
  /-- The private key cannot be read. -/
  | unreadableKey
  /-- The private key is of another algorithm. -/
  | notRsa
  /-- The modulus is too short for the digest. -/
  | keyTooShort
  /-- The claims of a token cannot be signed. -/
  | claims
  /-- The caller's function failed. -/
  | functionFailed
  /-- The caller's function returned no signature. -/
  | noSignature
  /-- The caller's function reported a signing error of its own. -/
  | reported (message : Text)
  deriving DecidableEq, Repr

def SigningFault.message : SigningFault → Text
  | .unreadableKey => "unable to parse private key".toList
  | .notRsa => "private key is not an RSA key".toList
  | .keyTooShort => "RSA signing failed".toList
  | .claims => "unable to sign JWT claims".toList
  | .functionFailed => "custom signing function failed".toList
  | .noSignature => "custom signing function returned no signature".toList
  | .reported message => message

/-- Why no settings can be read from the sources that the caller names. -/
inductive SettingsFault where
  /-- A name of a source is of the wrong kind. -/
  | wrongKind
  /-- A source gives no values. -/
  | unusableSource
  deriving DecidableEq, Repr

def SettingsFault.message : SettingsFault → Text
  | .wrongKind => "the name of a source of settings is of the wrong kind".toList
  | .unusableSource => "a source of settings gives no values".toList

/-- Every way in which a call fails. -/
inductive Error where
  /-- The options of a signed URL are refused. -/
  | invalidOption (reason : OptionReason) (detail : Option Text)
  /-- The options were not validated before a request was built from them. -/
  | unvalidated
  /-- A time leaves the calendar. -/
  | time (fault : TimeFault)
  /-- A record breaks its rules. -/
  | rejected (rejection : Rejection)
  /-- There are no settings. -/
  | settings (fault : SettingsFault)
  /-- The credentials of an account carry no private key. -/
  | missingPrivateKey (account : Text)
  /-- There is no token source for credentials of a type. -/
  | unsupportedCredentials (type : Text)
  /-- The exchange needs a client. -/
  | clientRequired
  /-- Delegation needs scopes. -/
  | delegationNeedsScopes
  /-- There are neither scopes nor an audience. -/
  | audienceRequired
  /-- The URL of the token endpoint is malformed. -/
  | malformedUrl (url : Text)
  /-- The URL of the token endpoint, or one to which it redirects, cannot be used. -/
  | unusableUrl (fault : UrlUseFault)
  /-- The answer of the token endpoint has a header beyond ASCII. -/
  | headerBeyondAscii
  /-- There is no signature. -/
  | signing (fault : SigningFault)
  /-- The program was interrupted while a function of the caller signed. -/
  | interrupted
  /-- A text has no encoding, as a surrogate stands in it without its partner. -/
  | unencodable
  /-- The key is of a kind that signs nothing: a public key, or one for agreeing on a secret. -/
  | cannotSign
  /-- The algorithm or the curve of the key is not supported. -/
  | unsupportedKey
  /-- The key has not the size that its algorithm asks for. -/
  | wrongKeySize
  /-- The token endpoint cannot be reached. -/
  | unreachable (url : Text)
  /-- The token endpoint answered with a status that is no success. -/
  | refused (status : Int) (body : Text)
  /-- The answer of the token endpoint cannot be read. -/
  | malformedResponse
  /-- The answer is no success, and has no text. -/
  | charset (fault : CharsetFault)
  /-- Arrays or objects of the answer nest too deep; it is an array or an object that was one too
  many. -/
  | nestedTooDeep (isArray : Bool)
  /-- The reported lifetime leads out of the calendar. -/
  | invalidLifetime
  /-- The client failed in a way that is no transport error. -/
  | client (message : Text)
  deriving DecidableEq, Repr

def CharsetFault.message : CharsetFault → Text
  | .undecodable => "the character set has no decoder".toList
  | .unmarked => "the byte order is not marked".toList
  | .tooLong => "pending buffer overflow".toList
  | .broken => "internal codec error".toList
  | .beyondAscii => "the digits are not in ASCII".toList
  | .ofBytes => "the encoding is one of bytes".toList
  | .ofTexts => "the encoding is one of texts".toList
  | .nulInName => "embedded null character".toList
  | .unordered => "some parts are not numbered".toList

def HostName.Fault.message : HostName.Fault → Text
  | .form => "not the form of a host name".toList
  | .character => "a character that no host name holds".toList
  | .place => "a character that a host name does not hold there".toList
  | .direction => "directions of writing that do not go together".toList

def UrlUseFault.message : UrlUseFault → Text
  | .hostName fault => fault.message
  | .beyondAscii => "the host is not in ASCII".toList
  | .brackets => "the brackets do not hold an address".toList
  | .target fault => fault.message

/-! ## Kinds -/

/-- The kinds of the library's own errors. -/
inductive ErrorKind where
  | base
  | configuration
  | invalidOption
  | missingPrivateKey
  | unsupportedCredentials
  | invalidRequest
  | signing
  | transport
  | tokenEndpoint
  | tokenResponse
  deriving DecidableEq, Repr

namespace ErrorKind

/-- The kinds above a kind, the nearest first. -/
def ancestors : ErrorKind → List ErrorKind
  | .base => []
  | .configuration | .signing | .transport => [.base]
  | .invalidOption | .missingPrivateKey | .unsupportedCredentials | .invalidRequest =>
    [.configuration, .base]
  | .tokenEndpoint | .tokenResponse => [.transport, .base]

end ErrorKind

namespace Error

/-- The kind of an error; none for a failure that is not one of the library's own. -/
def kind? : Error → Option ErrorKind
  | .invalidOption .. => some .invalidOption
  | .missingPrivateKey _ => some .missingPrivateKey
  | .unsupportedCredentials _ => some .unsupportedCredentials
  | .clientRequired | .delegationNeedsScopes | .audienceRequired => some .configuration
  | .malformedUrl _ => some .invalidRequest
  | .signing _ => some .signing
  | .unreachable _ => some .transport
  | .refused .. => some .tokenEndpoint
  | .malformedResponse | .invalidLifetime => some .tokenResponse
  | .unvalidated | .time _ | .rejected _ | .settings _ | .unusableUrl _ | .headerBeyondAscii
  | .interrupted | .unencodable | .cannotSign | .unsupportedKey | .wrongKeySize | .charset _
  | .nestedTooDeep _ | .client _ => none

/-! ## Texts -/

def optionMessage (reason : OptionReason) : Option Text → Text
  | none => reason.message
  | some detail => reason.message ++ ": ".toList ++ detail

/-- The text of an answer that is no success. -/
def refusedMessage (status : Int) (body : Text) : Text :=
  "token endpoint returned HTTP ".toList ++ Decimal.ofInt status ++ ": ".toList ++ body

def message : Error → Text
  | .invalidOption reason detail => optionMessage reason detail
  | .unvalidated => "options must be validated before signing".toList
  | .time .outOfRange => "date value out of range".toList
  | .time .firstDay => "year 0 is out of range".toList
  | .rejected rejection => rejection.message
  | .settings fault => fault.message
  | .missingPrivateKey account =>
    "credentials for ".toList ++ (if account = [] then "unknown account".toList else account)
      ++ " carry no private key".toList
  | .unsupportedCredentials type =>
    "no token source for credential type ".toList ++ Text.quoted type
  | .clientRequired => "an HTTP client is required for the OAuth2 exchange".toList
  | .delegationNeedsScopes => "delegation requires scopes and the OAuth2 exchange".toList
  | .audienceRequired => "either scopes or an audience must be given".toList
  | .malformedUrl url => "malformed token endpoint URL ".toList ++ Text.quoted url
  | .unusableUrl fault => fault.message
  | .headerBeyondAscii => "a header of the answer is not in ASCII".toList
  | .signing fault => fault.message
  | .interrupted => []
  | .unencodable => "a surrogate cannot be encoded".toList
  | .cannotSign => "a key of this kind cannot sign".toList
  | .unsupportedKey => "the algorithm of the key is not supported".toList
  | .wrongKeySize => "the key has not the size of its algorithm".toList
  | .unreachable url => "cannot reach token endpoint ".toList ++ url
  | .refused status body => refusedMessage status body
  | .charset fault => fault.message
  | .nestedTooDeep isArray =>
    "maximum recursion depth exceeded while decoding a JSON ".toList
      ++ (if isArray then "array" else "object").toList ++ " from a unicode string".toList
  | .malformedResponse => "malformed token endpoint response".toList
  | .invalidLifetime => "token endpoint reported an invalid expires_in".toList
  | .client message => message

end Error

/-! ## Times -/

/-- A time, or the error that it leaves the calendar. -/
def Error.ofTime? (t : Option DateTime) : Except Error DateTime :=
  match t with
  | some t => .ok t
  | none => .error (.time .outOfRange)

/-- The same instant as a reading in UTC. -/
def DateTime.utc (t : DateTime) : Except Error DateTime := Error.ofTime? t.utc?

/-- The reading `seconds` later on the same clock. -/
def Moment.later (m : Moment) (seconds : Int) : Except Error DateTime :=
  Error.ofTime? (m.shift? (seconds * microsPerSecond))

/-- The reading `seconds` later on a clock that keeps its offset. -/
def DateTime.later (t : DateTime) (seconds : Int) : Except Error DateTime := t.steady.later seconds

end SignedAccess
