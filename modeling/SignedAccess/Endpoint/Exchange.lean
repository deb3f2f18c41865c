import SignedAccess.Call
import SignedAccess.Endpoint.Url
import SignedAccess.Json.Bytes
import SignedAccess.Text.ContentType
import SignedAccess.Token

/-!
# Exchange of assertions for tokens

A signed assertion is posted to a token endpoint, which answers with a token.

Main definitions:

* `TokenRequest` — what is posted;
* `EndpointReply` — what the endpoint does with it;
* `Exchange.outcome` — the token that an answer gives, or the error, and what is logged;
* `Exchange.run` — the whole call.
-/

namespace SignedAccess

/-- What is posted to a token endpoint. -/
structure TokenRequest where
  url : Text
  body : Text
  deriving DecidableEq, Repr

namespace TokenRequest

def method : Text := "POST".toList

def contentType : Text := "application/x-www-form-urlencoded".toList

def grantType : Text := "urn:ietf:params:oauth:grant-type:jwt-bearer".toList

/-- A character of a form value. -/
def encodeFormChar (c : Char) : Text :=
  if c = ' ' then ['+'] else Percent.encodeChar Percent.isUnreserved c

def encodeFormValue (t : Text) : Text := t.flatMap encodeFormChar

/-- Named values as a form. -/
def encodeForm (pairs : List (Text × Text)) : Text :=
  Text.joined ['&'] (pairs.map fun p => encodeFormValue p.1 ++ '=' :: encodeFormValue p.2)

def ofAssertion (url : Url) (assertion : Text) : TokenRequest :=
  ⟨url.text, encodeForm [("grant_type".toList, grantType), ("assertion".toList, assertion)]⟩

end TokenRequest

/-- What an endpoint does with a request. -/
inductive EndpointReply where
  /-- It answers. -/
  | answer (status : Int) (headers : List (Text × Text)) (body : Bytes)
  /-- It cannot be reached, or answers with what is not understood. -/
  | transportError (message : Text)
  /-- The client fails in some other way. -/
  | clientFailure (message : Text)
  deriving DecidableEq, Repr

namespace EndpointReply

/-- The value of a header of an answer, several values being joined. -/
def header? (name : String) (headers : List (Text × Text)) : Option Text :=
  match headers.filter fun h => Text.lower h.1 = name.toList with
  | [] => none
  | found => some (Text.joined ", ".toList (found.map Prod.snd))

/-- The statuses that send the client elsewhere. -/
def redirects : List Int := [301, 302, 303, 307, 308]

def areHeadersAscii (headers : List (Text × Text)) : Bool :=
  headers.all fun h => (h.1 ++ h.2).all fun c => c.toNat < 0x80

/-- What a client makes of an answer of the URL that it asked.  It follows no redirect, but finds
out where one leads: a location that is no URL it does not understand. -/
def understood (asked : Url) : EndpointReply → Except Error EndpointReply
  | .answer status headers body => do
    if !areHeadersAscii headers then throw .headerBeyondAscii
    asked.checkBrackets.mapError .unusableUrl
    match if redirects.contains status then header? "location" headers else none with
    | none => return .answer status headers body
    | some location => match Redirect.target asked location with
      | .ok _ => return .answer status headers body
      | .error (.unusable fault) => throw (.unusableUrl fault)
      | .error (.location fault) =>
        return .transportError ("Invalid URL in location header: ".toList ++ fault.message ++ ['.'])
  | reply => .ok reply

def isSuccess (status : Int) : Bool := 200 ≤ status && status ≤ 299

end EndpointReply

namespace Exchange

/-! ## URL -/

/-- Whether a scheme is one of the two of the web. -/
def isWebScheme (scheme : Text) : Bool := scheme = "http".toList || scheme = "https".toList

/-- The URL of a token endpoint, which needs a host and one of the two schemes of the web. -/
def endpointUrl (tokenUrl : Text) : Except Error Url := do
  let url ← (Url.parse tokenUrl).mapError fun _ => .malformedUrl tokenUrl
  if !isWebScheme url.scheme then throw (.malformedUrl tokenUrl)
  url.checkHost.mapError .unusableUrl
  if url.host = [] then throw (.malformedUrl tokenUrl)
  url.checkAscii.mapError .unusableUrl
  return url

/-! ## Answers -/

/-- The greatest length of an answer in an error. -/
def bodyLimit : Nat := 512

/-- The character set that headers name; UTF-8 if they name none that is known. -/
def charset (headers : List (Text × Text)) : Except CharsetFault Charset :=
  match EndpointReply.header? "content-type" headers with
  | none => .ok .utf8
  | some value => do
    let name := (← ContentType.charset? value).getD []
    if '\x00' ∈ name then throw .nulInName
    return (Charset.ofName? name).getD .utf8

/-- The text of an answer, in the character set that its headers name. -/
def bodyText (headers : List (Text × Text)) (body : Bytes) : Except Error Text :=
  if body = [] then .ok []
  else (do (← charset headers).decodeLossy body : Except CharsetFault Text).mapError .charset

/-- How an answer is read: as deep as the machine allows, and with strings that have no text. -/
def strictness (nesting : Json.Nesting) : Json.Strictness := ⟨nesting.maxDepth, false⟩

/-- What a successful answer reports. -/
def response (nesting : Json.Nesting) (body : Bytes) : Except Error TokenResponse :=
  match (Json.textOf? body).map (Json.read (strictness nesting)) with
  | some (.ok raw) => (TokenResponse.read raw).mapError fun _ => .malformedResponse
  | some (.error (.tooDeep isArray)) => .error (.nestedTooDeep isArray)
  | some (.error .malformed) | none => .error .malformedResponse

/-- When a token expires that was asked for at a given time, to which its seconds are added as the
clock shows them. -/
def expiry (issuedAt : Moment) : Option Int → Except Error (Option DateTime)
  | none => .ok none
  | some seconds =>
    match issuedAt.shift? (seconds * microsPerSecond) with
    | some t => .ok (some t)
    | none => .error .invalidLifetime

/-- The token of a successful answer. -/
def token (nesting : Json.Nesting) (issuedAt : Moment) (body : Bytes) :
    Except Error (TokenResponse × Token) :=
  match response nesting body with
  | .error e => .error e
  | .ok r => (expiry issuedAt r.expiresIn).map fun t => (r, r.token t)

/-! ## Log -/

/-- The log entry for an exchange that failed. -/
def failed (tokenUrl : Text) (detail : Text × Json) : LogEntry :=
  ⟨.warning, "token.exchange_failed".toList, [("token_url".toList, .text tokenUrl), detail]⟩

/-- The log entry for a token that was received. -/
def exchanged (tokenUrl : Text) (expiresIn : Option Int) : LogEntry :=
  ⟨.info, "token.exchanged".toList,
    [("token_url".toList, .text tokenUrl), ("expires_in".toList, .ofInt? expiresIn)]⟩

/-! ## Exchange -/

/-- The result of an exchange and what is logged, by what the client makes of the reply. -/
def outcome (nesting : Json.Nesting) (tokenUrl : Text) (issuedAt : Moment)
    (reply : Except Error EndpointReply) : Except Error Token × List LogEntry :=
  match reply with
  | .error e => (.error e, [])
  | .ok (.clientFailure message) => (.error (.client message), [])
  | .ok (.transportError message) =>
    (.error (.unreachable tokenUrl), [failed tokenUrl ("error".toList, .text message)])
  | .ok (.answer status headers body) =>
    if EndpointReply.isSuccess status then
      match token nesting issuedAt body with
      | .ok (r, t) => (.ok t, [exchanged tokenUrl r.expiresIn])
      | .error e => (.error e, [])
    else
      (bodyText headers body >>= fun text => .error (.refused status (text.take bodyLimit)),
        [failed tokenUrl ("status_code".toList, .int status)])

/-- Posts an assertion to a token endpoint, unless the URL is malformed. -/
def run (nesting : Json.Nesting) (tokenUrl assertion : Text) (issuedAt : Moment)
    (reply : EndpointReply) : Call TokenRequest Token :=
  Call.after (endpointUrl tokenUrl) fun url =>
    let (result, log) := outcome nesting tokenUrl issuedAt (reply.understood url)
    ⟨result, log, [TokenRequest.ofAssertion url assertion]⟩

end Exchange

end SignedAccess
