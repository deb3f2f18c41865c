import SignedAccess.Proofs.Endpoint.Answer
import SignedAccess.Proofs.Endpoint.Form

/-!
# How an exchange ends

An exchange ends in one of several ways, each of which has a condition of its own on the URL, on
what the endpoint does and on what it answers.  Nothing is posted to a URL that is malformed or that
cannot be asked, and to any other the assertion is posted once.  Some ways to end are none of the
library's own errors (`Escapes`).

    reply.Becomes asked result ↔ reply.understood asked = result     (becomes_iff)
    Ends nesting tokenUrl assertion issuedAt reply call ↔
      run nesting tokenUrl assertion issuedAt reply = call           (run_ends)
-/

namespace SignedAccess

/-! ## Endpoints -/

/-- Whether a text is the URL of an endpoint: it is a URL, with one of the two schemes of the web
and with a host. -/
structure Exchange.IsEndpoint (tokenUrl : Text) (url : Url) : Prop where
  parse : Url.parse tokenUrl = .ok url
  scheme : url.scheme = "http".toList ∨ url.scheme = "https".toList
  host : url.host ≠ []

namespace Url

structure IsUsable (url : Url) : Prop where
  name : HostName.check url.host = .ok ()
  ascii : ∀ c ∈ url.host, c.toNat < 0x80

/-- Why the host of a URL cannot be asked. -/
inductive IsUnusable (url : Url) : UrlUseFault → Prop
  | hostName {fault : HostName.Fault} (hname : HostName.check url.host = .error fault) :
      IsUnusable url (.hostName fault)
  | beyondAscii (hname : HostName.check url.host = .ok ())
      (hascii : ¬∀ c ∈ url.host, c.toNat < 0x80) : IsUnusable url .beyondAscii

theorem usable_or_unusable (url : Url) : url.IsUsable ∨ ∃ fault, url.IsUnusable fault := by
  cases hname : HostName.check url.host with
  | error fault => exact Or.inr ⟨_, .hostName hname⟩
  | ok u =>
    by_cases hascii : ∀ c ∈ url.host, c.toNat < 0x80
    · exact Or.inl ⟨hname, hascii⟩
    · exact Or.inr ⟨_, .beyondAscii hname hascii⟩

theorem checkHost_eq_ok_iff {url : Url} :
    url.checkHost = .ok () ↔ HostName.check url.host = .ok () :=
  mapError_eq_ok_iff

end Url

namespace Exchange

variable {tokenUrl : Text} {url : Url}

theorem isWebScheme_iff (scheme : Text) :
    isWebScheme scheme = true ↔ scheme = "http".toList ∨ scheme = "https".toList := by
  simp [isWebScheme]

theorem endpointUrl_of_usable (hurl : IsEndpoint tokenUrl url) (husable : url.IsUsable) :
    endpointUrl tokenUrl = .ok url := by
  have hweb := (isWebScheme_iff _).2 hurl.scheme
  have hhost : url.checkHost = .ok () := Url.checkHost_eq_ok_iff.2 husable.name
  have hascii : url.checkAscii = .ok () := if_pos (by simpa using husable.ascii)
  simp [endpointUrl, hurl.parse, hweb, hhost, hurl.host, hascii, bind,
    Except.bind, pure, Except.pure]

theorem endpointUrl_of_unusable {fault : UrlUseFault} (hurl : IsEndpoint tokenUrl url)
    (hunusable : url.IsUnusable fault) : endpointUrl tokenUrl = .error (.unusableUrl fault) := by
  have hweb := (isWebScheme_iff _).2 hurl.scheme
  cases hunusable with
  | hostName hname =>
    simp [endpointUrl, hurl.parse, hweb, Url.checkHost, hname, bind, Except.bind]
  | beyondAscii hname hascii =>
    have hhost : url.checkHost = .ok () := Url.checkHost_eq_ok_iff.2 hname
    have hascii : url.checkAscii = .error .beyondAscii := if_neg (by simpa using hascii)
    simp [endpointUrl, hurl.parse, hweb, hhost, hurl.host, hascii, bind,
      Except.bind]

/-- A text that is the URL of no endpoint is malformed, as a URL without a host has no encoded name
either. -/
theorem endpointUrl_of_malformed (h : ∀ url, ¬IsEndpoint tokenUrl url) :
    endpointUrl tokenUrl = .error (.malformedUrl tokenUrl) := by
  cases hparse : Url.parse tokenUrl with
  | error fault => simp [endpointUrl, hparse, bind, Except.bind]
  | ok url =>
    by_cases hweb : isWebScheme url.scheme = true
    · have hhost : url.host = [] := Classical.byContradiction fun hne =>
        h url ⟨hparse, (isWebScheme_iff _).1 hweb, hne⟩
      have hcheck : url.checkHost = .ok () := by
        rw [Url.checkHost_eq_ok_iff, hhost]
        rfl
      simp [endpointUrl, hparse, hweb, hcheck, hhost, bind, Except.bind, throw,
        throwThe, MonadExceptOf.throw]
    · simp [endpointUrl, hparse, hweb, bind, Except.bind, throw, throwThe,
        MonadExceptOf.throw]

end Exchange

/-! ## Replies -/

namespace EndpointReply

def location? (status : Int) (headers : List (Text × Text)) : Option Text :=
  if redirects.contains status then header? "location" headers else none

def AreAscii (headers : List (Text × Text)) : Prop :=
  ∀ h ∈ headers, ∀ c ∈ h.1 ++ h.2, c.toNat < 0x80

/-- What becomes of a reply on its way through the client.  Most arrive as they are; a redirect to
what is no URL counts as a failure of the transport. -/
inductive Becomes (asked : Url) : EndpointReply → Except Error EndpointReply → Prop
  | clientFailure (message : Text) :
      Becomes asked (.clientFailure message) (.ok (.clientFailure message))
  | transportError (message : Text) :
      Becomes asked (.transportError message) (.ok (.transportError message))
  | answer {status : Int} {headers : List (Text × Text)} {body : Bytes}
      (hheaders : AreAscii headers) (hbrackets : Address.areBracketsSound asked.authority = true)
      (hlocation : ∀ location, location? status headers = some location →
        ∃ target, Redirect.target asked location = .ok target) :
      Becomes asked (.answer status headers body) (.ok (.answer status headers body))
  | strayLocation {status : Int} {headers : List (Text × Text)} {body : Bytes} {location : Text}
      {fault : UrlFault} (hheaders : AreAscii headers)
      (hbrackets : Address.areBracketsSound asked.authority = true)
      (hlocation : location? status headers = some location)
      (htarget : Redirect.target asked location = .error (.location fault)) :
      Becomes asked (.answer status headers body) (.ok (.transportError
        ("Invalid URL in location header: ".toList ++ fault.message ++ ['.'])))
  | unusableLocation {status : Int} {headers : List (Text × Text)} {body : Bytes}
      {location : Text} {fault : UrlUseFault} (hheaders : AreAscii headers)
      (hbrackets : Address.areBracketsSound asked.authority = true)
      (hlocation : location? status headers = some location)
      (htarget : Redirect.target asked location = .error (.unusable fault)) :
      Becomes asked (.answer status headers body) (.error (.unusableUrl fault))
  | brackets {status : Int} {headers : List (Text × Text)} {body : Bytes}
      (hheaders : AreAscii headers)
      (hbrackets : Address.areBracketsSound asked.authority = false) :
      Becomes asked (.answer status headers body) (.error (.unusableUrl .brackets))
  | headerBeyondAscii {status : Int} {headers : List (Text × Text)} {body : Bytes}
      (hheaders : ¬AreAscii headers) :
      Becomes asked (.answer status headers body) (.error .headerBeyondAscii)

variable {asked : Url} {reply : EndpointReply} {result : Except Error EndpointReply}
  {status : Int} {headers : List (Text × Text)} {body : Bytes}

theorem areHeadersAscii_iff : areHeadersAscii headers = true ↔ AreAscii headers := by
  simp only [areHeadersAscii, AreAscii, List.all_eq_true, decide_eq_true_eq]

theorem understood_of_beyondAscii (hheaders : ¬AreAscii headers) :
    (answer status headers body).understood asked = .error .headerBeyondAscii := by
  rw [← areHeadersAscii_iff, Bool.not_eq_true] at hheaders
  rw [understood, hheaders]
  rfl

theorem understood_of_unsound (hheaders : AreAscii headers)
    (hbrackets : Address.areBracketsSound asked.authority = false) :
    (answer status headers body).understood asked = .error (.unusableUrl .brackets) := by
  have hcheck : asked.checkBrackets = .error .brackets := if_neg (by simp [hbrackets])
  rw [understood, areHeadersAscii_iff.2 hheaders, hcheck]
  rfl

/-- An answer that the client reads, by where it sends the client. -/
theorem understood_of_sound (hheaders : AreAscii headers)
    (hbrackets : Address.areBracketsSound asked.authority = true) :
    (answer status headers body).understood asked =
      match location? status headers with
      | none => .ok (.answer status headers body)
      | some location => match Redirect.target asked location with
        | .ok _ => .ok (.answer status headers body)
        | .error (.unusable fault) => .error (.unusableUrl fault)
        | .error (.location fault) => .ok (.transportError
          ("Invalid URL in location header: ".toList ++ fault.message ++ ['.'])) := by
  have hcheck : asked.checkBrackets = .ok () := if_pos hbrackets
  rw [understood, areHeadersAscii_iff.2 hheaders, hcheck]
  rfl

theorem understood_of_becomes (h : reply.Becomes asked result) :
    reply.understood asked = result := by
  cases h with
  | clientFailure message => rfl
  | transportError message => rfl
  | answer hheaders hbrackets hlocation =>
    rw [understood_of_sound hheaders hbrackets]
    split
    · rfl
    · next location hsome =>
      obtain ⟨target, htarget⟩ := hlocation location hsome
      rw [htarget]
  | strayLocation hheaders hbrackets hlocation htarget =>
    rw [understood_of_sound hheaders hbrackets, hlocation]
    simp only [htarget]
  | unusableLocation hheaders hbrackets hlocation htarget =>
    rw [understood_of_sound hheaders hbrackets, hlocation]
    simp only [htarget]
  | brackets hheaders hbrackets => exact understood_of_unsound hheaders hbrackets
  | headerBeyondAscii hheaders => exact understood_of_beyondAscii hheaders

/-- Something becomes of every reply. -/
theorem exists_becomes (asked : Url) (reply : EndpointReply) :
    ∃ result, reply.Becomes asked result := by
  cases reply with
  | clientFailure message => exact ⟨_, .clientFailure message⟩
  | transportError message => exact ⟨_, .transportError message⟩
  | answer status headers body =>
    by_cases hheaders : AreAscii headers
    · cases hbrackets : Address.areBracketsSound asked.authority with
      | false => exact ⟨_, .brackets hheaders hbrackets⟩
      | true =>
        cases hlocation : location? status headers with
        | none => exact ⟨_, .answer hheaders hbrackets (by simp [hlocation])⟩
        | some location =>
          cases htarget : Redirect.target asked location with
          | ok target =>
            refine ⟨_, .answer hheaders hbrackets fun other hother => ⟨target, ?_⟩⟩
            rw [hlocation] at hother
            cases hother
            exact htarget
          | error fault =>
            cases fault with
            | location fault => exact ⟨_, .strayLocation hheaders hbrackets hlocation htarget⟩
            | unusable fault => exact ⟨_, .unusableLocation hheaders hbrackets hlocation htarget⟩
    · exact ⟨_, .headerBeyondAscii hheaders⟩

theorem becomes_iff : reply.Becomes asked result ↔ reply.understood asked = result := by
  refine ⟨understood_of_becomes, ?_⟩
  rintro rfl
  obtain ⟨result, h⟩ := exists_becomes asked reply
  rwa [understood_of_becomes h]

end EndpointReply

/-! ## Exchanges -/

namespace Exchange

/-- How an exchange ends, with what is logged, by what becomes of the reply. -/
inductive Reacts (nesting : Json.Nesting) (tokenUrl : Text) (issuedAt : Moment) :
    Except Error EndpointReply → Except Error Token → List LogEntry → Prop
  | broken (e : Error) : Reacts nesting tokenUrl issuedAt (.error e) (.error e) []
  | clientFailure (message : Text) :
      Reacts nesting tokenUrl issuedAt (.ok (.clientFailure message)) (.error (.client message)) []
  | unreachable (message : Text) :
      Reacts nesting tokenUrl issuedAt (.ok (.transportError message))
        (.error (.unreachable tokenUrl))
        [⟨.warning, "token.exchange_failed".toList,
          [("token_url".toList, .text tokenUrl), ("error".toList, .text message)]⟩]
  | refused {status : Int} {headers : List (Text × Text)} {body : Bytes} {text : Text}
      (hstatus : ¬(200 ≤ status ∧ status ≤ 299)) (htext : bodyText headers body = .ok text) :
      Reacts nesting tokenUrl issuedAt (.ok (.answer status headers body))
        (.error (.refused status (text.take 512)))
        [⟨.warning, "token.exchange_failed".toList,
          [("token_url".toList, .text tokenUrl), ("status_code".toList, .int status)]⟩]
  | undecodable {status : Int} {headers : List (Text × Text)} {body : Bytes} {e : Error}
      (hstatus : ¬(200 ≤ status ∧ status ≤ 299)) (htext : bodyText headers body = .error e) :
      Reacts nesting tokenUrl issuedAt (.ok (.answer status headers body)) (.error e)
        [⟨.warning, "token.exchange_failed".toList,
          [("token_url".toList, .text tokenUrl), ("status_code".toList, .int status)]⟩]
  | exchanged {status : Int} {headers : List (Text × Text)} {body : Bytes} {r : TokenResponse}
      {t : Token} (hstatus : 200 ≤ status ∧ status ≤ 299)
      (hanswer : Answers nesting issuedAt body (.ok (r, t))) :
      Reacts nesting tokenUrl issuedAt (.ok (.answer status headers body)) (.ok t)
        [⟨.info, "token.exchanged".toList,
          [("token_url".toList, .text tokenUrl), ("expires_in".toList, .ofInt? r.expiresIn)]⟩]
  | unusable {status : Int} {headers : List (Text × Text)} {body : Bytes} {e : Error}
      (hstatus : 200 ≤ status ∧ status ≤ 299) (hanswer : Answers nesting issuedAt body (.error e)) :
      Reacts nesting tokenUrl issuedAt (.ok (.answer status headers body)) (.error e) []

/-- How an exchange ends, with what is logged and what is posted. -/
inductive Ends (nesting : Json.Nesting) (tokenUrl assertion : Text) (issuedAt : Moment)
    (reply : EndpointReply) : Call TokenRequest Token → Prop
  | malformed (hurl : ∀ url, ¬IsEndpoint tokenUrl url) :
      Ends nesting tokenUrl assertion issuedAt reply ⟨.error (.malformedUrl tokenUrl), [], []⟩
  | unusable {url : Url} {fault : UrlUseFault} (hurl : IsEndpoint tokenUrl url)
      (hunusable : url.IsUnusable fault) :
      Ends nesting tokenUrl assertion issuedAt reply ⟨.error (.unusableUrl fault), [], []⟩
  | posted {url : Url} {received : Except Error EndpointReply} {result : Except Error Token}
      {log : List LogEntry} (hurl : IsEndpoint tokenUrl url) (husable : url.IsUsable)
      (hreply : reply.Becomes url received)
      (hreacts : Reacts nesting tokenUrl issuedAt received result log) :
      Ends nesting tokenUrl assertion issuedAt reply
        ⟨result, log, [TokenRequest.ofAssertion url assertion]⟩

variable {nesting : Json.Nesting} {tokenUrl assertion : Text} {issuedAt : Moment}
  {reply : EndpointReply}

theorem isSuccess_iff (status : Int) :
    EndpointReply.isSuccess status = true ↔ 200 ≤ status ∧ status ≤ 299 := by
  simp [EndpointReply.isSuccess]

theorem outcome_of_reacts {received : Except Error EndpointReply} {result : Except Error Token}
    {log : List LogEntry} (h : Reacts nesting tokenUrl issuedAt received result log) :
    outcome nesting tokenUrl issuedAt received = (result, log) := by
  cases h with
  | broken e => rfl
  | clientFailure message => rfl
  | unreachable message => rfl
  | refused hstatus htext =>
    rw [outcome, if_neg (by rwa [isSuccess_iff]), htext]
    rfl
  | undecodable hstatus htext =>
    rw [outcome, if_neg (by rwa [isSuccess_iff]), htext]
    rfl
  | exchanged hstatus hanswer =>
    rw [outcome, if_pos ((isSuccess_iff _).2 hstatus), answers_iff.1 hanswer]
    rfl
  | unusable hstatus hanswer =>
    rw [outcome, if_pos ((isSuccess_iff _).2 hstatus), answers_iff.1 hanswer]

/-- An exchange ends in some way, whatever becomes of the reply. -/
theorem exists_reacts (nesting : Json.Nesting) (tokenUrl : Text) (issuedAt : Moment)
    (received : Except Error EndpointReply) :
    ∃ result log, Reacts nesting tokenUrl issuedAt received result log := by
  cases received with
  | error e => exact ⟨_, _, .broken e⟩
  | ok reply =>
    cases reply with
    | clientFailure message => exact ⟨_, _, .clientFailure message⟩
    | transportError message => exact ⟨_, _, .unreachable message⟩
    | answer status headers body =>
      by_cases hstatus : 200 ≤ status ∧ status ≤ 299
      · obtain ⟨result, hanswer⟩ := exists_answers nesting issuedAt body
        cases result with
        | ok value => exact ⟨_, _, .exchanged hstatus hanswer⟩
        | error e => exact ⟨_, _, .unusable hstatus hanswer⟩
      · cases htext : bodyText headers body with
        | ok text => exact ⟨_, _, .refused hstatus htext⟩
        | error e => exact ⟨_, _, .undecodable hstatus htext⟩

theorem run_of_ends {call : Call TokenRequest Token}
    (h : Ends nesting tokenUrl assertion issuedAt reply call) :
    run nesting tokenUrl assertion issuedAt reply = call := by
  cases h with
  | malformed hurl =>
    rw [run, endpointUrl_of_malformed hurl]
    rfl
  | unusable hurl hunusable =>
    rw [run, endpointUrl_of_unusable hurl hunusable]
    rfl
  | posted hurl husable hreply hreacts =>
    rw [run, endpointUrl_of_usable hurl husable]
    simp only [Call.after, EndpointReply.becomes_iff.1 hreply, outcome_of_reacts hreacts]

theorem ends_run (nesting : Json.Nesting) (tokenUrl assertion : Text) (issuedAt : Moment)
    (reply : EndpointReply) :
    Ends nesting tokenUrl assertion issuedAt reply
      (run nesting tokenUrl assertion issuedAt reply) := by
  obtain ⟨call, h⟩ : ∃ call, Ends nesting tokenUrl assertion issuedAt reply call := by
    by_cases hurl : ∃ url, IsEndpoint tokenUrl url
    · obtain ⟨url, hurl⟩ := hurl
      rcases url.usable_or_unusable with husable | ⟨fault, hunusable⟩
      · obtain ⟨received, hreply⟩ := EndpointReply.exists_becomes url reply
        obtain ⟨result, log, hreacts⟩ := exists_reacts nesting tokenUrl issuedAt received
        exact ⟨_, .posted hurl husable hreply hreacts⟩
      · exact ⟨_, .unusable hurl hunusable⟩
    · exact ⟨_, .malformed fun url h => hurl ⟨url, h⟩⟩
  rwa [run_of_ends h]

/-- What is posted is a form with the grant and the assertion, to the URL in its normal form. -/
theorem readForm?_of_mem_sent {request : TokenRequest}
    (h : request ∈ (run nesting tokenUrl assertion issuedAt reply).sent) :
    ∃ url, IsEndpoint tokenUrl url ∧ request.url = url.text ∧
      TokenRequest.readForm? request.body =
        some [("grant_type".toList, TokenRequest.grantType), ("assertion".toList, assertion)] := by
  have hends := ends_run nesting tokenUrl assertion issuedAt reply
  generalize run nesting tokenUrl assertion issuedAt reply = call at hends h
  cases hends with
  | malformed hurl => cases h
  | unusable hurl hunusable => cases h
  | posted hurl husable hreply hreacts =>
    rw [List.mem_singleton.1 h]
    exact ⟨_, hurl, rfl, TokenRequest.readForm?_ofAssertion _ _⟩

/-! ## Other assertions -/

/-- Whether a call comes to the same as another one, and posts another assertion to the same URL. -/
structure Reposts (call : Call TokenRequest Token) (assertion : Text)
    (call' : Call TokenRequest Token) : Prop where
  result : call'.result = call.result
  log : call'.log = call.log
  sent : call'.sent = call.sent.map fun request => ⟨request.url, TokenRequest.encodeForm
    [("grant_type".toList, TokenRequest.grantType), ("assertion".toList, assertion)]⟩

/-- The assertion makes no difference to how an exchange ends. -/
theorem reposts_run (nesting : Json.Nesting) (tokenUrl assertion assertion' : Text)
    (issuedAt : Moment) (reply : EndpointReply) :
    Reposts (run nesting tokenUrl assertion issuedAt reply) assertion'
      (run nesting tokenUrl assertion' issuedAt reply) := by
  unfold run
  cases endpointUrl tokenUrl with
  | error e => exact ⟨rfl, rfl, rfl⟩
  | ok url => exact ⟨rfl, rfl, rfl⟩

/-! ## Errors of other kinds -/

/-- Whether an exchange ends in an error that is none of the library's own: the host cannot be
asked, the client fails, the answer does not get through the client, an answer that is no success
has no text, or a successful one nests too deep. -/
inductive Escapes (nesting : Json.Nesting) (tokenUrl : Text) (reply : EndpointReply) : Prop
  | unusable {url : Url} {fault : UrlUseFault} (hurl : IsEndpoint tokenUrl url)
      (hunusable : url.IsUnusable fault)
  | clientFailure {url : Url} {message : Text} (hurl : IsEndpoint tokenUrl url)
      (husable : url.IsUsable) (hreply : reply = .clientFailure message)
  | broken {url : Url} {e : Error} (hurl : IsEndpoint tokenUrl url) (husable : url.IsUsable)
      (hreply : reply.Becomes url (.error e))
  | undecodable {url : Url} {status : Int} {headers : List (Text × Text)} {body : Bytes}
      {e : Error} (hurl : IsEndpoint tokenUrl url) (husable : url.IsUsable)
      (hreply : reply.Becomes url (.ok (.answer status headers body)))
      (hstatus : ¬(200 ≤ status ∧ status ≤ 299)) (htext : bodyText headers body = .error e)
  | tooDeep {url : Url} {status : Int} {headers : List (Text × Text)} {body : Bytes}
      {isArray : Bool} (hurl : IsEndpoint tokenUrl url) (husable : url.IsUsable)
      (hreply : reply.Becomes url (.ok (.answer status headers body)))
      (hstatus : 200 ≤ status ∧ status ≤ 299) (hbody : NestsTooDeep nesting body isArray)

theorem kind?_of_becomes {url : Url} {e : Error} (h : reply.Becomes url (.error e)) :
    e.kind? = none := by
  cases h with
  | unusableLocation hheaders hbrackets hlocation htarget => rfl
  | brackets hheaders hbrackets => rfl
  | headerBeyondAscii hheaders => rfl

theorem kind?_of_bodyText {headers : List (Text × Text)} {body : Bytes} {e : Error}
    (h : bodyText headers body = .error e) : e.kind? = none := by
  unfold bodyText at h
  split at h
  · cases h
  · cases hdecoded : (do (← charset headers).decodeLossy body : Except CharsetFault Text) with
    | ok text =>
      rw [hdecoded] at h
      cases h
    | error fault =>
      rw [hdecoded] at h
      cases h
      rfl

/-- Once an assertion was posted, the library's own errors are those of the transport and those
below them. -/
theorem kind?_of_posted {url : Url} {received : Except Error EndpointReply} {e : Error}
    {log : List LogEntry} (hreply : reply.Becomes url received)
    (h : Reacts nesting tokenUrl issuedAt received (.error e) log) :
    e.kind? ∈ [none, some .transport, some .tokenEndpoint, some .tokenResponse] := by
  cases h with
  | broken e => simp [kind?_of_becomes hreply]
  | clientFailure message => simp [Error.kind?]
  | unreachable message => simp [Error.kind?]
  | refused hstatus htext => simp [Error.kind?]
  | undecodable hstatus htext => simp [kind?_of_bodyText htext]
  | unusable hstatus hanswer =>
    cases hanswer with
    | invalidLifetime hbody hexpiry => simp [Error.kind?]
    | malformed hbody hdepth => simp [Error.kind?]
    | tooDeep hbody => simp [Error.kind?]

end Exchange

end SignedAccess
