import SignedAccess.Proofs.SignedUrl.SigningCall

/-!
# Signed URLs are verified from what they show

A verifier cuts a signed URL into its parts, puts the canonical form together from them and from
the headers that the client sends, and gets the text that was signed.

    of? (request.url insecure signature) = some (its parts)              (of?_url)
    rebuild? method lines payloadHash parts = some request.render        (rebuild?_eq)
    message? accessId request.render parts = some request.stringToSign   (message?_eq)

The first holds where no slash stands in the host, the others for every accepted call at a time of
signing.
-/

namespace SignedAccess

open NameTable (valuesNamed)
open CanonicalRequest (generatedKeys credentialKey dateKey signedHeadersKey signatureKey)
open SignedUrl (encodePath pairsOf readQuery? exists_call_of_prepare exists_signature_of_create)

/-! ## Algorithm -/

structure SignedUrlParts where
  scheme : Text
  host : Text
  /-- The path with its slash in front. -/
  path : Text
  /-- The query in front of the signature. -/
  query : Text
  signature : Text
  deriving DecidableEq, Repr

namespace SignedUrlParts

def signatureMark : Text := '&' :: signatureKey ++ ['=']

/-- The parts of a URL: cut behind its scheme, at the next slash, at the next question mark and at
the last mark of a signature. -/
def of? (url : Text) : Option SignedUrlParts := do
  let (scheme, rest) ← Text.cutAt? "://".toList url
  let (host, rest) ← Text.cut? '/' rest
  let (path, rest) ← Text.cut? '?' rest
  let (query, signature) ← Text.cutAtLast? signatureMark rest
  return ⟨scheme, host, '/' :: path, query, signature⟩

/-- The value of a name that has just one. -/
def onlyValue? (name : Text) (ps : List (Text × Text)) : Option Text :=
  match valuesNamed name ps with
  | [value] => some value
  | _ => none

/-- The canonical form of a request with a method, lines of headers and a digest of its body, whose
URL has the given parts. -/
def rebuild? (method : Text) (headerLines : List Text) (payloadHash : Text)
    (parts : SignedUrlParts) : Option Text := do
  let ps ← readQuery? parts.query
  let names ← onlyValue? signedHeadersKey ps
  return Text.joined ['\n'] ([Text.upper method, parts.path, parts.query] ++
    (headerLines ++ [[], names, payloadHash]))

/-- The text that is signed for a canonical form in the name of an account. -/
def message? (accessId form : Text) (parts : SignedUrlParts) : Option Text := do
  let ps ← readQuery? parts.query
  let date ← onlyValue? dateKey ps
  let credential ← onlyValue? credentialKey ps
  let scope ← Text.without? (accessId ++ ['/']) credential
  return Text.joined ['\n'] ["GOOG4-RSA-SHA256".toList, date, scope,
    Hex.encode (Sha256.digest (Utf8.encode form))]

/-! ## Parts -/

theorem ampersand_not_mem_hex (bytes : Bytes) : '&' ∉ Hex.encode bytes := by
  intro h
  exact absurd (SignedUrl.isUnreserved_of_mem_hex h) (by decide)

/-- A signed URL is cut into the parts that it is made of. -/
theorem of?_url {request : CanonicalRequest} {resource : Text} (insecure : Bool) (signature : Bytes)
    (hpath : request.path = '/' :: encodePath resource) (hhost : '/' ∉ request.host) :
    of? (request.url insecure signature) = some
      { scheme := if insecure then "http".toList else "https".toList
        host := request.host
        path := request.path
        query := request.query
        signature := Hex.encode signature } := by
  have hmark : '&' ∉ signatureKey ++ ['='] := by decide
  have hscheme : ':' ∉ (if insecure then "http".toList else "https".toList) := by
    cases insecure <;> decide
  have hquestion : '?' ∉ encodePath resource := SignedUrl.not_mem_encodePath rfl (by decide) _
  -- the cuts from the last to the first: each leaves what stands behind it whole
  have hquery := Text.cutAtLast?_append (a := request.query) hmark (ampersand_not_mem_hex signature)
  generalize hback : request.query ++ '&' :: (signatureKey ++ ['=']) ++ Hex.encode signature = back
    at hquery
  have hpath' := (Text.cut?_eq_some_iff '?' _ _ back).2 ⟨rfl, hquestion⟩
  have hhost' := (Text.cut?_eq_some_iff '/' _ _ (encodePath resource ++ '?' :: back)).2 ⟨rfl, hhost⟩
  have hscheme' := Text.cutAt?_append (s := "//".toList)
    (b := request.host ++ '/' :: (encodePath resource ++ '?' :: back)) hscheme
  have hurl : request.url insecure signature =
      (if insecure then "http".toList else "https".toList) ++ ':' :: "//".toList ++
        (request.host ++ '/' :: (encodePath resource ++ '?' :: back)) := by
    unfold CanonicalRequest.url
    rw [hpath, ← hback]
    simp only [List.append_assoc, List.cons_append, List.nil_append]
    rfl
  rw [← hurl] at hscheme'
  show (Text.cutAt? (':' :: "//".toList) (request.url insecure signature)).bind _ = _
  rw [hscheme', Option.bind_some]
  show (Text.cut? '/' _).bind _ = _
  rw [hhost', Option.bind_some]
  show (Text.cut? '?' _).bind _ = _
  rw [hpath', Option.bind_some]
  show (Text.cutAtLast? ('&' :: (signatureKey ++ ['='])) back).bind _ = _
  rw [hquery, Option.bind_some, hpath]
  rfl

/-! ## Forms -/

theorem onlyValue?_eq_some {name value : Text} {ps : List (Text × Text)}
    (h : valuesNamed name ps = [value]) : onlyValue? name ps = some value := by
  unfold onlyValue?
  rw [h]

/-- The query of a call is read as the values that signing has set. -/
theorem readQuery?_query {call : AcceptedCall} (h : call.AtSigningTime) :
    ∃ ps, readQuery? call.request.query = some ps ∧
      onlyValue? signedHeadersKey ps = some call.request.signedHeaders ∧
      onlyValue? dateKey ps = some call.request.timestamp ∧
      onlyValue? credentialKey ps =
        some (call.opts.accessId ++ '/' :: call.request.credentialScope) := by
  obtain ⟨n, hn, htime, hscope, -⟩ := call.request_query
  rw [AcceptedCall.utc_now_of_atSigningTime h] at hn
  cases hn
  rw [AcceptedCall.query_of_atSigningTime h, htime, hscope]
  obtain ⟨ps, hread, hvalues⟩ := SignedUrl.exists_readQuery?_encodeQuery call.parameters
  have hgenerated (name : Text) (hname : name ∈ generatedKeys) :=
    (hvalues name).trans (AcceptedCall.valuesNamed_parameters hname)
  refine ⟨ps, hread, ?_, ?_, ?_⟩
  · exact onlyValue?_eq_some (hgenerated signedHeadersKey (by simp [generatedKeys]))
  · exact onlyValue?_eq_some (hgenerated dateKey (by simp [generatedKeys]))
  · exact onlyValue?_eq_some (hgenerated credentialKey (by simp [generatedKeys]))

/-- The form is put together again from method, headers and URL. -/
theorem rebuild?_eq {call : AcceptedCall} (h : call.AtSigningTime) {parts : SignedUrlParts}
    (hpath : parts.path = call.request.path) (hquery : parts.query = call.request.query) :
    rebuild? call.opts.method (call.headers.map Header.line) call.request.payloadHash parts =
      some call.request.render := by
  obtain ⟨ps, hread, hnames, -, -⟩ := readQuery?_query h
  rw [call.render_eq]
  unfold rebuild? AcceptedCall.lines
  rw [hquery, hread, hpath, call.request_method]
  show (onlyValue? signedHeadersKey ps).bind _ = _
  rw [hnames]
  rfl

/-- The text that was signed is put together again from the account, the form and the URL. -/
theorem message?_eq {call : AcceptedCall} (h : call.AtSigningTime) {parts : SignedUrlParts}
    (hquery : parts.query = call.request.query) :
    message? call.opts.accessId call.request.render parts = some call.request.stringToSign := by
  obtain ⟨ps, hread, -, hdate, hcredential⟩ := readQuery?_query h
  have hscope := Text.without?_append (call.opts.accessId ++ ['/']) call.request.credentialScope
  rw [List.append_assoc, List.singleton_append] at hscope
  unfold message?
  rw [hquery, hread]
  show (onlyValue? dateKey ps).bind _ = _
  rw [hdate]
  show (onlyValue? credentialKey ps).bind _ = _
  rw [hcredential]
  show (Text.without? (call.opts.accessId ++ ['/']) _).bind _ = _
  rw [hscope]
  rfl

/-! ## Calls -/

/-- Whether the parts of a URL show what a request for an object stands for. -/
structure Shows (parts : SignedUrlParts) (opts : SignedUrlOptions) (bucket object : Text)
    (request : CanonicalRequest) (signature : Bytes) : Prop where
  scheme : parts.scheme = if opts.insecure then "http".toList else "https".toList
  host : (⟨CanonicalRequest.hostName, parts.host⟩ : Header).line ∈ request.headers
  path : parts.path = request.path
  resource : parts.path = '/' :: encodePath (opts.style.resourcePath bucket object)
  query : parts.query = request.query
  signature : parts.signature = Hex.encode signature

/-- Whenever a URL is given whose host has no mark that ends a host, a verifier finds in it scheme,
host, path, query and signature of the request.  With the method, the headers for that host and
the digest of the body they make up the canonical form and the text whose bytes were signed. -/
theorem create_verifies {storage : StorageSettings} {bucket object url : Text}
    {opts : SignedUrlOptions} {clock : DateTime}
    (hresult : (SignedUrl.create storage bucket object opts clock).result = .ok url)
    (hhost : ∀ c ∈ ['/', '?', '#'], c ∉ opts.style.host storage bucket) :
    ∃ request signer signature parts message,
      SignedUrl.prepare storage bucket object opts clock = .ok (request, signer) ∧
      signer.sign (Utf8.encode message) = .ok signature ∧
      (SignedUrl.create storage bucket object opts clock).sent =
        signer.asked (Utf8.encode message) ∧
      of? url = some parts ∧ parts.Shows opts bucket object request signature ∧
      rebuild? opts.method ((CanonicalRequest.headersOf parts.host opts).map Header.line)
        (CanonicalRequest.payloadHashOf opts.headers) parts = some request.render ∧
      message? opts.accessId request.render parts = some message := by
  obtain ⟨request, signer, signature, hprepare, hsign, hsent, rfl⟩ :=
    exists_signature_of_create hresult
  obtain ⟨call, htime, rfl, rfl, rfl, rfl, rfl⟩ := exists_call_of_prepare hprepare
  have hslash : '/' ∉ call.request.host := by
    rw [call.request_host]
    exact hhost '/' List.mem_cons_self
  have hparts := of?_url call.opts.insecure signature call.request_path hslash
  refine ⟨_, signer, signature, _, _, hprepare, hsign, hsent, hparts, ?_, ?_, ?_⟩
  · refine ⟨rfl, ?_, rfl, call.request_path, rfl, rfl⟩
    rw [call.request_headers, call.request_host]
    exact List.mem_map_of_mem call.host_mem_headers
  · -- the verifier takes the headers for the host that it has found
    show rebuild? call.opts.method
      ((CanonicalRequest.headersOf call.request.host call.opts).map Header.line) _ _ = _
    rw [call.request_host, ← call.request_payloadHash]
    exact rebuild?_eq htime rfl rfl
  · exact message?_eq htime rfl

/-- A URL for an object whose name holds marks of a URL is cut at the right places. -/
theorem create_verifies_marks_in_object :
    let object := "a?b#c&X-Goog-Signature=00".toList
    let opts := AcceptedCall.bareWith ["X-Note: a  b".toList]
    ∃ url parts form message,
      (SignedUrl.create ⟨[]⟩ "bucket".toList object opts AcceptedCall.midnight).result = .ok url ∧
      of? url = some parts ∧
      parts.path = "/bucket/a%3Fb%23c%26X-Goog-Signature%3D00".toList ∧
      rebuild? opts.method ((CanonicalRequest.headersOf parts.host opts).map Header.line)
        (CanonicalRequest.payloadHashOf opts.headers) parts = some form ∧
      message? opts.accessId form parts = some message := by
  intro object opts
  obtain ⟨url, hurl⟩ := exists_eq_ok_of_toBool
    (x := (SignedUrl.create ⟨[]⟩ "bucket".toList object opts AcceptedCall.midnight).result)
    (by decide +kernel)
  have hhost : ∀ c ∈ ['/', '?', '#'], c ∉ opts.style.host ⟨[]⟩ "bucket".toList := by
    intro c hc
    simp only [List.mem_cons, List.not_mem_nil, or_false] at hc
    rcases hc with rfl | rfl | rfl
    · decide
    · decide
    · decide
  obtain ⟨request, _, _, parts, message, -, -, -, hparts, hshows, hform, hmessage⟩ :=
    create_verifies hurl hhost
  refine ⟨url, parts, request.render, message, hurl, hparts, ?_, hform, hmessage⟩
  rw [hshows.resource]
  decide

end SignedUrlParts

end SignedAccess
