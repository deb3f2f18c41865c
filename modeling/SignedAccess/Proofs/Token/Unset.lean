import SignedAccess.Proofs.Token.Runs

/-!
# Missing and empty texts

Credentials and requests for access may leave texts out or give them as empty.  The choice of a
source makes no difference between the two, with one exception: the principal on whose behalf access
is asked for is handed over as it is, and an empty one is named in the assertions.  Two sources that
differ in their principal alone come to the same results, and only what they post differs.

    c.Restated c' → access.Restated access' →
      Accords … (create c access settings) (create c' access' settings)      (create_accords)
-/

namespace SignedAccess

/-! ## Restating -/

/-- Whether a text is the same as another one, or one of the two is missing and the other empty. -/
inductive TokenSource.Restated : Option Text → Option Text → Prop
  | same (t : Option Text) : Restated t t
  | missing : Restated (some []) none
  | empty : Restated none (some [])

/-- Whether credentials are the same but for texts that are missing or empty. -/
structure Credentials.Restated (c c' : Credentials) : Prop where
  audience : TokenSource.Restated c.audience c'.audience
  tokenUri : TokenSource.Restated c.tokenUri c'.tokenUri
  others : c' = { c with audience := c'.audience, tokenUri := c'.tokenUri }

/-- Whether the same access is asked for but for texts that are missing or empty. -/
structure TokenSource.Access.Restated (access access' : Access) : Prop where
  scopes : TokenSource.Restated access.scopes access'.scopes
  audience : TokenSource.Restated access.audience access'.audience
  delegate : TokenSource.Restated access.delegate access'.delegate
  hasClient : access'.hasClient = access.hasClient

namespace TokenSource.Restated

variable {t t' : Option Text}

theorem isUnset_eq (h : Restated t t') : isUnset t' = isUnset t := by
  cases h with
  | same t => rfl
  | missing => rfl
  | empty => rfl

theorem getD_eq (h : Restated t t') : t'.getD [] = t.getD [] := by
  cases h with
  | same t => rfl
  | missing => rfl
  | empty => rfl

theorem preferred_eq (h : Restated t t') (other : Text) :
    preferred t' other = preferred t other := by
  cases h with
  | same t => rfl
  | missing => rfl
  | empty => rfl

end TokenSource.Restated

/-! ## Principals -/

def Claims.about (c : Claims) (subject : Option Text) : Claims := { c with subject }

theorem Claims.issue_eq_map_about (issuer audience : Text) (now : Moment)
    (subject subject' scope : Option Text) :
    issue issuer audience now subject' scope =
      (issue issuer audience now subject scope).map (·.about subject') := by
  unfold issue
  cases validity now with
  | error e => rfl
  | ok times =>
    show (ofParts _ _ _ _ _ _).mapError _ = Except.map _ ((ofParts _ _ _ _ _ _).mapError _)
    unfold ofParts
    split
    · rfl
    · rfl

namespace ExchangeSource

variable {nesting : Json.Nesting} {s : ExchangeSource} {now : DateTime} {reply : EndpointReply}

def onBehalf (s : ExchangeSource) (principal : Option Text) : ExchangeSource :=
  { s with delegate := principal }

/-- Whatever the principal is, a call fails in the same way before it posts an assertion, or posts
one of the same claims about the principal. -/
theorem token_onBehalf_cases (nesting : Json.Nesting) (s : ExchangeSource)
    (principal : Option Text) (now : DateTime) (reply : EndpointReply) :
    (∃ e, s.token nesting now reply = Call.failed e ∧
        (s.onBehalf principal).token nesting now reply = Call.failed e) ∨
      ∃ claims assertion assertion',
        claims.subject = s.delegate ∧
        Jwt.sign claims s.key s.keyId = .ok assertion ∧
        Jwt.sign (claims.about principal) s.key s.keyId = .ok assertion' ∧
        s.token nesting now reply = Exchange.run nesting s.tokenUrl assertion now.steady reply ∧
        (s.onBehalf principal).token nesting now reply =
          Exchange.run nesting s.tokenUrl assertion' now.steady reply := by
  have habout : (s.onBehalf principal).claims now = (s.claims now).map (·.about principal) :=
    Claims.issue_eq_map_about _ _ _ _ _ _
  cases hclaims : s.claims now with
  | error e =>
    rw [hclaims] at habout
    exact Or.inl ⟨e, token_of_claims_eq_error hclaims, token_of_claims_eq_error habout⟩
  | ok claims =>
    rw [hclaims] at habout
    by_cases hkey : s.key.CanSign
    · obtain ⟨expiry, hholds⟩ := Claims.exists_expiry_of_issue hclaims
      obtain ⟨a, ha, hrun⟩ := exists_run_of_canSign hclaims hkey
      obtain ⟨a', ha', hrun'⟩ := exists_run_of_canSign habout hkey
      exact Or.inr ⟨claims, a, a', hholds.subject, ha, ha', hrun reply, hrun' reply⟩
    · exact Or.inl ⟨.signing .claims, token_of_not_canSign hclaims hkey,
        token_of_not_canSign habout hkey⟩

/-- A request carries one assertion, and one assertion is made of one set of claims. -/
theorem eq_delegate_of_run_eq {claims : Claims} {principal : Option Text} {a a' : Text}
    (hsubject : claims.subject = s.delegate) (ha : Jwt.sign claims s.key s.keyId = .ok a)
    (ha' : Jwt.sign (claims.about principal) s.key s.keyId = .ok a') {request : TokenRequest}
    (hrequest : request ∈ (Exchange.run nesting s.tokenUrl a now.steady reply).sent)
    (hrequest' : request ∈ (Exchange.run nesting s.tokenUrl a' now.steady reply).sent) :
    principal = s.delegate := by
  obtain ⟨url, -, -, hform⟩ := Exchange.readForm?_of_mem_sent hrequest
  obtain ⟨url', -, -, hform'⟩ := Exchange.readForm?_of_mem_sent hrequest'
  rw [hform] at hform'
  cases hform'
  have hclaims := ((Jwt.decodes_of_sign ha').unique (Jwt.decodes_of_sign ha)).1
  rw [← hsubject]
  exact congrArg Claims.subject hclaims

/-- The calls of two sources with different principals come to the same, and only what they post
differs. -/
theorem reposts_token_onBehalf (nesting : Json.Nesting) (s : ExchangeSource)
    (principal : Option Text) (now : DateTime) (reply : EndpointReply) :
    ∃ assertion, Exchange.Reposts (s.token nesting now reply) assertion
      ((s.onBehalf principal).token nesting now reply) := by
  rcases token_onBehalf_cases nesting s principal now reply with
    ⟨e, htoken, htoken'⟩ | ⟨claims, a, a', -, -, -, htoken, htoken'⟩
  · rw [htoken, htoken']
    exact ⟨[], rfl, rfl, rfl⟩
  · rw [htoken, htoken']
    exact ⟨a', Exchange.reposts_run nesting s.tokenUrl a a' now.steady reply⟩

theorem eq_of_reposts_of_sent_eq_nil {call call' : Call TokenRequest Token} {assertion : Text}
    (h : Exchange.Reposts call assertion call') (hsent : call.sent = []) : call' = call := by
  obtain ⟨result, log, sent⟩ := call
  obtain ⟨result', log', sent'⟩ := call'
  obtain ⟨hresult, hlog, hmap⟩ := h
  cases hsent
  cases hresult
  cases hlog
  cases hmap
  rfl

/-- The calls are the same just when the principals are or nothing is sent. -/
theorem token_onBehalf_eq_iff (nesting : Json.Nesting) (s : ExchangeSource)
    (principal : Option Text) (now : DateTime) (reply : EndpointReply) :
    (s.onBehalf principal).token nesting now reply = s.token nesting now reply ↔
      principal = s.delegate ∨ (s.token nesting now reply).sent = [] := by
  constructor
  · intro hsame
    rcases token_onBehalf_cases nesting s principal now reply with
      ⟨e, htoken, -⟩ | ⟨claims, a, a', hsubject, ha, ha', htoken, htoken'⟩
    · rw [htoken]
      exact Or.inr rfl
    · cases hsent : (s.token nesting now reply).sent with
      | nil => exact Or.inr rfl
      | cons request rest =>
        have hrequest : request ∈ (s.token nesting now reply).sent := by
          rw [hsent]
          exact List.mem_cons_self
        have hrequest' : request ∈ ((s.onBehalf principal).token nesting now reply).sent := by
          rwa [hsame]
        rw [htoken] at hrequest
        rw [htoken'] at hrequest'
        exact Or.inl (eq_delegate_of_run_eq hsubject ha ha' hrequest hrequest')
  · rintro (rfl | hsent)
    · rfl
    · obtain ⟨assertion, hreposts⟩ := reposts_token_onBehalf nesting s principal now reply
      exact eq_of_reposts_of_sent_eq_nil hreposts hsent

/-! ## Requests -/

/-- Whether a request carries an assertion about a subject, and about none if there is none. -/
def CarriesSubject (key : PrivateKey) (subject : Option Text) (request : TokenRequest) : Prop :=
  ∃ assertion header payload,
    TokenRequest.readForm? request.body =
      some [("grant_type".toList, TokenRequest.grantType), ("assertion".toList, assertion)] ∧
    Jwt.Says assertion key header payload ∧
    payload.field? "sub".toList = subject.map .text

theorem carriesSubject_of_mem_sent {request : TokenRequest}
    (h : request ∈ (s.token nesting now reply).sent) : CarriesSubject s.key s.delegate request := by
  rcases token_cases nesting s now reply with
    ⟨claims, expiry, assertion, hholds, hsign, htoken⟩ | ⟨e, htoken⟩
  · rw [htoken] at h
    obtain ⟨url, -, -, hform⟩ := Exchange.readForm?_of_mem_sent h
    have hsubject : claims.payload.field? "sub".toList = s.delegate.map .text := by
      rw [← hholds.subject]
      exact claims.isStatedBy_fields.subject
    exact ⟨assertion, _, _, hform, Jwt.says_of_sign hholds.hasPlainTimes hsign, hsubject⟩
  · rw [htoken] at h
    cases h

/-- What two sources come to that differ in their principal alone. -/
structure SameButPrincipal (s s' : ExchangeSource) : Prop where
  others : s' = s.onBehalf s'.delegate
  /-- Their calls come to the same results and entries, and go to the same URLs. -/
  reposts : ∀ nesting now reply, ∃ assertion,
    Exchange.Reposts (s.token nesting now reply) assertion (s'.token nesting now reply)
  /-- Their calls are the same just when the principals are or nothing is sent. -/
  token_eq_iff : ∀ nesting now reply, s'.token nesting now reply = s.token nesting now reply ↔
    s'.delegate = s.delegate ∨ (s.token nesting now reply).sent = []
  /-- The assertions of each are about its own principal. -/
  subject : ∀ source ∈ [s, s'], ∀ nesting now reply,
    ∀ request ∈ (source.token nesting now reply).sent,
    CarriesSubject source.key source.delegate request

theorem sameButPrincipal_onBehalf (s : ExchangeSource) (principal : Option Text) :
    s.SameButPrincipal (s.onBehalf principal) where
  others := rfl
  reposts nesting := reposts_token_onBehalf nesting s principal
  token_eq_iff nesting := token_onBehalf_eq_iff nesting s principal
  subject _ _ _ _ _ _ := carriesSubject_of_mem_sent

end ExchangeSource

/-! ## Sources -/

def Credentials.loadKey (c : Credentials) : Except Error PrivateKey :=
  c.requirePrivateKey >>= PrivateKey.loadText

theorem Credentials.Restated.loadKey_eq {c c' : Credentials} (h : c.Restated c') :
    c'.loadKey = c.loadKey := by
  rw [h.others]
  rfl

theorem ExchangeSource.ofCredentials_eq_map (c : Credentials) (scopes : Text)
    (delegate : Option Text) (settings : AuthSettings) :
    ofCredentials c scopes delegate settings = c.loadKey.map fun key =>
      ⟨c.clientEmail, delegate, key, c.privateKeyId, scopes,
        TokenSource.preferred c.tokenUri settings.tokenUrl⟩ := by
  unfold Credentials.loadKey
  rw [← bind_bind_pure]
  rfl

theorem SelfSignedSource.ofCredentials_eq_map (c : Credentials) (audience : Text) :
    ofCredentials c audience = c.loadKey.map fun key =>
      ⟨c.clientEmail, key, c.privateKeyId, TokenSource.preferred c.audience audience⟩ := by
  unfold Credentials.loadKey
  rw [← bind_bind_pure]
  rfl

namespace TokenSource

variable {c c' : Credentials} {access access' : Access}

/-- What restated credentials and a restated request come to: the same error, the same source, or
one that differs in its principal alone. -/
inductive Accords (principal principal' : Option Text) :
    Except Error TokenSource → Except Error TokenSource → Prop
  | failed (e : Error) : Accords principal principal' (.error e) (.error e)
  | selfSigned (s : SelfSignedSource) :
      Accords principal principal' (.ok (.selfSigned s)) (.ok (.selfSigned s))
  | exchange {s s' : ExchangeSource} (hs : s.delegate = principal) (hs' : s'.delegate = principal')
      (h : s.SameButPrincipal s') :
      Accords principal principal' (.ok (.exchange s)) (.ok (.exchange s'))

theorem accords_exchange (hc : c.Restated c') (scopes : Text) (principal principal' : Option Text)
    (settings : AuthSettings) :
    Accords principal principal'
      ((ExchangeSource.ofCredentials c scopes principal settings).map .exchange)
      ((ExchangeSource.ofCredentials c' scopes principal' settings).map .exchange) := by
  rw [ExchangeSource.ofCredentials_eq_map, ExchangeSource.ofCredentials_eq_map, hc.loadKey_eq,
    hc.tokenUri.preferred_eq, hc.others]
  cases c.loadKey with
  | error e => exact .failed e
  | ok key => exact .exchange rfl rfl (ExchangeSource.sameButPrincipal_onBehalf _ _)

theorem accords_selfSigned (hc : c.Restated c') (audience : Text)
    (principal principal' : Option Text) :
    Accords principal principal'
      ((SelfSignedSource.ofCredentials c audience).map .selfSigned)
      ((SelfSignedSource.ofCredentials c' audience).map .selfSigned) := by
  rw [SelfSignedSource.ofCredentials_eq_map, SelfSignedSource.ofCredentials_eq_map, hc.loadKey_eq,
    hc.audience.preferred_eq, hc.others]
  cases c.loadKey with
  | error e => exact .failed e
  | ok key => exact .selfSigned _

/-- Restated credentials and a restated request for access give the same error, the same source, or
one that differs in its principal alone. -/
theorem create_accords (hc : c.Restated c') (ha : access.Restated access')
    (settings : AuthSettings) :
    Accords access.delegate access'.delegate (create c access settings)
      (create c' access' settings) := by
  have htype : c'.type = c.type := by rw [hc.others]
  unfold create
  rw [htype, ha.scopes.isUnset_eq, ha.scopes.getD_eq, ha.hasClient, ha.delegate.isUnset_eq,
    ha.audience.isUnset_eq, ha.audience.getD_eq, hc.audience.isUnset_eq]
  split
  · exact .failed _
  · split
    · split
      · exact accords_exchange hc _ _ _ settings
      · exact .failed _
    · split
      · exact .failed _
      · split
        · exact .failed _
        · exact accords_selfSigned hc _ _ _

/-- An endpoint of the account that is empty counts as missing, and so does an empty audience. -/
theorem create_accords_empty_endpoint :
    let c := { accountWithAudience with tokenUri := some [] }
    let access : Access := ⟨some "s".toList, some [], none, true⟩
    let access' : Access := ⟨some "s".toList, none, some [], true⟩
    c.Restated accountWithAudience ∧ access.Restated access' ∧
      Accords none (some []) (create c access ⟨tokenUrlDefault⟩)
        (create accountWithAudience access' ⟨tokenUrlDefault⟩) := by
  intro c access access'
  have hc : c.Restated accountWithAudience := ⟨.same _, .missing, rfl⟩
  have ha : access.Restated access' := ⟨.same _, .missing, .empty, rfl⟩
  exact ⟨hc, ha, create_accords hc ha ⟨tokenUrlDefault⟩⟩

/-- A principal that is empty does not count as missing: the assertions are about it. -/
theorem create_empty_principal :
    let access (principal : Option Text) : Access := ⟨some "s".toList, none, principal, true⟩
    let nesting : Json.Nesting := ⟨980, by decide⟩
    let now := DateTime.inUtc DateTime.epoch (by decide)
    let reply := EndpointReply.transportError []
    (access none).Restated (access (some [])) ∧ ∃ s s' request request',
      create accountWithAudience (access none) ⟨tokenUrlDefault⟩ = .ok (.exchange s) ∧
      create accountWithAudience (access (some [])) ⟨tokenUrlDefault⟩ = .ok (.exchange s') ∧
      (s.token nesting now reply).sent = [request] ∧
      (s'.token nesting now reply).sent = [request'] ∧
      request ≠ request' ∧ ExchangeSource.CarriesSubject s.key none request ∧
      ExchangeSource.CarriesSubject s'.key (some []) request' := by
  intro access nesting now reply
  have hcalls : (match create accountWithAudience (access none) ⟨tokenUrlDefault⟩,
      create accountWithAudience (access (some [])) ⟨tokenUrlDefault⟩ with
    | .ok (.exchange s), .ok (.exchange s') =>
      s.delegate = none && s'.delegate = some [] && (s.token nesting now reply).sent.length = 1 &&
        (s'.token nesting now reply).sent.length = 1 &&
        (s.token nesting now reply).sent ≠ (s'.token nesting now reply).sent
    | _, _ => false) = true := by decide +kernel
  split at hcalls
  · next s s' hs hs' =>
    simp only [Bool.and_eq_true, decide_eq_true_eq] at hcalls
    obtain ⟨⟨⟨⟨hnone, hempty⟩, hone⟩, hone'⟩, hne⟩ := hcalls
    obtain ⟨request, hrequest⟩ := List.length_eq_one_iff.1 hone
    obtain ⟨request', hrequest'⟩ := List.length_eq_one_iff.1 hone'
    have hsubject := @ExchangeSource.carriesSubject_of_mem_sent nesting s now reply request
      (by rw [hrequest]; exact List.mem_cons_self)
    have hsubject' := @ExchangeSource.carriesSubject_of_mem_sent nesting s' now reply request'
      (by rw [hrequest']; exact List.mem_cons_self)
    rw [hnone] at hsubject
    rw [hempty] at hsubject'
    refine ⟨⟨.same _, .same _, .empty, rfl⟩, s, s', request, request', hs, hs', hrequest, hrequest',
      ?_, hsubject, hsubject'⟩
    intro hsame
    rw [hrequest, hrequest', hsame] at hne
    exact hne rfl
  · cases hcalls

end TokenSource

end SignedAccess
