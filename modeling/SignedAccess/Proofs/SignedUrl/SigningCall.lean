import SignedAccess.Proofs.SignedUrl.Binding

/-!
# What a signing call does

A call for a signed URL takes its phases in order: the time of signing, the checks, the request, the
signer, the signature.  Options that are refused end it before anyone is asked to sign.  Under
options that are accepted a request is always built, and what then comes of the call is decided by
the signer alone.

    opts.check now = .error e → create … = failed e                       (create_of_check_eq_error)
    opts.check now = .ok () → create … = sign … request signer                      (create_eq_sign)
-/

namespace SignedAccess

theorem SignReply.result_eq_ok_iff {reply : SignReply} {signature : Bytes} :
    reply.result = .ok signature ↔ reply = .signature signature ∧ signature ≠ [] := by
  cases reply with
  | signature bytes =>
    cases bytes with
    | nil =>
      constructor
      · intro h
        cases h
      · rintro ⟨h, hne⟩
        cases h
        exact absurd rfl hne
    | cons b bytes =>
      constructor
      · intro h
        cases h
        exact ⟨rfl, List.cons_ne_nil _ _⟩
      · rintro ⟨h, -⟩
        cases h
        rfl
  | otherValue => exact ⟨fun h => (nomatch h), fun h => (nomatch h.1)⟩
  | signingError message => exact ⟨fun h => (nomatch h), fun h => (nomatch h.1)⟩
  | failure => exact ⟨fun h => (nomatch h), fun h => (nomatch h.1)⟩
  | interruption => exact ⟨fun h => (nomatch h), fun h => (nomatch h.1)⟩

/-- An answer is bytes, or it ends in a signing error, or it is an interruption. -/
theorem SignReply.result_eq_error {reply : SignReply} {e : Error} (h : reply.result = .error e) :
    (reply ≠ .interruption ∧ ∃ fault, e = .signing fault) ∨
      (reply = .interruption ∧ e = .interrupted) := by
  cases reply with
  | signature bytes =>
    cases bytes with
    | nil =>
      cases h
      exact Or.inl ⟨nofun, _, rfl⟩
    | cons b bytes => cases h
  | otherValue =>
    cases h
    exact Or.inl ⟨nofun, _, rfl⟩
  | signingError message =>
    cases h
    exact Or.inl ⟨nofun, _, rfl⟩
  | failure =>
    cases h
    exact Or.inl ⟨nofun, _, rfl⟩
  | interruption =>
    cases h
    exact Or.inr ⟨rfl, rfl⟩

namespace SignedUrl

variable {storage : StorageSettings} {bucket object url : Text} {opts : SignedUrlOptions}
  {clock now : DateTime} {request : CanonicalRequest} {signer : Signer}

/-! ## Phases -/

/-- Under options that are accepted a request is built. -/
theorem exists_request_of_check_eq_ok (h : opts.check now = .ok ()) :
    ∃ request, CanonicalRequest.build storage bucket object opts now = .ok request := by
  obtain ⟨call, rfl, rfl, rfl, rfl, rfl⟩ :=
    AcceptedCall.exists_of_check_eq_ok h storage bucket object
  exact ⟨call.request, call.built⟩

/-- Options that are refused end a call before it leaves a trace. -/
theorem create_of_check_eq_error {e : Error} (hnow : signingTime clock = .ok now)
    (h : opts.check now = .error e) : create storage bucket object opts clock = Call.failed e := by
  have hprepare : prepare storage bucket object opts clock = .error e := by
    unfold prepare
    rw [hnow]
    show (opts.check now >>= _) = _
    rw [h]
    rfl
  unfold create
  rw [hprepare]
  rfl

theorem create_of_prepare_eq_ok
    (h : prepare storage bucket object opts clock = .ok (request, signer)) :
    create storage bucket object opts clock = sign bucket object opts request signer := by
  unfold create
  rw [h]
  rfl

/-- A call is prepared just when all its phases up to the signature succeed. -/
theorem prepare_eq_ok_iff :
    prepare storage bucket object opts clock = .ok (request, signer) ↔
      ∃ now, signingTime clock = .ok now ∧ opts.check now = .ok () ∧
        CanonicalRequest.build storage bucket object opts now = .ok request ∧
        opts.signer = .ok signer := by
  unfold prepare
  constructor
  · intro h
    obtain ⟨now, hnow, h⟩ := bind_eq_ok_iff.1 h
    obtain ⟨u, haccepted, h⟩ := bind_eq_ok_iff.1 h
    obtain ⟨request', hbuilt, h⟩ := bind_eq_ok_iff.1 h
    obtain ⟨signer', hsigner, h⟩ := bind_eq_ok_iff.1 h
    cases h
    exact ⟨now, hnow, haccepted, hbuilt, hsigner⟩
  · rintro ⟨now, hnow, haccepted, hbuilt, hsigner⟩
    refine bind_eq_ok_iff.2 ⟨now, hnow, bind_eq_ok_iff.2 ⟨(), haccepted, ?_⟩⟩
    exact bind_eq_ok_iff.2 ⟨request, hbuilt, bind_eq_ok_iff.2 ⟨signer, hsigner, rfl⟩⟩

/-- Options that are accepted lead to the signature of the request. -/
theorem create_eq_sign (hnow : signingTime clock = .ok now) (h : opts.check now = .ok ())
    (hbuilt : CanonicalRequest.build storage bucket object opts now = .ok request)
    (hsigner : opts.signer = .ok signer) :
    create storage bucket object opts clock = sign bucket object opts request signer := by
  exact create_of_prepare_eq_ok (prepare_eq_ok_iff.2 ⟨now, hnow, h, hbuilt, hsigner⟩)

/-- A prepared request is that of an accepted call at the time that the clock gives. -/
theorem exists_call_at_of_prepare
    (h : prepare storage bucket object opts clock = .ok (request, signer)) :
    ∃ call : AcceptedCall, signingTime clock = .ok call.now ∧ call.storage = storage ∧
      call.bucket = bucket ∧ call.object = object ∧ call.opts = opts ∧ call.request = request := by
  obtain ⟨now, hnow, haccepted, hbuilt, -⟩ := prepare_eq_ok_iff.1 h
  exact ⟨⟨storage, bucket, object, opts, now, request, haccepted, hbuilt⟩, hnow, rfl, rfl, rfl, rfl,
    rfl⟩

/-- A prepared request is that of an accepted call at the time of signing. -/
theorem exists_call_of_prepare
    (h : prepare storage bucket object opts clock = .ok (request, signer)) :
    ∃ call : AcceptedCall, call.AtSigningTime ∧ call.storage = storage ∧ call.bucket = bucket ∧
      call.object = object ∧ call.opts = opts ∧ call.request = request := by
  obtain ⟨call, hnow, hcall⟩ := exists_call_at_of_prepare h
  exact ⟨call, ⟨clock, hnow⟩, hcall⟩

/-! ## Signatures -/

theorem signLogged_of_ok {signature : Bytes} (entry : LogEntry) (insecure : Bool)
    (h : signer.sign (Utf8.encode request.stringToSign) = .ok signature) :
    signLogged entry insecure request signer =
      ⟨.ok (request.url insecure signature), [entry],
        signer.asked (Utf8.encode request.stringToSign)⟩ := by
  simp only [signLogged, h]

theorem signLogged_of_error {e : Error} (entry : LogEntry) (insecure : Bool)
    (h : signer.sign (Utf8.encode request.stringToSign) = .error e) :
    signLogged entry insecure request signer =
      ⟨.error e, [], signer.asked (Utf8.encode request.stringToSign)⟩ := by
  simp only [signLogged, h]

theorem sign_of_ok {signature : Bytes}
    (h : signer.sign (Utf8.encode request.stringToSign) = .ok signature) :
    sign bucket object opts request signer =
      ⟨.ok (request.url opts.insecure signature), [created bucket object opts request],
        signer.asked (Utf8.encode request.stringToSign)⟩ :=
  signLogged_of_ok _ _ h

theorem sign_of_error {e : Error}
    (h : signer.sign (Utf8.encode request.stringToSign) = .error e) :
    sign bucket object opts request signer =
      ⟨.error e, [], signer.asked (Utf8.encode request.stringToSign)⟩ :=
  signLogged_of_error _ _ h

/-- A URL is that of the prepared request with the signature of its text. -/
theorem exists_signature_of_create
    (h : (create storage bucket object opts clock).result = .ok url) :
    ∃ request signer signature,
      prepare storage bucket object opts clock = .ok (request, signer) ∧
      signer.sign (Utf8.encode request.stringToSign) = .ok signature ∧
      (create storage bucket object opts clock).sent =
        signer.asked (Utf8.encode request.stringToSign) ∧
      url = request.url opts.insecure signature := by
  cases hprepare : prepare storage bucket object opts clock with
  | error e =>
    unfold create at h
    rw [hprepare] at h
    cases h
  | ok p =>
    obtain ⟨request, signer⟩ := p
    have hcreate := create_of_prepare_eq_ok hprepare
    cases hsign : signer.sign (Utf8.encode request.stringToSign) with
    | error fault =>
      rw [hcreate, sign_of_error hsign] at h
      cases h
    | ok signature =>
      rw [hcreate, sign_of_ok hsign] at h ⊢
      exact ⟨request, signer, signature, rfl, hsign, rfl, (Except.ok.inj h).symm⟩

/-- A signed URL ends with its signature. -/
theorem exists_url_eq_append (insecure : Bool) (signature : Bytes) (request : CanonicalRequest) :
    ∃ front, request.url insecure signature =
      front ++ "&X-Goog-Signature=".toList ++ Hex.encode signature := by
  refine ⟨(if insecure then "http".toList else "https".toList) ++ "://".toList ++ request.host ++
    request.path ++ '?' :: request.query, ?_⟩
  have hmark : "&X-Goog-Signature=".toList = '&' :: CanonicalRequest.signatureKey ++ ['='] := by
    decide
  unfold CanonicalRequest.url
  rw [hmark]
  simp only [List.append_assoc, List.cons_append, List.nil_append]

end SignedUrl

end SignedAccess
