import SignedAccess.Proofs.SignedUrl.SigningCall
import SignedAccess.SignedUrl.BucketHandle

/-!
# How a call for a signed URL ends

A call gives a URL, or it fails with one of the library's own errors: options that are refused, a
signature that there is none of, or, for a bucket with credentials, a private key that is missing.
One failure is not among them: an instant beyond the years 1 to 9999, which the call comes to
just when the clock shows one, when the end of validity is one, or when less than seven days and a
second are left of the year 9999 (`LeavesCalendar`).  And where the function that signs is
interrupted, so is the call.

    (create …).result = .error (.time .outOfRange) ↔ LeavesCalendar opts clock   (closed_create)
-/

namespace SignedAccess

namespace SignedUrl

variable {storage : StorageSettings} {bucket object : Text} {opts : SignedUrlOptions}
  {clock now : DateTime} {request : CanonicalRequest} {signer : Signer}

/-! ## Outcomes -/

/-- Whether a call comes to an instant beyond the calendar: that of the clock, or one to which the
checks at the time of signing come. -/
def LeavesCalendar (opts : SignedUrlOptions) (clock : DateTime) : Prop :=
  ¬InCalendar clock.micros ∨ ∃ now, signingTime clock = .ok now ∧ opts.LeavesCalendar now

/-- Whether options have a function that signs and may be interrupted. -/
def MayBeInterrupted (opts : SignedUrlOptions) : Prop :=
  ∃ f message, opts.signBytes = some f ∧ f message = .interruption

/-- Whether a result is a URL, a refusal of the options by the first condition that they do not
meet, a signing error, an interruption, or, where the call leaves the calendar, the error that tells
so. -/
structure Closed (opts : SignedUrlOptions) (clock : DateTime) (result : Except Error Text) :
    Prop where
  leaves_iff : result = .error (.time .outOfRange) ↔ LeavesCalendar opts clock
  refused_iff : ∀ reason detail, result = .error (.invalidOption reason detail) ↔
    ¬LeavesCalendar opts clock ∧ ∃ now, signingTime clock = .ok now ∧
      opts.FirstFailure now reason ∧ opts.Names reason detail
  kinds : (∃ url, result = .ok url) ∨ result = .error (.time .outOfRange) ∨
    (result = .error .interrupted ∧ MayBeInterrupted opts) ∨
    ∃ error kind, result = .error error ∧ error.kind? = some kind ∧
      kind ∈ [ErrorKind.invalidOption, .signing]

/-! ## Phases -/

theorem signingTime_eq_error (h : ¬InCalendar clock.micros) :
    signingTime clock = .error (.time .outOfRange) := by
  unfold signingTime
  rw [DateTime.utc_eq_error h]
  rfl

theorem leavesCalendar_iff (hnow : signingTime clock = .ok now) :
    LeavesCalendar opts clock ↔ opts.LeavesCalendar now := by
  have hin := (of_signingTime_eq_ok hnow).1
  constructor
  · rintro (hout | ⟨now', hnow', hleaves⟩)
    · exact absurd hin hout
    · rw [hnow] at hnow'
      cases hnow'
      exact hleaves
  · exact fun hleaves => Or.inr ⟨now, hnow, hleaves⟩

theorem create_of_prepare_eq_error {e : Error}
    (h : prepare storage bucket object opts clock = .error e) :
    create storage bucket object opts clock = Call.failed e := by
  unfold create
  rw [h]
  rfl

/-- Whoever signs, a signature there is none of is a signing error. -/
theorem exists_fault_of_signer {e : Error} (h : opts.signer = .error e) :
    ∃ fault, e = .signing fault := by
  unfold SignedUrlOptions.signer at h
  cases hsign : opts.signBytes with
  | some f =>
    rw [hsign] at h
    cases h
  | none =>
    rw [hsign] at h
    unfold PrivateKey.loadText PrivateKey.load at h
    cases hkey : PrivateKey.ofOutcome (KeyFile.load (Utf8.encode opts.privateKey)) with
    | ok key =>
      rw [hkey] at h
      cases h
    | error fault =>
      rw [hkey] at h
      exact ⟨fault, (Except.error.inj h).symm⟩

/-- Whoever signs under options, a signature fails with a signing error or is interrupted. -/
theorem sign_error_cases {message : Bytes} {e : Error} (hsigner : opts.signer = .ok signer)
    (h : signer.sign message = .error e) :
    (∃ fault, e = .signing fault) ∨ (e = .interrupted ∧ MayBeInterrupted opts) := by
  cases signer with
  | caller f =>
    rcases SignReply.result_eq_error h with ⟨-, hfault⟩ | ⟨hinterrupted, he⟩
    · exact Or.inl hfault
    · refine Or.inr ⟨he, f, message, ?_, hinterrupted⟩
      unfold SignedUrlOptions.signer at hsigner
      split at hsigner
      · next g hg =>
        cases hsigner
        exact hg
      · obtain ⟨key, -, hkey⟩ := exists_of_map_eq_ok hsigner
        cases hkey
  | key k =>
    simp only [Signer.sign] at h
    split at h
    · cases h
    · cases h
      exact Or.inl ⟨_, rfl⟩

/-- Options that are accepted lead to a URL, to a signing error or to an interruption. -/
theorem result_cases_of_check_eq_ok (hnow : signingTime clock = .ok now)
    (h : opts.check now = .ok ()) :
    (∃ url, (create storage bucket object opts clock).result = .ok url) ∨
      (∃ fault, (create storage bucket object opts clock).result = .error (.signing fault)) ∨
      ((create storage bucket object opts clock).result = .error .interrupted ∧
        MayBeInterrupted opts) := by
  obtain ⟨request, hbuilt⟩ := exists_request_of_check_eq_ok h
  cases hsigner : opts.signer with
  | ok signer =>
    rw [create_eq_sign hnow h hbuilt hsigner]
    cases hsign : signer.sign (Utf8.encode request.stringToSign) with
    | ok signature =>
      rw [sign_of_ok hsign]
      exact Or.inl ⟨_, rfl⟩
    | error e =>
      rw [sign_of_error hsign]
      rcases sign_error_cases hsigner hsign with ⟨fault, rfl⟩ | ⟨rfl, hmay⟩
      · exact Or.inr (Or.inl ⟨fault, rfl⟩)
      · exact Or.inr (Or.inr ⟨rfl, hmay⟩)
  | error e =>
    obtain ⟨fault, rfl⟩ := exists_fault_of_signer hsigner
    have hprepare : prepare storage bucket object opts clock = .error (.signing fault) := by
      unfold prepare
      rw [hnow]
      show (opts.check now >>= _) = _
      rw [h]
      show (CanonicalRequest.build storage bucket object opts now >>= _) = _
      rw [hbuilt]
      show (opts.signer >>= _) = _
      rw [hsigner]
      rfl
    rw [create_of_prepare_eq_error hprepare]
    exact Or.inr (Or.inl ⟨fault, rfl⟩)

/-! ## Calls -/

theorem closed_of_leavesCalendar {result : Except Error Text} (hleaves : LeavesCalendar opts clock)
    (hresult : result = .error (.time .outOfRange)) : Closed opts clock result := by
  rw [hresult]
  refine ⟨⟨fun _ => hleaves, fun _ => rfl⟩, fun reason detail => ⟨?_, ?_⟩, Or.inr (Or.inl rfl)⟩
  · intro h
    cases h
  · rintro ⟨hstays, -⟩
    exact absurd hleaves hstays

theorem closed_of_settles {error : Error} (hnow : signingTime clock = .ok now)
    (hstays : ¬LeavesCalendar opts clock)
    (hsettles : opts.Settles now OptionReason.all (.error error)) :
    Closed opts clock (.error error) := by
  obtain ⟨reason, detail, hfirst, hnames, rfl⟩ :=
    (SignedUrlOptions.eq_error_iff_of_settles hsettles).1 rfl
  refine ⟨⟨fun h => (nomatch h), fun h => absurd h hstays⟩, fun reason' detail' => ⟨?_, ?_⟩, ?_⟩
  · intro h
    cases h
    exact ⟨hstays, now, hnow, hfirst, hnames⟩
  · rintro ⟨-, now', hnow', hfirst', hnames'⟩
    rw [hnow] at hnow'
    cases hnow'
    have herror := (SignedUrlOptions.eq_error_iff_of_settles hsettles).2
      ⟨reason', detail', hfirst', hnames', rfl⟩
    rw [Except.error.inj herror]
  · exact Or.inr (Or.inr (Or.inr ⟨_, _, rfl, rfl, by decide⟩))

/-- The outcome of a call at the time of signing is that of the checks, and where they accept the
options it is that of the signer. -/
theorem closed_of_signingTime (hnow : signingTime clock = .ok now) :
    Closed opts clock (create storage bucket object opts clock).result := by
  rcases SignedUrlOptions.settlesUnless_check opts now with ⟨hout, herror⟩ | ⟨hin, hsettles⟩
  · rw [create_of_check_eq_error hnow herror]
    exact closed_of_leavesCalendar ((leavesCalendar_iff hnow).2 hout) rfl
  · have hstays : ¬LeavesCalendar opts clock := fun h => hin ((leavesCalendar_iff hnow).1 h)
    cases hcheck : opts.check now with
    | error error =>
      rw [create_of_check_eq_error hnow hcheck]
      rw [hcheck] at hsettles
      exact closed_of_settles hnow hstays hsettles
    | ok u =>
      have hmeets := (SignedUrlOptions.eq_ok_iff_of_settles hsettles).1 hcheck
      have hnone {reason : OptionReason} {detail : Option Text} : ¬(¬LeavesCalendar opts clock ∧
          ∃ now, signingTime clock = .ok now ∧ opts.FirstFailure now reason ∧
            opts.Names reason detail) := by
        rintro ⟨-, now', hnow', hfirst, -⟩
        rw [hnow] at hnow'
        cases hnow'
        exact hfirst.1 (hmeets reason)
      rcases @result_cases_of_check_eq_ok storage bucket object opts clock now hnow hcheck with
        ⟨url, hurl⟩ | ⟨fault, hfault⟩ | ⟨hinterrupted, hmay⟩
      · rw [hurl]
        exact ⟨⟨fun h => (nomatch h), fun h => absurd h hstays⟩,
          fun _ _ => ⟨fun h => (nomatch h), fun h => absurd h hnone⟩, Or.inl ⟨url, rfl⟩⟩
      · rw [hfault]
        exact ⟨⟨fun h => (nomatch h), fun h => absurd h hstays⟩,
          fun _ _ => ⟨fun h => (nomatch h), fun h => absurd h hnone⟩,
          Or.inr (Or.inr (Or.inr ⟨_, _, rfl, rfl, by decide⟩))⟩
      · rw [hinterrupted]
        exact ⟨⟨fun h => (nomatch h), fun h => absurd h hstays⟩,
          fun _ _ => ⟨fun h => (nomatch h), fun h => absurd h hnone⟩,
          Or.inr (Or.inr (Or.inl ⟨rfl, hmay⟩))⟩

/-- Every call for a signed URL is closed. -/
theorem closed_create (storage : StorageSettings) (bucket object : Text) (opts : SignedUrlOptions)
    (clock : DateTime) : Closed opts clock (create storage bucket object opts clock).result := by
  by_cases hin : InCalendar clock.micros
  · obtain ⟨now, hnow⟩ := exists_signingTime hin
    exact closed_of_signingTime hnow
  · have hprepare : prepare storage bucket object opts clock = .error (.time .outOfRange) := by
      unfold prepare
      rw [signingTime_eq_error hin]
      rfl
    rw [create_of_prepare_eq_error hprepare]
    exact closed_of_leavesCalendar (Or.inl hin) rfl

end SignedUrl

namespace BucketHandle

open SignedUrl (Closed create)

/-- Options are completed unless the credentials lack the private key that the options lack. -/
theorem optionsFor_cases (bucket : BucketHandle) (opts : SignedUrlOptions) :
    (∃ opts', bucket.optionsFor opts = .ok opts') ∨
      ∃ account, bucket.optionsFor opts = .error (.missingPrivateKey account) := by
  unfold optionsFor
  cases bucket.credentials with
  | none => exact Or.inl ⟨opts, rfl⟩
  | some c =>
    simp only [SignedUrlOptions.completed, Credentials.requirePrivateKey]
    by_cases hmissing : opts.privateKey = [] ∧ opts.signBytes.isNone
    · rw [if_pos hmissing]
      by_cases hkey : c.privateKey = []
      · rw [if_pos hkey]
        exact Or.inr ⟨c.clientEmail, rfl⟩
      · rw [if_neg hkey]
        exact Or.inl ⟨_, rfl⟩
    · rw [if_neg hmissing]
      exact Or.inl ⟨_, rfl⟩

/-- A URL that is asked for, of a bucket's name or of the bucket with its credentials, is given or
refused with an error of the library: the options are refused by the first condition that they do
not meet, a private key is missing, or there is no signature.  What escapes is the error that an
instant lies beyond the calendar, just where the call comes to one, and an interruption of the
function that signs. -/
theorem signedUrl_closed (bucket : BucketHandle) (storage : StorageSettings) (object : Text)
    (opts : SignedUrlOptions) (clock : DateTime) :
    Closed opts clock (create storage bucket.name object opts clock).result ∧
      ((∃ opts', bucket.optionsFor opts = .ok opts' ∧
          Closed opts' clock (bucket.signedUrl storage object opts clock).result) ∨
        ∃ account, bucket.optionsFor opts = .error (.missingPrivateKey account) ∧
          (bucket.signedUrl storage object opts clock).result =
            .error (.missingPrivateKey account)) ∧
      ∀ kind ∈ [ErrorKind.invalidOption, .missingPrivateKey, .signing], .base ∈ kind.ancestors := by
  refine ⟨SignedUrl.closed_create _ _ _ _ _, ?_, ?_⟩
  · unfold signedUrl
    rcases bucket.optionsFor_cases opts with ⟨opts', hopts⟩ | ⟨account, hmissing⟩
    · rw [hopts]
      exact Or.inl ⟨opts', rfl, SignedUrl.closed_create storage bucket.name object opts' clock⟩
    · rw [hmissing]
      exact Or.inr ⟨account, rfl, rfl⟩
  · decide

/-- An end of validity that is to be never, the last second of the year 9999 on a clock behind UTC,
is too far; the call that has to say so ends with an error that is none of the library's. -/
theorem signedUrl_never_expires :
    let never : DateTime := ⟨clockSpan - microsPerSecond, some (-60 * microsPerMinute), by decide⟩
    let opts := { AcceptedCall.bareWith [] with expires := some never }
    let bucket : BucketHandle := ⟨"bucket".toList, none⟩
    opts.FirstFailure AcceptedCall.midnight .expiresTooFar ∧
      (bucket.signedUrl ⟨[]⟩ "object".toList opts AcceptedCall.midnight).result =
        .error (.time .outOfRange) ∧
      (Error.time .outOfRange).kind? = none := by
  intro never opts bucket
  have hmeets := @SignedUrlOptions.meets_of_check_eq_ok (AcceptedCall.bareWith [])
    AcceptedCall.midnight (eq_ok_of_toBool (by decide +kernel))
  refine ⟨⟨fun h => ?_, [.missingAccessId, .signerRequired, .invalidMethod, .missingExpires,
    .expiresInPast, .invalidMd5, .invalidMd5Length], [.reservedQueryParameter, .reservedHeader],
    rfl, ?_⟩, ?_, rfl⟩
  · exact absurd (h never rfl) (by decide)
  · -- but for the end of validity these are options that are accepted
    intro earlier hearlier
    simp only [List.mem_cons, List.not_mem_nil, or_false] at hearlier
    rcases hearlier with rfl | rfl | rfl | rfl | rfl | rfl | rfl
    · exact hmeets .missingAccessId
    · exact hmeets .signerRequired
    · exact hmeets .invalidMethod
    · exact fun h => nomatch h
    · intro expires h
      cases h
      decide
    · exact hmeets .invalidMd5
    · exact hmeets .invalidMd5Length
  · decide +kernel

end BucketHandle

end SignedAccess
