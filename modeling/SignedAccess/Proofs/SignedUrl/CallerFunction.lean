import SignedAccess.Proofs.SignedUrl.SigningCall
import SignedAccess.SignedUrl.CodeOptions

/-!
# Calls with a function of the caller

A caller gives strings, some of which may be no texts, and a function that signs.  Options that are
refused end the call before the function is asked.  Under options that are accepted the request is
built and the function is asked once for the signature of its text, unless a string that goes into
the request is no text: then there is nothing to sign.  The answer of the function alone decides
between a URL with a log entry and an error without one.

    opts.check now = .error e → opts.create … = failed e             (create_of_check_eq_error)
    opts.check now = .ok () → opts.IsEncodable bucket object →
      opts.prepare … = .ok (request, .caller f)                      (exists_prepare_of_isEncodable)
-/

namespace SignedAccess

namespace SignedUrl

variable {request : CanonicalRequest} {f : SignFunction} {entry : LogEntry}

/-! ## Answers -/

/-- What a call leaves behind in which a function of the caller is asked to sign a message. -/
structure Answered (call : Call Bytes Text) (f : SignFunction) (message : Bytes)
    (entry : LogEntry) : Prop where
  /-- The function is asked once. -/
  sent : call.sent = [message]
  /-- There is a URL just when the function answers with bytes. -/
  url_iff : (∃ url, call.result = .ok url) ↔
    ∃ signature, f message = .signature signature ∧ signature ≠ []
  /-- A URL ends with these bytes, and is logged. -/
  url : ∀ url, call.result = .ok url → call.log = [entry] ∧ ∃ signature front,
    f message = .signature signature ∧
      url = front ++ "&X-Goog-Signature=".toList ++ Hex.encode signature
  /-- Without a URL nothing is logged, and unless the function was interrupted there is a signing
  error. -/
  error : ∀ error, call.result = .error error →
    call.log = [] ∧ (f message ≠ .interruption → error.kind? = some .signing)
  /-- A signing error of the function is passed on. -/
  reported : ∀ text, f message = .signingError text →
    call.result = .error (.signing (.reported text))
  /-- An interruption goes through. -/
  interrupted : f message = .interruption → call.result = .error .interrupted

theorem answered_signLogged (entry : LogEntry) (insecure : Bool) (request : CanonicalRequest)
    (f : SignFunction) :
    Answered (signLogged entry insecure request (.caller f)) f (Utf8.encode request.stringToSign)
      entry := by
  have hasked : (Signer.caller f).sign (Utf8.encode request.stringToSign) =
      (f (Utf8.encode request.stringToSign)).result := rfl
  cases hresult : (f (Utf8.encode request.stringToSign)).result with
  | ok signature =>
    obtain ⟨hreply, hne⟩ := SignReply.result_eq_ok_iff.1 hresult
    rw [signLogged_of_ok _ _ (hasked.trans hresult)]
    refine ⟨rfl, ⟨fun _ => ⟨signature, hreply, hne⟩, fun _ => ⟨_, rfl⟩⟩, ?_, ?_, ?_, ?_⟩
    · intro url hurl
      obtain ⟨front, hfront⟩ := exists_url_eq_append insecure signature request
      exact ⟨rfl, signature, front, hreply, (Except.ok.inj hurl).symm.trans hfront⟩
    · intro error herror
      cases herror
    · intro text htext
      rw [hreply] at htext
      cases htext
    · intro hinterrupted
      rw [hreply] at hinterrupted
      cases hinterrupted
  | error e =>
    rw [signLogged_of_error _ _ (hasked.trans hresult)]
    refine ⟨rfl, ⟨?_, ?_⟩, ?_, ?_, ?_, ?_⟩
    · rintro ⟨url, hurl⟩
      cases hurl
    · rintro ⟨signature, hsignature⟩
      rw [SignReply.result_eq_ok_iff.2 hsignature] at hresult
      cases hresult
    · intro url hurl
      cases hurl
    · intro error herror
      cases herror
      refine ⟨rfl, fun hgoes => ?_⟩
      rcases SignReply.result_eq_error hresult with ⟨-, fault, rfl⟩ | ⟨hinterrupted, -⟩
      · rfl
      · exact absurd hinterrupted hgoes
    · intro text htext
      rw [htext] at hresult
      cases hresult
      rfl
    · intro hinterrupted
      rw [hinterrupted] at hresult
      cases hresult
      rfl

def createdEntries (log : List LogEntry) : List LogEntry :=
  log.filter fun entry => entry.event = "signed_url.created".toList

/-- A call in which a function of the caller is asked logs one URL just when there is one. -/
theorem length_createdEntries_iff {call : Call Bytes Text} {message : Bytes}
    (hentry : createdEntries [entry] = [entry]) (h : Answered call f message entry) :
    (createdEntries call.log).length = 1 ↔ ∃ url, call.result = .ok url := by
  cases hresult : call.result with
  | ok url =>
    rw [(h.url url hresult).1, hentry]
    exact ⟨fun _ => ⟨url, rfl⟩, fun _ => rfl⟩
  | error e =>
    rw [(h.error e hresult).1]
    exact ⟨fun hlength => (nomatch hlength), fun ⟨_, hurl⟩ => (nomatch hurl)⟩

end SignedUrl

/-! ## Strings -/

namespace CodeOptions

open SignedUrl (signingTime Answered createdEntries)

variable {opts : CodeOptions} {storage : StorageSettings} {bucket object : CodeText}
  {clock now : DateTime} {f : SignFunction}

/-- Whether all strings of a list are texts. -/
def AreTexts (strings : List CodeText) : Prop := ∀ t ∈ strings, ∃ s, t = CodeText.ofText s

theorem areTexts_append_iff {ts us : List CodeText} :
    AreTexts (ts ++ us) ↔ AreTexts ts ∧ AreTexts us :=
  List.forall_mem_append

theorem areTexts_cons_ofText (t : Text) {ts : List CodeText} (h : AreTexts ts) :
    AreTexts (.ofText t :: ts) :=
  List.forall_mem_cons.2 ⟨⟨t, rfl⟩, h⟩

theorem areTexts_map_ofText (ts : List Text) : AreTexts (ts.map CodeText.ofText) := by
  intro t ht
  obtain ⟨s, -, rfl⟩ := List.mem_map.1 ht
  exact ⟨s, rfl⟩

theorem requireTexts_eq_ok_iff {strings : List CodeText} :
    requireTexts strings = .ok () ↔ AreTexts strings := by
  have htext (t : CodeText) : t.text?.isSome = true ↔ ∃ s, t = CodeText.ofText s := by
    constructor
    · intro h
      obtain ⟨s, hs⟩ := Option.isSome_iff_exists.1 h
      exact ⟨s, CodeText.eq_ofText_of_text? hs⟩
    · rintro ⟨s, rfl⟩
      rw [CodeText.text?_ofText]
      rfl
  unfold requireTexts AreTexts
  split
  · next hall => simpa [htext] using hall
  · next hall => simpa [htext] using hall

theorem requireTexts_eq_error {strings : List CodeText} (h : ¬AreTexts strings) :
    requireTexts strings = .error .unencodable := by
  rw [← requireTexts_eq_ok_iff] at h
  unfold requireTexts at h ⊢
  split
  · next hall => exact absurd (if_pos hall) h
  · rfl

/-- Whether the strings that go into a request are texts. -/
def IsEncodable (opts : CodeOptions) (bucket object : CodeText) : Prop :=
  AreTexts (opts.queryStrings bucket object ++ opts.headerStrings bucket)

/-! ## Texts -/

theorem shown_ofOptions (opts : SignedUrlOptions) : (ofOptions opts).shown = opts := by
  have hback : CodeText.shown ∘ CodeText.ofText = id := funext CodeText.shown_ofText
  have hlist (ts : List Text) : (ts.map CodeText.ofText).map CodeText.shown = ts := by
    rw [List.map_map, hback, List.map_id]
  have hpairs (ps : List (Text × List Text)) :
      (ps.map fun p => (CodeText.ofText p.1, p.2.map CodeText.ofText)).map
        (fun p => (p.1.shown, p.2.map CodeText.shown)) = ps := by
    simp [Function.comp_def]
  have hstyle (style : UrlStyle) : (CodeStyle.ofStyle style).shown = style := by
    cases style with
    | path endpoint =>
      show UrlStyle.path ((endpoint.map CodeText.ofText).map CodeText.shown) = _
      rw [Option.map_map, hback, Option.map_id]
      rfl
    | virtualHosted => rfl
    | boundHostname hostname =>
      exact congrArg UrlStyle.boundHostname (CodeText.shown_ofText hostname)
  simp only [ofOptions, shown, CodeText.shown_ofText, hlist, hpairs, hstyle]

theorem areTexts_signedHeaders (opts : SignedUrlOptions) :
    AreTexts (ofOptions opts).signedHeaders :=
  fun t ht => areTexts_map_ofText opts.headers t (List.mem_filter.1 ht).1

theorem areTexts_queryStrings (opts : SignedUrlOptions) (bucket object : Text) :
    AreTexts ((ofOptions opts).queryStrings (.ofText bucket) (.ofText object)) := by
  have hpath : AreTexts ((ofOptions opts).style.pathStrings (.ofText bucket) (.ofText object)) := by
    show AreTexts ((CodeStyle.ofStyle opts.style).pathStrings _ _)
    cases opts.style with
    | path endpoint => exact areTexts_map_ofText [bucket, object]
    | virtualHosted => exact areTexts_map_ofText [object]
    | boundHostname hostname => exact areTexts_map_ofText [object]
  have hnames : AreTexts ((ofOptions opts).signedHeaders.map
      fun entry => entry.takeWhile (· ≠ .char ':')) := by
    intro t ht
    obtain ⟨entry, hentry, rfl⟩ := List.mem_map.1 ht
    obtain ⟨s, rfl⟩ := areTexts_signedHeaders opts entry hentry
    exact ⟨_, List.takeWhile_map⟩
  have hparameters : AreTexts ((ofOptions opts).queryParameters.flatMap
      fun p => if p.2 = [] then [] else p.1 :: p.2) := by
    intro t ht
    obtain ⟨p, hp, ht⟩ := List.mem_flatMap.1 ht
    obtain ⟨⟨name, values⟩, -, rfl⟩ := List.mem_map.1 hp
    split at ht
    · cases ht
    · exact areTexts_map_ofText (name :: values) t ht
  exact areTexts_append_iff.2 ⟨areTexts_append_iff.2
    ⟨hpath, areTexts_cons_ofText opts.accessId hnames⟩, hparameters⟩

theorem areTexts_headerStrings (opts : SignedUrlOptions) (bucket : Text) :
    AreTexts ((ofOptions opts).headerStrings (.ofText bucket)) := by
  have hhost : AreTexts ((ofOptions opts).style.hostStrings (.ofText bucket)) := by
    show AreTexts ((CodeStyle.ofStyle opts.style).hostStrings _)
    cases opts.style with
    | path endpoint =>
      cases endpoint with
      | none => exact areTexts_map_ofText []
      | some endpoint => exact areTexts_map_ofText [endpoint]
    | virtualHosted => exact areTexts_map_ofText [bucket]
    | boundHostname hostname => exact areTexts_map_ofText [hostname]
  exact areTexts_append_iff.2
    ⟨hhost, areTexts_cons_ofText opts.contentType (areTexts_signedHeaders opts)⟩

theorem isEncodable_ofOptions (opts : SignedUrlOptions) (bucket object : Text) :
    (ofOptions opts).IsEncodable (.ofText bucket) (.ofText object) :=
  areTexts_append_iff.2
    ⟨areTexts_queryStrings opts bucket object, areTexts_headerStrings opts bucket⟩

theorem prepare_ofOptions (opts : SignedUrlOptions) (storage : StorageSettings)
    (bucket object : Text) (clock : DateTime) :
    (ofOptions opts).prepare storage (.ofText bucket) (.ofText object) clock =
      SignedUrl.prepare storage bucket object opts clock := by
  have hsigner : (ofOptions opts).signer = opts.signer := by
    have hkey : requireTexts [(ofOptions opts).privateKey] = .ok () :=
      requireTexts_eq_ok_iff.2 (areTexts_map_ofText [opts.privateKey])
    unfold signer
    rw [hkey, shown_ofOptions]
    show (if (ofOptions opts).signBytes.isNone then opts.signer else opts.signer) = opts.signer
    exact ite_self _
  have hquery := requireTexts_eq_ok_iff.2 (areTexts_queryStrings opts bucket object)
  have hheaders := requireTexts_eq_ok_iff.2 (areTexts_headerStrings opts bucket)
  unfold prepare SignedUrl.prepare check
  simp only [shown_ofOptions, CodeText.shown_ofText, hsigner, hquery, hheaders]
  rfl

/-- With texts a call is the call of options of texts. -/
theorem create_ofOptions (opts : SignedUrlOptions) (storage : StorageSettings)
    (bucket object : Text) (clock : DateTime) :
    (ofOptions opts).create storage (.ofText bucket) (.ofText object) clock =
      SignedUrl.create storage bucket object opts clock := by
  have hentry (request : CanonicalRequest) :
      (ofOptions opts).created (.ofText bucket) (.ofText object) request =
        SignedUrl.created bucket object opts request := by
    simp [created, SignedUrl.created, Json.ofPoints, ofOptions]
  unfold create SignedUrl.create SignedUrl.sign
  rw [prepare_ofOptions]
  simp only [hentry]
  rfl

/-! ## Phases -/

theorem create_of_prepare_eq_error {e : Error}
    (h : opts.prepare storage bucket object clock = .error e) :
    opts.create storage bucket object clock = Call.failed e := by
  unfold create
  rw [h]
  rfl

/-- Options that are refused end a call before it leaves a trace. -/
theorem create_of_check_eq_error {e : Error} (hnow : signingTime clock = .ok now)
    (h : opts.check now = .error e) :
    opts.create storage bucket object clock = Call.failed e := by
  refine create_of_prepare_eq_error ?_
  unfold prepare
  rw [hnow]
  show (opts.check now >>= _) = _
  rw [h]
  rfl

theorem signer_of_function (hf : opts.signBytes = some f) : opts.signer = .ok (.caller f) := by
  unfold signer SignedUrlOptions.signer
  rw [show opts.shown.signBytes = some f from hf, hf]
  rfl

/-- Under options that are accepted a request of texts is built, for the function to sign. -/
theorem exists_prepare_of_isEncodable (hf : opts.signBytes = some f)
    (hnow : signingTime clock = .ok now) (haccepted : opts.check now = .ok ())
    (hencodable : opts.IsEncodable bucket object) : ∃ request,
      CanonicalRequest.build storage bucket.shown object.shown opts.shown now = .ok request ∧
      opts.prepare storage bucket object clock = .ok (request, .caller f) := by
  obtain ⟨request, hbuilt⟩ := SignedUrl.exists_request_of_check_eq_ok haccepted
  obtain ⟨hquery, hheaders⟩ := areTexts_append_iff.1 hencodable
  refine ⟨request, hbuilt, bind_eq_ok_iff.2 ⟨now, hnow, ?_⟩⟩
  refine bind_eq_ok_iff.2 ⟨(), haccepted, ?_⟩
  refine bind_eq_ok_iff.2 ⟨(), requireTexts_eq_ok_iff.2 hquery, ?_⟩
  refine bind_eq_ok_iff.2 ⟨request, hbuilt, bind_eq_ok_iff.2 ⟨.caller f, ?_, ?_⟩⟩
  · exact signer_of_function hf
  · exact bind_eq_ok_iff.2 ⟨(), requireTexts_eq_ok_iff.2 hheaders, rfl⟩

/-- Under options that are accepted the function is asked to sign a request of texts. -/
theorem exists_answered_of_isEncodable (hf : opts.signBytes = some f)
    (hnow : signingTime clock = .ok now) (haccepted : opts.check now = .ok ())
    (hencodable : opts.IsEncodable bucket object) : ∃ request,
      CanonicalRequest.build storage bucket.shown object.shown opts.shown now = .ok request ∧
      Answered (opts.create storage bucket object clock) f (Utf8.encode request.stringToSign)
        (opts.created bucket object request) := by
  obtain ⟨request, hbuilt, hprepare⟩ :=
    @exists_prepare_of_isEncodable _ storage _ _ _ _ _ hf hnow haccepted hencodable
  have hcall : opts.create storage bucket object clock = SignedUrl.signLogged
      (opts.created bucket object request) opts.insecure request (.caller f) := by
    unfold create
    rw [hprepare]
    rfl
  exact ⟨request, hbuilt, hcall ▸ SignedUrl.answered_signLogged _ _ _ _⟩

/-- A string that goes into the request and is no text ends the call before the function is
asked. -/
theorem create_of_not_isEncodable (hf : opts.signBytes = some f)
    (hnow : signingTime clock = .ok now) (haccepted : opts.check now = .ok ())
    (hunencodable : ¬opts.IsEncodable bucket object) :
    opts.create storage bucket object clock = Call.failed .unencodable := by
  obtain ⟨request, hbuilt⟩ := @SignedUrl.exists_request_of_check_eq_ok storage bucket.shown
    object.shown _ _ haccepted
  refine create_of_prepare_eq_error ?_
  unfold prepare
  rw [hnow]
  show (opts.check now >>= _) = _
  rw [haccepted]
  show (requireTexts (opts.queryStrings bucket object) >>= _) = _
  by_cases hquery : AreTexts (opts.queryStrings bucket object)
  · have hheaders : ¬AreTexts (opts.headerStrings bucket) :=
      fun h => hunencodable (areTexts_append_iff.2 ⟨hquery, h⟩)
    rw [requireTexts_eq_ok_iff.2 hquery]
    show (CanonicalRequest.build storage bucket.shown object.shown opts.shown now >>= _) = _
    rw [hbuilt]
    show (opts.signer >>= _) = _
    rw [signer_of_function hf]
    show (requireTexts (opts.headerStrings bucket) >>= _) = _
    rw [requireTexts_eq_error hheaders]
    rfl
  · rw [requireTexts_eq_error hquery]
    rfl

/-! ## Calls -/

/-- A call with a function of the caller logs one URL just when there is one. -/
theorem length_createdEntries_create_iff (hf : opts.signBytes = some f)
    (hnow : signingTime clock = .ok now) :
    (createdEntries (opts.create storage bucket object clock).log).length = 1 ↔
      ∃ url, (opts.create storage bucket object clock).result = .ok url := by
  have hfailed (error : Error) :
      (createdEntries (Call.failed error : Call Bytes Text).log).length = 1 ↔
        ∃ url, (Call.failed error : Call Bytes Text).result = .ok url :=
    ⟨fun hlength => (nomatch hlength), fun ⟨_, hurl⟩ => (nomatch hurl)⟩
  cases hcheck : opts.check now with
  | error error =>
    rw [create_of_check_eq_error hnow hcheck]
    exact hfailed error
  | ok u =>
    by_cases hencodable : opts.IsEncodable bucket object
    · obtain ⟨request, -, hanswered⟩ := exists_answered_of_isEncodable hf hnow hcheck hencodable
      exact SignedUrl.length_createdEntries_iff rfl hanswered
    · rw [create_of_not_isEncodable hf hnow hcheck hencodable]
      exact hfailed .unencodable

/-- A call with a function of the caller either refuses the options, with the error of the checks
and before the function is asked, or it builds the request and asks the function once for the
signature of its text; where this text cannot be encoded, the call fails before the function is
asked.  One URL is logged just when there is one. -/
theorem create_refuses_or_asks_once (hf : opts.signBytes = some f)
    (hclock : InCalendar clock.micros) :
    let call := opts.create storage bucket object clock
    ∃ now, signingTime clock = .ok now ∧ now.offset = some 0 ∧
      now.micros = clock.micros - clock.micros % microsPerSecond ∧
      (∀ error, opts.check now = .error error →
        call.result = .error error ∧ call.sent = [] ∧ call.log = []) ∧
      (opts.check now = .ok () → opts.IsEncodable bucket object → ∃ request,
        CanonicalRequest.build storage bucket.shown object.shown opts.shown now = .ok request ∧
        Answered call f (Utf8.encode request.stringToSign)
          (opts.created bucket object request)) ∧
      (opts.check now = .ok () → ¬opts.IsEncodable bucket object →
        ∃ error, call.result = .error error ∧ call.sent = [] ∧ call.log = []) ∧
      ((createdEntries call.log).length = 1 ↔ ∃ url, call.result = .ok url) := by
  intro call
  obtain ⟨now, hnow⟩ := SignedUrl.exists_signingTime hclock
  obtain ⟨-, hoffset, hmicros⟩ := SignedUrl.of_signingTime_eq_ok hnow
  refine ⟨now, hnow, hoffset, hmicros, fun error h => ?_, exists_answered_of_isEncodable hf hnow,
    fun h hnot => ?_, length_createdEntries_create_iff hf hnow⟩
  · rw [show call = Call.failed error from create_of_check_eq_error hnow h]
    exact ⟨rfl, rfl, rfl⟩
  · rw [show call = Call.failed .unencodable from create_of_not_isEncodable hf hnow h hnot]
    exact ⟨.unencodable, rfl, rfl, rfl⟩

/-- A function that reports a signing error of its own is asked once, and its error is the one that
the call gives. -/
theorem create_passes_reported_error :
    let f : SignFunction := fun _ => .signingError "quota exceeded".toList
    let opts := ofOptions { AcceptedCall.bareWith [] with signBytes := some f }
    let bucket := CodeText.ofText "bucket".toList
    let object := CodeText.ofText "object".toList
    let call := opts.create ⟨[]⟩ bucket object AcceptedCall.midnight
    opts.signBytes = some f ∧ InCalendar AcceptedCall.midnight.micros ∧
      opts.check AcceptedCall.midnight = .ok () ∧ opts.IsEncodable bucket object ∧
      call.result = .error (.signing (.reported "quota exceeded".toList)) ∧
      call.sent.length = 1 ∧ call.log = [] := by
  intro f opts bucket object call
  have hin : InCalendar AcceptedCall.midnight.micros := by
    unfold InCalendar
    decide
  have hcheck : opts.check AcceptedCall.midnight = .ok () := eq_ok_of_toBool (by decide +kernel)
  have hencodable : opts.IsEncodable bucket object := isEncodable_ofOptions _ _ _
  obtain ⟨now, hnow, -, -, -, haccepted, -⟩ :=
    @create_refuses_or_asks_once opts ⟨[]⟩ bucket object AcceptedCall.midnight f rfl hin
  have htime : now = AcceptedCall.midnight := (Except.ok.inj hnow).symm
  obtain ⟨request, -, hanswered⟩ := haccepted (htime ▸ hcheck) hencodable
  have hresult := hanswered.reported "quota exceeded".toList rfl
  refine ⟨rfl, hin, hcheck, hencodable, hresult, ?_, (hanswered.error _ hresult).1⟩
  rw [show call.sent = _ from hanswered.sent]
  rfl

/-- An object whose name is a surrogate passes the checks, but there is no text to sign; and a
function that is interrupted ends the call with its interruption.  Neither is one of the library's
own errors. -/
theorem create_escapes :
    let withFunction (f : SignFunction) :=
      ofOptions { AcceptedCall.bareWith [] with signBytes := some f }
    let signed := withFunction fun _ => .signature [0]
    let interrupted := withFunction fun _ => .interruption
    let bucket := CodeText.ofText "bucket".toList
    signed.check AcceptedCall.midnight = .ok () ∧
      interrupted.check AcceptedCall.midnight = .ok () ∧
      signed.create ⟨[]⟩ bucket [.surrogate 0] AcceptedCall.midnight = Call.failed .unencodable ∧
      (interrupted.create ⟨[]⟩ bucket (.ofText "object".toList) AcceptedCall.midnight).result =
        .error .interrupted ∧
      Error.unencodable.kind? = none ∧ Error.interrupted.kind? = none := by
  intro withFunction signed interrupted bucket
  have hcheck : signed.check AcceptedCall.midnight = .ok () := eq_ok_of_toBool (by decide +kernel)
  have hunencodable : ¬signed.IsEncodable bucket [.surrogate 0] := by
    intro h
    obtain ⟨s, hs⟩ := h [.surrogate 0] (List.mem_cons_of_mem bucket List.mem_cons_self)
    cases s with
    | nil => cases hs
    | cons c s => cases hs
  exact ⟨hcheck, eq_ok_of_toBool (by decide +kernel),
    create_of_not_isEncodable rfl rfl hcheck hunencodable, by decide +kernel, rfl, rfl⟩

end CodeOptions

end SignedAccess
