import SignedAccess.Proofs.Key.Signature
import SignedAccess.Proofs.SignedUrl.QueryContent
import SignedAccess.Proofs.Token.Assertions
import SignedAccess.SignedUrl.BucketHandle

/-!
# In whose name and by what means a URL is signed

The credentials of a bucket stand in for what options leave out, and the account and the means of
signing are looked at apart: each is that of the options if they carry one, and otherwise that of
the credentials.  Options that carry one of the two are completed with the other, so that a URL may
be signed in the name of one account with the key of another.

    (create … opts clock).result = .ok url → url is signed for opts.accessId by the means of opts
                                                                     (signedFor_of_create)
    (bucket.signedUrl … opts clock).result = .ok url → url is signed for the account of opts or else
      of the credentials, by the means of opts or else the key of the credentials
                                                                     (signedUrl_signedFor)
-/

namespace SignedAccess

/-! ## Means of signing -/

/-- What signs: a function of the caller, or a private key as it is written. -/
inductive SigningMeans where
  | function (f : SignFunction)
  | key (text : Text)

inductive SigningMeans.Signs : SigningMeans → Bytes → Bytes → Prop
  | function {f : SignFunction} {message signature : Bytes} (h : f message = .signature signature) :
      Signs (.function f) message signature
  | key {text : Text} {key : PrivateKey} {message signature : Bytes}
      (hload : PrivateKey.loadText text = .ok key) (hsign : key.sign? message = some signature) :
      Signs (.key text) message signature

namespace SignedUrlOptions

def account? (opts : SignedUrlOptions) : Option Text :=
  if opts.accessId = [] then none else some opts.accessId

def means? (opts : SignedUrlOptions) : Option SigningMeans :=
  match opts.signBytes with
  | some f => some (.function f)
  | none => if opts.privateKey = [] then none else some (.key opts.privateKey)

variable {opts opts' : SignedUrlOptions}

/-- What the signer of options gives comes from the means that they carry. -/
theorem signs_of_signer {means : SigningMeans} {s : Signer} {message signature : Bytes}
    (hmeans : opts.means? = some means) (hsigner : opts.signer = .ok s)
    (hsign : s.sign message = .ok signature) : means.Signs message signature := by
  unfold means? at hmeans
  unfold signer at hsigner
  split at hmeans
  · next f hf =>
    rw [hf] at hsigner
    cases hmeans
    cases hsigner
    exact .function (SignReply.result_eq_ok_iff.1 hsign).1
  · next hnone =>
    rw [hnone] at hsigner
    split at hmeans
    · cases hmeans
    · cases hmeans
      obtain ⟨key, hload, rfl⟩ := exists_of_map_eq_ok hsigner
      refine .key hload ?_
      simp only [Signer.sign] at hsign
      split at hsign
      · next hsome => rw [hsome, Except.ok.inj hsign]
      · cases hsign

/-- Completed options have the account and the means that options carry, each of them or else that
of the credentials. -/
theorem of_completed_eq_ok {c : Credentials} (h : opts.completed c = .ok opts') :
    opts'.means? = some (opts.means?.getD (.key c.privateKey)) ∧
      ∃ key, opts' =
        { opts with accessId := opts.account?.getD c.clientEmail, privateKey := key } := by
  have hnamed : (if opts.accessId = [] then { opts with accessId := c.clientEmail } else opts) =
      { opts with accessId := opts.account?.getD c.clientEmail } := by
    unfold account?
    split
    · rfl
    · rfl
  unfold completed at h
  simp only [hnamed] at h
  split at h
  · next hmissing =>
    obtain ⟨pem, hpem, rfl⟩ := exists_of_map_eq_ok h
    obtain ⟨hne, rfl⟩ := Credentials.requirePrivateKey_eq_ok_iff.1 hpem
    obtain ⟨hkey, hfunction⟩ := hmissing
    refine ⟨?_, c.privateKey, rfl⟩
    simp [means?, Option.isNone_iff_eq_none.1 hfunction, hkey, hne]
  · next hgiven =>
    cases h
    refine ⟨?_, opts.privateKey, rfl⟩
    unfold means?
    cases hfunction : opts.signBytes with
    | some f => rfl
    | none =>
      have hkey : opts.privateKey ≠ [] := fun hnil => hgiven ⟨hnil, by rw [hfunction]; rfl⟩
      simp only [if_neg hkey, Option.getD_some]

end SignedUrlOptions

namespace SignedUrl

variable {storage : StorageSettings} {bucket object url : Text} {opts : SignedUrlOptions}
  {clock : DateTime}

/-- Whether a URL for an object is signed in the name of an account by some means: the credential in
its query is that of the account for the day of signing, and its signature is one that the means
give to the request in the name of the account. -/
def SignedFor (storage : StorageSettings) (bucket object : Text) (opts : SignedUrlOptions)
    (clock : DateTime) (url account : Text) (means : SigningMeans) : Prop :=
  ∃ now request ps signature, signingTime clock = .ok now ∧
    CanonicalRequest.build storage bucket object { opts with accessId := account } now =
      .ok request ∧
    queryPairs? url = some (ps ++ [("X-Goog-Signature".toList, Hex.encode signature)]) ∧
    NameTable.valuesNamed "X-Goog-Credential".toList ps =
      [account ++ '/' :: (dayOf now.stamp ++ "/auto/storage/goog4_request".toList)] ∧
    means.Signs (Utf8.encode request.stringToSign) signature

/-- The request does not depend on the private key. -/
theorem build_privateKey (key : Text) (now : DateTime) :
    CanonicalRequest.build storage bucket object { opts with privateKey := key } now =
      CanonicalRequest.build storage bucket object opts now := rfl

/-- A URL is signed in the name of the account of its options, by the means that they carry. -/
theorem signedFor_of_create {means : SigningMeans} (hmeans : opts.means? = some means)
    (h : (create storage bucket object opts clock).result = .ok url) :
    SignedFor storage bucket object opts clock url opts.accessId means := by
  obtain ⟨request, signer, signature, hprepare, hsign, -, rfl⟩ := exists_signature_of_create h
  obtain ⟨-, -, -, -, hsigner⟩ := prepare_eq_ok_iff.1 hprepare
  obtain ⟨call, hnow, rfl, rfl, rfl, rfl, rfl⟩ := exists_call_at_of_prepare hprepare
  have hquery := AcceptedCall.hasQuery ⟨clock, hnow⟩ call.opts.insecure signature
  refine ⟨call.now, call.request, call.pairs, signature, hnow, call.built, hquery.pairs, ?_, ?_⟩
  · exact hquery.alone _ (List.mem_cons_of_mem _ List.mem_cons_self)
  · exact SignedUrlOptions.signs_of_signer hmeans hsigner hsign

/-- A URL under completed options is signed in the name of the account of the options or else of the
credentials, by the means of the options or else the key of the credentials. -/
theorem signedFor_of_completed {c : Credentials} {opts' : SignedUrlOptions}
    (hcompleted : opts.completed c = .ok opts')
    (h : (create storage bucket object opts' clock).result = .ok url) :
    SignedFor storage bucket object opts clock url (opts.account?.getD c.clientEmail)
      (opts.means?.getD (.key c.privateKey)) := by
  obtain ⟨hmeans, key, rfl⟩ := SignedUrlOptions.of_completed_eq_ok hcompleted
  obtain ⟨now, request, ps, signature, hnow, hbuilt, hsigned⟩ := signedFor_of_create hmeans h
  exact ⟨now, request, ps, signature, hnow, (build_privateKey key now).symm.trans hbuilt, hsigned⟩

end SignedUrl

namespace BucketHandle

open SignedUrl (SignedFor)

variable {bucket : BucketHandle} {c : Credentials} {storage : StorageSettings} {object url : Text}
  {opts : SignedUrlOptions} {clock : DateTime}

/-- A URL for an object of a bucket with credentials is one under completed options. -/
theorem exists_completed_of_signedUrl (hc : bucket.credentials = some c)
    (h : (bucket.signedUrl storage object opts clock).result = .ok url) :
    ∃ opts', opts.completed c = .ok opts' ∧
      (SignedUrl.create storage bucket.name object opts' clock).result = .ok url := by
  have hcall : bucket.signedUrl storage object opts clock = Call.after (opts.completed c)
      fun opts => SignedUrl.create storage bucket.name object opts clock := by
    unfold signedUrl optionsFor
    rw [hc]
  rw [hcall] at h
  cases hcompleted : opts.completed c with
  | error e =>
    rw [hcompleted] at h
    cases h
  | ok opts' =>
    rw [hcompleted] at h
    exact ⟨opts', rfl, h⟩

/-- A URL for an object of a bucket with credentials is signed for the account that the options name
or else that of the credentials, by the means that the options carry or else the key of the
credentials. -/
theorem signedUrl_signedFor (hc : bucket.credentials = some c)
    (h : (bucket.signedUrl storage object opts clock).result = .ok url) :
    SignedFor storage bucket.name object opts clock url (opts.account?.getD c.clientEmail)
      (opts.means?.getD (.key c.privateKey)) := by
  obtain ⟨opts', hcompleted, hcreated⟩ := exists_completed_of_signedUrl hc h
  exact SignedUrl.signedFor_of_completed hcompleted hcreated

/-- Options that carry neither get both from the credentials. -/
theorem signedUrl_signedFor_neither :
    let c := TokenSource.accountWithAudience
    let opts := { AcceptedCall.bareWith [] with accessId := [], signBytes := none }
    ∃ url, (signedUrl ⟨"bucket".toList, some c⟩ ⟨[]⟩ "object".toList opts
        AcceptedCall.midnight).result = .ok url ∧
      SignedFor ⟨[]⟩ "bucket".toList "object".toList opts AcceptedCall.midnight url "a@b".toList
        (.key c.privateKey) := by
  intro c opts
  obtain ⟨url, hurl⟩ := exists_eq_ok_of_toBool
    (x := (signedUrl ⟨"bucket".toList, some c⟩ ⟨[]⟩ "object".toList opts
      AcceptedCall.midnight).result) (by decide +kernel)
  exact ⟨url, hurl, @signedUrl_signedFor ⟨"bucket".toList, some c⟩ c ⟨[]⟩ "object".toList url opts
    AcceptedCall.midnight rfl hurl⟩

/-- Options that name another account are completed with the key of the credentials, and options
with a function of their own with the account of the credentials, so that names and means are mixed
in the URLs; the function gives what no key gives. -/
theorem signedUrl_mixes_identities :
    let c := TokenSource.accountWithAudience
    let bucket : BucketHandle := ⟨"bucket".toList, some c⟩
    let f : SignFunction := fun _ => .signature [1]
    let named := { AcceptedCall.bareWith [] with accessId := "other".toList, signBytes := none }
    let signing := { AcceptedCall.bareWith [] with accessId := [], signBytes := some f }
    ∃ url url',
      (bucket.signedUrl ⟨[]⟩ "object".toList named AcceptedCall.midnight).result = .ok url ∧
      SignedFor ⟨[]⟩ bucket.name "object".toList named AcceptedCall.midnight url "other".toList
        (.key c.privateKey) ∧ "other".toList ≠ c.clientEmail ∧
      (bucket.signedUrl ⟨[]⟩ "object".toList signing AcceptedCall.midnight).result = .ok url' ∧
      SignedFor ⟨[]⟩ bucket.name "object".toList signing AcceptedCall.midnight url' c.clientEmail
        (.function f) ∧
      ∀ message, ¬(SigningMeans.key c.privateKey).Signs message [1] := by
  intro c bucket f named signing
  obtain ⟨url, hurl⟩ := exists_eq_ok_of_toBool
    (x := (bucket.signedUrl ⟨[]⟩ "object".toList named AcceptedCall.midnight).result)
    (by decide +kernel)
  obtain ⟨url', hurl'⟩ := exists_eq_ok_of_toBool
    (x := (bucket.signedUrl ⟨[]⟩ "object".toList signing AcceptedCall.midnight).result)
    (by decide +kernel)
  obtain ⟨_, hnamed, hcreated⟩ := exists_completed_of_signedUrl rfl hurl
  obtain ⟨_, hsigning, hcreated'⟩ := exists_completed_of_signedUrl rfl hurl'
  refine ⟨url, url', hurl, SignedUrl.signedFor_of_completed hnamed hcreated, by decide, hurl',
    SignedUrl.signedFor_of_completed hsigning hcreated', ?_⟩
  rintro message (_ | ⟨-, hsign⟩)
  exact absurd (PrivateKey.le_length_of_sign? hsign) (by decide)

end BucketHandle

end SignedAccess
