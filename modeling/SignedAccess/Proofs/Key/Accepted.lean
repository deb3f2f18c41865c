import SignedAccess.Proofs.Key.Verification
import SignedAccess.Proofs.Key.Writing
import SignedAccess.Proofs.SignedUrl.QueryContent
import SignedAccess.Proofs.Token.KeyText

/-!
# What a key signs is accepted

Bytes, tokens and URLs are signed with the same key in the same way: where its modulus has room for
the padded digest and its private exponent is no longer than the modulus, its public key accepts all
of them, and otherwise there are none.

    key.CanSign → SignsAccepted key                          (signsAccepted_of_canSign)
    ¬key.CanSign → SignsNothing key                          (signsNothing_of_not_canSign)
-/

namespace SignedAccess

/-! ## Tokens and URLs -/

/-- Whether the third segment of a token is a signature over the first two that the public key of a
modulus and an exponent accepts. -/
def Jwt.IsAccepted (n e : Nat) (token : Text) : Prop :=
  ∃ header payload third signature, token.splitOn '.' = [header, payload, third] ∧
    Base64.decodeUnpadded? .urlSafe third = some signature ∧
    Accepts n e (Utf8.encode (header ++ '.' :: payload)) signature

/-- Whether the last value in the query of a URL is a signature of a message that the public key of
a modulus and an exponent accepts. -/
def SignedUrl.IsAccepted (n e : Nat) (message : Bytes) (url : Text) : Prop :=
  ∃ ps digits signature, queryPairs? url = some (ps ++ [("X-Goog-Signature".toList, digits)]) ∧
    Hex.decode? digits = some signature ∧ Accepts n e message signature

theorem Jwt.isAccepted_of_sign {key : PrivateKey} (hkey : key.IsRsa) {claims : Claims}
    {keyId token : Text} (h : sign claims key keyId = .ok token) :
    IsAccepted key.n key.e token := by
  obtain ⟨first, second, third, -, -, signature, hsplit, -, -, -, -, -, hthird, hsignature⟩ :=
    decodes_of_sign h
  exact ⟨first, second, third, signature, hsplit, hthird,
    PrivateKey.accepts_of_sign? hkey hsignature⟩

/-- A text in which a private key is found signs like the key, or fails. -/
theorem Jwt.signWithText_of_loadText {key : PrivateKey} {text : Text}
    (h : PrivateKey.loadText text = .ok key) (claims : Claims) (keyId : Text) :
    signWithText claims text keyId = sign claims key keyId ∨
      ∃ e, signWithText claims text keyId = .error e := by
  by_cases hline : StartsLine text
  · right
    by_cases htimes : claims.HasShortTimes
    · rw [signWithText_of_startsLine htimes hline]
      split
      · exact ⟨_, rfl⟩
      · exact ⟨_, rfl⟩
      · exact ⟨_, rfl⟩
    · exact ⟨_, signWithText_of_not_hasShortTimes htimes text keyId⟩
  · left
    have hholds : HoldsKey text key :=
      ⟨Bool.not_eq_true _ ▸ hline, PrivateKey.loadText_eq_ok_iff.1 h⟩
    exact signWithText_of_holdsKey hholds claims keyId

namespace SignedUrl

variable {storage : StorageSettings} {bucket object : Text} {opts : SignedUrlOptions}
  {clock now : DateTime} {key : PrivateKey}

theorem signer_of_loadText (hbytes : opts.signBytes = none)
    (hload : PrivateKey.loadText opts.privateKey = .ok key) : opts.signer = .ok (.key key) := by
  unfold SignedUrlOptions.signer
  rw [hbytes, hload]
  rfl

/-- Options that are accepted, with a key that signs, give a URL whose signature is accepted. -/
theorem exists_accepted_create (hkey : key.IsRsa) (hcan : key.CanSign)
    (hsigner : opts.signer = .ok (.key key)) (hnow : signingTime clock = .ok now)
    (haccepted : opts.check now = .ok ()) :
    ∃ request url, CanonicalRequest.build storage bucket object opts now = .ok request ∧
      (create storage bucket object opts clock).result = .ok url ∧
      IsAccepted key.n key.e (Utf8.encode request.stringToSign) url := by
  obtain ⟨request, hbuilt⟩ := @exists_request_of_check_eq_ok storage bucket object _ _ haccepted
  obtain ⟨signature, hsignature, haccepts⟩ :=
    PrivateKey.exists_accepted hkey hcan (Utf8.encode request.stringToSign)
  have hsign : (Signer.key key).sign (Utf8.encode request.stringToSign) = .ok signature := by
    simp only [Signer.sign, hsignature]
  have hprepare : prepare storage bucket object opts clock = .ok (request, .key key) :=
    prepare_eq_ok_iff.2 ⟨now, hnow, haccepted, hbuilt, hsigner⟩
  obtain ⟨call, htime, -, -, -, hopts, hrequest⟩ := exists_call_of_prepare hprepare
  have hpairs := AcceptedCall.queryPairs?_url htime opts.insecure signature
  rw [hrequest] at hpairs
  refine ⟨request, request.url opts.insecure signature, hbuilt, ?_, call.pairs, _, signature,
    hpairs, Hex.decode?_encode signature, haccepts⟩
  rw [create_of_prepare_eq_ok hprepare, sign_of_ok hsign]

/-- With a key that does not sign, no options give a URL. -/
theorem create_ne_ok_of_not_canSign (hcan : ¬key.CanSign)
    (hsigner : opts.signer = .ok (.key key)) (url : Text) :
    (create storage bucket object opts clock).result ≠ .ok url := by
  intro hurl
  obtain ⟨request, signer, signature, hprepare, hsign, -, -⟩ := exists_signature_of_create hurl
  obtain ⟨_, -, -, -, hsigner'⟩ := prepare_eq_ok_iff.1 hprepare
  rw [hsigner] at hsigner'
  cases hsigner'
  simp only [Signer.sign, PrivateKey.sign?_eq_none_of_not_canSign hcan] at hsign
  cases hsign

/-- Options that are accepted, with a key that does not sign, end in an error of signing. -/
theorem create_of_not_canSign (hcan : ¬key.CanSign) (hsigner : opts.signer = .ok (.key key))
    (hnow : signingTime clock = .ok now) (haccepted : opts.check now = .ok ()) :
    create storage bucket object opts clock = ⟨.error (.signing .keyTooShort), [], []⟩ := by
  obtain ⟨request, hbuilt⟩ := @exists_request_of_check_eq_ok storage bucket object _ _ haccepted
  have hsign : (Signer.key key).sign (Utf8.encode request.stringToSign) =
      .error (.signing .keyTooShort) := by
    simp only [Signer.sign, PrivateKey.sign?_eq_none_of_not_canSign hcan]
  rw [create_eq_sign hnow haccepted hbuilt hsigner, sign_of_error hsign]
  rfl

end SignedUrl

namespace PrivateKey

variable {key : PrivateKey}

/-! ## Keys that sign -/

/-- Whether a key signs everything, and its public key accepts what it signs. -/
structure SignsAccepted (key : PrivateKey) : Prop where
  bytes : ∀ message, ∃ signature, (Signer.key key).sign message = .ok signature ∧
    Accepts key.n key.e message signature
  /-- There is a token unless a time of the claims is too long to be written. -/
  exists_token : ∀ claims keyId,
    (∃ token, Jwt.sign claims key keyId = .ok token) ↔ claims.HasShortTimes
  token : ∀ claims keyId token, Jwt.sign claims key keyId = .ok token →
    Jwt.IsAccepted key.n key.e token
  /-- The same token comes of a text that signing finds the key in. -/
  tokenOfText : ∀ claims keyId text, Jwt.HoldsKey text key →
    Jwt.signWithText claims text keyId = Jwt.sign claims key keyId
  /-- No other token comes of a text that the key is loaded from. -/
  tokenOfLoaded : ∀ claims keyId text token, loadText text = .ok key →
    Jwt.signWithText claims text keyId = .ok token → Jwt.IsAccepted key.n key.e token
  url : ∀ (storage : StorageSettings) (bucket object : Text) (opts : SignedUrlOptions)
    (clock now : DateTime), opts.signBytes = none → loadText opts.privateKey = .ok key →
    SignedUrl.signingTime clock = .ok now → opts.check now = .ok () →
    ∃ request url, CanonicalRequest.build storage bucket object opts now = .ok request ∧
      (SignedUrl.create storage bucket object opts clock).result = .ok url ∧
      SignedUrl.IsAccepted key.n key.e (Utf8.encode request.stringToSign) url

/-- Whether a key signs nothing. -/
structure SignsNothing (key : PrivateKey) : Prop where
  bytes : ∀ message, (Signer.key key).sign message = .error (.signing .keyTooShort)
  token : ∀ claims keyId, Jwt.sign claims key keyId = .error (.signing .claims)
  tokenOfText : ∀ claims keyId text, Jwt.HoldsKey text key →
    Jwt.signWithText claims text keyId = .error (.signing .claims)
  tokenOfLoaded : ∀ claims keyId text token, loadText text = .ok key →
    Jwt.signWithText claims text keyId ≠ .ok token
  url : ∀ (storage : StorageSettings) (bucket object : Text) (opts : SignedUrlOptions)
    (clock now : DateTime), opts.signBytes = none → loadText opts.privateKey = .ok key →
    SignedUrl.signingTime clock = .ok now → opts.check now = .ok () →
    SignedUrl.create storage bucket object opts clock = ⟨.error (.signing .keyTooShort), [], []⟩
  /-- There is no URL under any options. -/
  noUrl : ∀ (storage : StorageSettings) (bucket object : Text) (opts : SignedUrlOptions)
    (clock : DateTime) (url : Text), opts.signBytes = none →
    loadText opts.privateKey = .ok key →
    (SignedUrl.create storage bucket object opts clock).result ≠ .ok url

theorem signsAccepted_of_canSign (hkey : key.IsRsa) (hcan : key.CanSign) : SignsAccepted key where
  bytes message := by
    obtain ⟨signature, hsignature, haccepts⟩ := exists_accepted hkey hcan message
    exact ⟨signature, by simp only [Signer.sign, hsignature], haccepts⟩
  exists_token claims keyId := by
    constructor
    · rintro ⟨token, htoken⟩
      exact (Jwt.sign_eq_ok_iff.1 htoken).1
    · exact fun htimes => Jwt.exists_sign_of_canSign hcan htimes keyId
  token _ _ _ := Jwt.isAccepted_of_sign hkey
  tokenOfText claims keyId _ htext := Jwt.signWithText_of_holdsKey htext claims keyId
  tokenOfLoaded claims keyId text token hload htoken := by
    rcases Jwt.signWithText_of_loadText hload claims keyId with hsame | ⟨e, herror⟩
    · exact Jwt.isAccepted_of_sign hkey (hsame.symm.trans htoken)
    · rw [herror] at htoken
      cases htoken
  url _ _ _ _ _ _ hbytes hload hnow haccepted := SignedUrl.exists_accepted_create hkey hcan
    (SignedUrl.signer_of_loadText hbytes hload) hnow haccepted

theorem signsNothing_of_not_canSign (hcan : ¬key.CanSign) : SignsNothing key where
  bytes message := by simp only [Signer.sign, sign?_eq_none_of_not_canSign hcan]
  token := Jwt.sign_of_not_canSign hcan
  tokenOfText claims keyId _ htext := by
    rw [Jwt.signWithText_of_holdsKey htext]
    exact Jwt.sign_of_not_canSign hcan claims keyId
  tokenOfLoaded claims keyId text token hload htoken := by
    rcases Jwt.signWithText_of_loadText hload claims keyId with hsame | ⟨e, herror⟩
    · rw [hsame, Jwt.sign_of_not_canSign hcan] at htoken
      cases htoken
    · rw [herror] at htoken
      cases htoken
  url _ _ _ _ _ _ hbytes hload hnow haccepted := SignedUrl.create_of_not_canSign hcan
    (SignedUrl.signer_of_loadText hbytes hload) hnow haccepted
  noUrl _ _ _ _ _ url hbytes hload := SignedUrl.create_ne_ok_of_not_canSign hcan
    (SignedUrl.signer_of_loadText hbytes hload) url

/-- An RSA key signs all bytes, claims and requests, and its public key accepts what it signs, if
the modulus has at least 62 bytes and the private exponent no more bits than the modulus.  Otherwise
it signs nothing. -/
theorem signsAccepted_or_nothing (hkey : key.IsRsa) :
    (62 ≤ (Nat.size key.n + 7) / 8 → Nat.size key.d ≤ Nat.size key.n → SignsAccepted key) ∧
      ((Nat.size key.n + 7) / 8 < 62 ∨ Nat.size key.n < Nat.size key.d → SignsNothing key) := by
  constructor
  · intro hsize hexponent
    exact signsAccepted_of_canSign hkey (key.canSign_iff.2 ⟨hsize, hexponent⟩)
  · intro hshort
    refine signsNothing_of_not_canSign fun hcan => ?_
    obtain ⟨hsize, hexponent⟩ := key.canSign_iff.1 hcan
    omega

/-- A key of 81 bytes signs with the least private exponent, and signs nothing with one that has a
bit more than the modulus. -/
theorem signsAccepted_or_nothing_mersenne :
    (ofMersenne 0).IsRsa ∧ (ofMersenne 6).IsRsa ∧ Nat.size (ofMersenne 0).n = 648 ∧
      Nat.size (ofMersenne 0).d = 646 ∧ Nat.size (ofMersenne 6).d = 649 ∧
      SignsAccepted (ofMersenne 0) ∧ SignsNothing (ofMersenne 6) := by
  have hmodulus : Nat.size (ofMersenne 0).n = 648 := by decide +kernel
  have hleast : Nat.size (ofMersenne 0).d = 646 := by decide +kernel
  have hlong : Nat.size (ofMersenne 6).d = 649 := by decide +kernel
  have hmodulus' : Nat.size (ofMersenne 6).n = 648 := hmodulus
  exact ⟨isRsa_ofMersenne 0, isRsa_ofMersenne 6, hmodulus, hleast, hlong,
    (signsAccepted_or_nothing (isRsa_ofMersenne 0)).1 (by omega) (by omega),
    (signsAccepted_or_nothing (isRsa_ofMersenne 6)).2 (Or.inr (by omega))⟩

/-- With six periods more the private exponent has a bit more than the modulus: the key is read and
its numbers belong together, but it signs nothing. -/
theorem not_signs_mersenne :
    loadText (KeyFile.Writing.onOneLine (ofMersenne 6)).text = .ok (ofMersenne 6) ∧
      (ofMersenne 6).IsRsa ∧
      62 ≤ (Nat.size (ofMersenne 6).n + 7) / 8 ∧
      ∀ message, ¬∃ signature, (Signer.key (ofMersenne 6)).sign message = .ok signature ∧
        Accepts (ofMersenne 6).n (ofMersenne 6).e message signature := by
  have hload : loadText (KeyFile.Writing.onOneLine (ofMersenne 6)).text = .ok (ofMersenne 6) :=
    loadText_eq_ok_iff.2 (KeyFile.Writing.load_text _ (by decide +kernel) rfl (by decide +kernel))
  have hexponent : (ofMersenne 6).hasUsableExponent ≠ true := by decide +kernel
  refine ⟨hload, isRsa_ofMersenne 6, by decide +kernel, ?_⟩
  rintro message ⟨signature, hsignature, -⟩
  have hnothing := signsNothing_of_not_canSign (fun hcan => hexponent hcan.exponent)
  rw [hnothing.bytes] at hsignature
  cases hsignature

end PrivateKey

end SignedAccess
