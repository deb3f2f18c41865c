import SignedAccess.Proofs.Token.RoundTrip

/-!
# Keys handed over as texts

The text of a key can be read as a private key first, or be handed over to the signing of a token as
it is.  Signing takes a text that begins like a public key on a line for such a line, and looks for
a public key wherever it finds no private one.  What it finds then signs nothing, and some of it
ends in errors of other kinds (`Misfits`).  Otherwise the two ways agree.  Claims with times that
are too long to be written are signed in neither way, whatever the text.

    SignsWith claims text keyId result ↔ signWithText claims text keyId = result  (signsWith_iff)
    loadText text = .ok key → (signWithText claims text keyId = sign claims key keyId ↔ …)
                                                                     (signWithText_agrees)
-/

namespace SignedAccess

namespace PrivateKey

theorem loadText_eq_ok_iff {text : Text} {key : PrivateKey} :
    loadText text = .ok key ↔ KeyFile.loadText text = .ok (.rsa key) := by
  unfold loadText load KeyFile.loadText
  rw [mapError_eq_ok_iff]
  cases KeyFile.load (Utf8.encode text) with
  | error fault => simp [ofOutcome]
  | ok any =>
    cases any with
    | rsa other => simp [ofOutcome]
    | signing => simp [ofOutcome]
    | agreement => simp [ofOutcome]

/-- A text that is read as no private key ends in an error of signing. -/
theorem exists_fault_of_loadText {text : Text} {e : Error} (h : loadText text = .error e) :
    ∃ fault, e = .signing fault := by
  unfold loadText load at h
  cases hkey : ofOutcome (KeyFile.load (Utf8.encode text)) with
  | error fault =>
    rw [hkey] at h
    cases h
    exact ⟨fault, rfl⟩
  | ok key =>
    rw [hkey] at h
    cases h

end PrivateKey

namespace Jwt

variable {claims : Claims} {key : PrivateKey} {text keyId : Text} {e : Error}

/-! ## Texts without a private key -/

def StartsLine (text : Text) : Prop := lineStart.isPrefixOf text = true

/-- Whether a text is searched for a public key: it begins like one on a line, but that is
malformed, or it begins otherwise and is read as no key file. -/
def HoldsNone (text : Text) : Prop :=
  (StartsLine text ∧ KeyLine.check text = .error .malformed) ∨
    (¬StartsLine text ∧ KeyFile.loadText text = .error .unreadable)

/-- What a text may hold that signing is not prepared for, and how it ends. -/
inductive Misfits (text : Text) : Error → Prop
  /-- An RSA key or a certificate on a line. -/
  | publicLine (hline : StartsLine text) (hkey : KeyLine.check text = .ok ()) :
      Misfits text .cannotSign
  /-- A line of another type. -/
  | foreignLine (hline : StartsLine text) (hkey : KeyLine.check text = .error .unsupported) :
      Misfits text .unsupportedKey
  /-- A private key for agreeing on a secret. -/
  | agreement (hline : ¬StartsLine text) (hkey : KeyFile.loadText text = .ok .agreement) :
      Misfits text .cannotSign
  /-- A private key on a curve that is not supported. -/
  | unsupported (hline : ¬StartsLine text) (hkey : KeyFile.loadText text = .error .unsupported) :
      Misfits text .unsupportedKey
  /-- A public key in a block. -/
  | publicKey (hnone : HoldsNone text) (hkey : PublicKey.check text = .ok ()) :
      Misfits text .cannotSign
  /-- A public key with the wrong number of octets. -/
  | wrongSize (hnone : HoldsNone text) (hkey : PublicKey.check text = .error .wrongSize) :
      Misfits text .wrongKeySize

/-- How the signing of a token ends that is handed the text of a key. -/
inductive SignsWith (claims : Claims) (text keyId : Text) : Except Error Text → Prop
  | key {key : PrivateKey} (h : HoldsKey text key) :
      SignsWith claims text keyId (sign claims key keyId)
  | misfit {e : Error} (htimes : claims.HasShortTimes) (h : Misfits text e) :
      SignsWith claims text keyId (.error e)
  | tooLong (htimes : ¬claims.HasShortTimes) :
      SignsWith claims text keyId (.error (.signing .claims))
  | neither (hkey : ∀ key, ¬HoldsKey text key) (hmisfit : ∀ e, ¬Misfits text e) :
      SignsWith claims text keyId (.error (.signing .claims))

/-- No error of a misfit is one of the library's own. -/
theorem Misfits.kind? (h : Misfits text e) : e.kind? = none := by
  cases h with
  | publicLine hline hkey => rfl
  | foreignLine hline hkey => rfl
  | agreement hline hkey => rfl
  | unsupported hline hkey => rfl
  | publicKey hnone hkey => rfl
  | wrongSize hnone hkey => rfl

theorem signWithText_of_startsLine (htimes : claims.HasShortTimes) (h : StartsLine text) :
    signWithText claims text keyId =
      match KeyLine.check text with
      | .ok () => .error .cannotSign
      | .error .unsupported => .error .unsupportedKey
      | .error .malformed => .error (publicError text) := by
  rw [signWithText, Claims.isWritable_payload_iff.2 htimes]
  exact if_pos h

theorem signWithText_of_not_startsLine (htimes : claims.HasShortTimes) (h : ¬StartsLine text) :
    signWithText claims text keyId =
      match KeyFile.loadText text with
      | .ok (.rsa key) => sign claims key keyId
      | .ok .signing => .error (.signing .claims)
      | .ok .agreement => .error .cannotSign
      | .error .encrypted => .error (.signing .claims)
      | .error .unsupported => .error .unsupportedKey
      | .error .unreadable => .error (publicError text) := by
  rw [signWithText, Claims.isWritable_payload_iff.2 htimes]
  exact if_neg h

theorem signWithText_of_holdsNone (htimes : claims.HasShortTimes) (h : HoldsNone text) :
    signWithText claims text keyId = .error (publicError text) := by
  rcases h with ⟨hline, hkey⟩ | ⟨hline, hkey⟩
  · rw [signWithText_of_startsLine htimes hline, hkey]
  · rw [signWithText_of_not_startsLine htimes hline, hkey]

theorem signWithText_of_misfits (htimes : claims.HasShortTimes) (h : Misfits text e) :
    signWithText claims text keyId = .error e := by
  cases h with
  | publicLine hline hkey => rw [signWithText_of_startsLine htimes hline, hkey]
  | foreignLine hline hkey => rw [signWithText_of_startsLine htimes hline, hkey]
  | agreement hline hkey => rw [signWithText_of_not_startsLine htimes hline, hkey]
  | unsupported hline hkey => rw [signWithText_of_not_startsLine htimes hline, hkey]
  | publicKey hnone hkey => rw [signWithText_of_holdsNone htimes hnone, publicError, hkey]
  | wrongSize hnone hkey => rw [signWithText_of_holdsNone htimes hnone, publicError, hkey]

/-- A text that is searched for a public key holds one, or one of a wrong size, or none. -/
theorem signsWith_of_holdsNone (htimes : claims.HasShortTimes) (h : HoldsNone text) :
    (∃ e, Misfits text e) ∨ signWithText claims text keyId = .error (.signing .claims) := by
  cases hkey : PublicKey.check text with
  | ok u => exact Or.inl ⟨_, .publicKey h hkey⟩
  | error fault =>
    cases fault with
    | wrongSize => exact Or.inl ⟨_, .wrongSize h hkey⟩
    | unreadable =>
      refine Or.inr ?_
      rw [signWithText_of_holdsNone htimes h, publicError, hkey]

/-- A text holds a private key, or something that signing is not prepared for, or it is refused. -/
theorem signWithText_cases (htimes : claims.HasShortTimes) (text keyId : Text) :
    (∃ key, HoldsKey text key) ∨ (∃ e, Misfits text e) ∨
      signWithText claims text keyId = .error (.signing .claims) := by
  by_cases hline : StartsLine text
  · cases hkey : KeyLine.check text with
    | ok u => exact Or.inr (Or.inl ⟨_, .publicLine hline hkey⟩)
    | error fault =>
      cases fault with
      | unsupported => exact Or.inr (Or.inl ⟨_, .foreignLine hline hkey⟩)
      | malformed => exact Or.inr (signsWith_of_holdsNone htimes (Or.inl ⟨hline, hkey⟩))
  · have hrefused : signWithText claims text keyId = _ :=
      signWithText_of_not_startsLine htimes hline
    cases hkey : KeyFile.loadText text with
    | ok any =>
      cases any with
      | rsa key => exact Or.inl ⟨key, Bool.not_eq_true _ ▸ hline, hkey⟩
      | signing =>
        rw [hkey] at hrefused
        exact Or.inr (Or.inr hrefused)
      | agreement => exact Or.inr (Or.inl ⟨_, .agreement hline hkey⟩)
    | error fault =>
      cases fault with
      | encrypted =>
        rw [hkey] at hrefused
        exact Or.inr (Or.inr hrefused)
      | unsupported => exact Or.inr (Or.inl ⟨_, .unsupported hline hkey⟩)
      | unreadable => exact Or.inr (signsWith_of_holdsNone htimes (Or.inr ⟨hline, hkey⟩))

theorem signWithText_of_signsWith {result : Except Error Text}
    (h : SignsWith claims text keyId result) : signWithText claims text keyId = result := by
  cases h with
  | key hkey => exact signWithText_of_holdsKey hkey claims keyId
  | misfit htimes hmisfit => exact signWithText_of_misfits htimes hmisfit
  | tooLong htimes => exact signWithText_of_not_hasShortTimes htimes text keyId
  | neither hkey hmisfit =>
    by_cases htimes : claims.HasShortTimes
    · rcases signWithText_cases htimes text keyId with ⟨key, hholds⟩ | ⟨e, hfits⟩ | hrefused
      · exact absurd hholds (hkey key)
      · exact absurd hfits (hmisfit e)
      · exact hrefused
    · exact signWithText_of_not_hasShortTimes htimes text keyId

theorem exists_signsWith (claims : Claims) (text keyId : Text) :
    ∃ result, SignsWith claims text keyId result := by
  by_cases htimes : claims.HasShortTimes
  · by_cases hkey : ∃ key, HoldsKey text key
    · obtain ⟨key, hkey⟩ := hkey
      exact ⟨_, .key hkey⟩
    · by_cases hmisfit : ∃ e, Misfits text e
      · obtain ⟨e, hmisfit⟩ := hmisfit
        exact ⟨_, .misfit htimes hmisfit⟩
      · exact ⟨_, .neither (fun key h => hkey ⟨key, h⟩) fun e h => hmisfit ⟨e, h⟩⟩
  · exact ⟨_, .tooLong htimes⟩

/-- Signing with a text ends in one of these ways. -/
theorem signsWith_iff {result : Except Error Text} :
    SignsWith claims text keyId result ↔ signWithText claims text keyId = result := by
  refine ⟨signWithText_of_signsWith, ?_⟩
  rintro rfl
  obtain ⟨result, h⟩ := exists_signsWith claims text keyId
  rwa [signWithText_of_signsWith h]

/-! ## Texts with a private key -/

/-- Signing under a key fails in one way only. -/
theorem sign_eq_ok_or (claims : Claims) (key : PrivateKey) (keyId : Text) :
    (∃ token, sign claims key keyId = .ok token) ∨
      sign claims key keyId = .error (.signing .claims) := by
  by_cases htimes : claims.HasShortTimes
  · by_cases hkey : key.CanSign
    · exact Or.inl (exists_sign_of_canSign hkey htimes keyId)
    · exact Or.inr (sign_of_not_canSign hkey claims keyId)
  · exact Or.inr (sign_of_not_hasShortTimes htimes key keyId)

/-- A text with a misfit is told by an error of another kind. -/
theorem signing_iff_no_misfit (hkey : ∀ key, ¬HoldsKey text key) :
    signWithText claims text keyId = .error (.signing .claims) ↔
      ¬claims.HasShortTimes ∨ ∀ e, ¬Misfits text e := by
  constructor
  · intro hsigning
    refine or_iff_not_imp_left.2 fun htimes e hmisfit => ?_
    rw [signWithText_of_misfits (not_not.1 htimes) hmisfit] at hsigning
    have hkind := hmisfit.kind?
    rw [Except.error.inj hsigning] at hkind
    cases hkind
  · rintro (htimes | hmisfit)
    · exact signWithText_of_not_hasShortTimes htimes text keyId
    · exact signsWith_iff.1 (.neither hkey hmisfit)

/-- A text that holds no key signs nothing. -/
theorem signWithText_ne_ok (hkey : ∀ key, ¬HoldsKey text key) (token : Text) :
    signWithText claims text keyId ≠ .ok token := by
  intro hok
  have hends : SignsWith claims text keyId (.ok token) := signsWith_iff.2 hok
  generalize hr : (Except.ok token : Except Error Text) = result at hends
  cases hends with
  | key hholds => exact hkey _ hholds
  | misfit | tooLong | neither => cases hr

/-- A key that is read from a text beforehand gives what the text itself gives, unless the text
begins like a public key on a line: then nothing is signed. -/
theorem signWithText_eq_sign_iff (hload : PrivateKey.loadText text = .ok key) :
    signWithText claims text keyId = sign claims key keyId ↔
      ¬claims.HasShortTimes ∨ ¬StartsLine text ∨ (¬key.CanSign ∧ ∀ e, ¬Misfits text e) := by
  by_cases htimes : claims.HasShortTimes
  swap
  · rw [signWithText_of_not_hasShortTimes htimes, sign_of_not_hasShortTimes htimes]
    simp [htimes]
  by_cases hline : StartsLine text
  · have hnone : ∀ key, ¬HoldsKey text key := by
      intro key hkey
      rw [StartsLine, hkey.1] at hline
      cases hline
    by_cases hkey : key.CanSign
    · obtain ⟨token, htoken⟩ := exists_sign_of_canSign hkey htimes keyId
      rw [htoken]
      simp [signWithText_ne_ok hnone, htimes, hline, hkey]
    · rw [sign_of_not_canSign hkey, signing_iff_no_misfit hnone]
      simp [htimes, hline, hkey]
  · have hholds : HoldsKey text key :=
      ⟨Bool.not_eq_true _ ▸ hline, PrivateKey.loadText_eq_ok_iff.1 hload⟩
    rw [signWithText_of_holdsKey hholds]
    simp [hline]

theorem not_holdsKey_of_loadText (hload : PrivateKey.loadText text = .error e)
    (key : PrivateKey) : ¬HoldsKey text key := by
  intro hkey
  rw [PrivateKey.loadText_eq_ok_iff.2 hkey.2] at hload
  cases hload

/-- Signing with a text ends in another error than one of signing just when the text holds a
misfit. -/
theorem signWithText_error_iff : signWithText claims text keyId = .error e ∧
    e.kind? ≠ some .signing ↔ claims.HasShortTimes ∧ Misfits text e := by
  constructor
  · rintro ⟨hresult, hkind⟩
    have hends : SignsWith claims text keyId (.error e) := signsWith_iff.2 hresult
    generalize hr : (Except.error e : Except Error Text) = result at hends
    cases hends with
    | key hkey =>
      rcases sign_eq_ok_or claims _ keyId with ⟨token, htoken⟩ | hrefused
      · rw [htoken] at hr
        cases hr
      · rw [hrefused] at hr
        cases hr
        exact absurd rfl hkind
    | misfit htimes hmisfit =>
      cases hr
      exact ⟨htimes, hmisfit⟩
    | tooLong | neither =>
      cases hr
      exact absurd rfl hkind
  · rintro ⟨htimes, hmisfit⟩
    refine ⟨signWithText_of_misfits htimes hmisfit, ?_⟩
    rw [hmisfit.kind?]
    exact nofun

/-- Whether signing with a text agrees with reading a private key from it first.  It does unless the
text begins like a public key on a line or holds a misfit, and only a misfit ends in another error
than one of signing.  It always does where the claims cannot be written. -/
theorem signWithText_agrees (claims : Claims) (text keyId : Text) :
    (∀ key, PrivateKey.loadText text = .ok key →
      (signWithText claims text keyId = sign claims key keyId ↔ ¬claims.HasShortTimes ∨
        ¬StartsLine text ∨ (¬key.CanSign ∧ ∀ e, ¬Misfits text e))) ∧
    (∀ e, PrivateKey.loadText text = .error e → e.kind? = some .signing ∧
      (signWithText claims text keyId = .error (.signing .claims) ↔
        ¬claims.HasShortTimes ∨ ∀ e, ¬Misfits text e)) ∧
    ∀ e, signWithText claims text keyId = .error e ∧ e.kind? ≠ some .signing ↔
      claims.HasShortTimes ∧ Misfits text e := by
  refine ⟨fun key => signWithText_eq_sign_iff, ?_, fun e => signWithText_error_iff⟩
  intro e hload
  obtain ⟨fault, rfl⟩ := PrivateKey.exists_fault_of_loadText hload
  exact ⟨rfl, signing_iff_no_misfit (not_holdsKey_of_loadText hload)⟩

/-- A public key signs nothing and is told by an error of another kind, and a line in front of a
private key hides it from signing only. -/
theorem signWithText_disagrees :
    let claims : Claims := ⟨"i".toList, none, none, "a".toList, 1, 2, by decide⟩
    let blockOfPublicKey := ("-----BEGIN PUBLIC KEY-----\n" ++
      "MFwwDQYJKoZIhvcNAQEBBQADSwAwSAJBAM12Q5TMC2i84SouneyWETUwHFfbpsZS\n" ++
      "W0wuTCn5vUW4lPlJ5okKIkXl0bfcUh65pPT5jYx/YEE256Vdk4akwGECAwEAAQ==\n" ++
      "-----END PUBLIC KEY-----\n").toList
    let hidden := "ssh-rsa\n".toList ++ TokenSource.accountWithAudience.privateKey
    PrivateKey.loadText blockOfPublicKey = .error (.signing .unreadableKey) ∧
      signWithText claims blockOfPublicKey "k".toList = .error .cannotSign ∧
      Error.cannotSign.kind? = none ∧
      PrivateKey.loadText hidden = .ok PrivateKey.short ∧
      (∃ token, sign claims PrivateKey.short "k".toList = .ok token) ∧
      signWithText claims hidden "k".toList = .error (.signing .claims) := by
  intro claims blockOfPublicKey hidden
  have htimes : claims.HasShortTimes := Claims.isWritable_payload_iff.1 (by decide +kernel)
  exact ⟨by decide +kernel, by decide +kernel, rfl, by decide +kernel,
    exists_sign_of_canSign PrivateKey.canSign_short htimes _, by decide +kernel⟩

end Jwt

end SignedAccess
