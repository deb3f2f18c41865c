import SignedAccess.Proofs.Json.Flat
import SignedAccess.Proofs.Key.Verification
import SignedAccess.Proofs.Token.Assertions

/-!
# Claims and tokens determine each other

A key that can sign makes a token out of any claims with times of at most 4300 digits and any name
of a key.  The token has three segments, from which a reader of flat objects gets back the header
and the claims, whatever their texts; the third is the signature over the other two.  Under one key,
therefore, different claims or names give different tokens.  Claims with longer times are not
signed.

    key.CanSign → claims.HasShortTimes → ∃ token, sign claims key keyId = .ok token ∧
      Decodes token key claims keyId ∧ …                             (sign_decodes)
-/

namespace SignedAccess

/-! ## Claims -/

/-- Whether the fields of an object are those of claims, where claims that are unset have none. -/
structure Claims.IsStatedBy (c : Claims) (fields : List (Text × Json)) : Prop where
  issuer : Json.fieldOf? "iss".toList fields = some (.text c.issuer)
  subject : Json.fieldOf? "sub".toList fields = c.subject.map .text
  scope : Json.fieldOf? "scope".toList fields = c.scope.map .text
  audience : Json.fieldOf? "aud".toList fields = some (.text c.audience)
  issuedAt : Json.fieldOf? "iat".toList fields = some (.int c.issuedAt)
  expires : Json.fieldOf? "exp".toList fields = some (.int c.expires)
  /-- There are no other fields. -/
  keys : ∀ f ∈ fields, f.1 ∈ ["iss", "sub", "scope", "aud", "iat", "exp"].map String.toList
  /-- No field comes twice. -/
  nodup : (fields.map Prod.fst).Nodup

namespace Claims

variable {c c' : Claims} {fields : List (Text × Json)}

theorem optionText_injective {a b : Option Text} (h : a.map Json.text = b.map Json.text) :
    a = b :=
  Option.map_injective (fun _ _ => Json.text.inj) h

/-- The fields of an object state one set of claims. -/
theorem IsStatedBy.unique (h : c.IsStatedBy fields) (h' : c'.IsStatedBy fields) : c = c' := by
  have hissuer := h.issuer.symm.trans h'.issuer
  have hsubject := h.subject.symm.trans h'.subject
  have hscope := h.scope.symm.trans h'.scope
  have haudience := h.audience.symm.trans h'.audience
  have hissued := h.issuedAt.symm.trans h'.issuedAt
  have hexpires := h.expires.symm.trans h'.expires
  cases c
  cases c'
  cases hissuer
  cases optionText_injective hsubject
  cases optionText_injective hscope
  cases haudience
  cases hissued
  cases hexpires
  rfl

theorem isStatedBy_fields (c : Claims) : c.IsStatedBy c.fields := by
  have hkeys : ∀ f ∈ c.fields,
      f.1 ∈ ["iss", "sub", "scope", "aud", "iat", "exp"].map String.toList := by
    intro f hf
    simp only [fields, List.mem_append, List.mem_cons, List.not_mem_nil, or_false] at hf
    rcases hf with (((rfl | hf) | hf) | rfl | rfl | rfl)
    · simp
    · simp [(mem_optionalClaim hf).1]
    · simp [(mem_optionalClaim hf).1]
    · simp
    · simp
    · simp
  have hnodup := nodup_keys_fields c
  obtain ⟨issuer, subject, scope, audience, issuedAt, expires, hlt⟩ := c
  cases subject with
  | none =>
    cases scope with
    | none => exact ⟨rfl, rfl, rfl, rfl, rfl, rfl, hkeys, hnodup⟩
    | some scope => exact ⟨rfl, rfl, rfl, rfl, rfl, rfl, hkeys, hnodup⟩
  | some subject =>
    cases scope with
    | none => exact ⟨rfl, rfl, rfl, rfl, rfl, rfl, hkeys, hnodup⟩
    | some scope => exact ⟨rfl, rfl, rfl, rfl, rfl, rfl, hkeys, hnodup⟩

end Claims

namespace Jwt

variable {claims : Claims} {key : PrivateKey} {keyId token : Text}

/-! ## Header -/

/-- Whether the fields of an object are those of a header that names a key, and none if the name is
empty. -/
structure IsHeader (keyId : Text) (fields : List (Text × Json)) : Prop where
  algorithm : Json.fieldOf? "alg".toList fields = some (.text "RS256".toList)
  type : Json.fieldOf? "typ".toList fields = some (.text "JWT".toList)
  keyId : Json.fieldOf? "kid".toList fields = if keyId = [] then none else some (.text keyId)
  /-- There are no other fields. -/
  keys : ∀ f ∈ fields, f.1 ∈ ["alg", "typ", "kid"].map String.toList
  /-- No field comes twice. -/
  nodup : (fields.map Prod.fst).Nodup

theorem IsHeader.unique {keyId keyId' : Text} {fields : List (Text × Json)}
    (h : IsHeader keyId fields) (h' : IsHeader keyId' fields) : keyId = keyId' := by
  have hsame := h.keyId.symm.trans h'.keyId
  split at hsame
  · next hnil =>
    split at hsame
    · next hnil' => rw [hnil, hnil']
    · cases hsame
  · split at hsame
    · cases hsame
    · exact Json.text.inj (Option.some.inj hsame)

theorem exists_fields_header (keyId : Text) :
    ∃ fields, header keyId = .object fields ∧ IsHeader keyId fields ∧ ∀ f ∈ fields, f.2.IsFlat := by
  by_cases hnil : keyId = []
  · refine ⟨[("alg".toList, .text algorithm), ("typ".toList, .text "JWT".toList)], ?_, ?_, ?_⟩
    · rw [header, if_pos hnil]
      rfl
    · exact ⟨rfl, rfl, (if_pos hnil).symm, by simp, by decide⟩
    · simp [Json.IsFlat]
  · refine ⟨[("alg".toList, .text algorithm), ("kid".toList, .text keyId),
      ("typ".toList, .text "JWT".toList)], ?_, ?_, ?_⟩
    · rw [header, if_neg hnil]
      rfl
    · have hkeys : ["alg".toList, "kid".toList, "typ".toList].Nodup := by decide
      exact ⟨rfl, rfl, (if_neg hnil).symm, by simp, hkeys⟩
    · simp [Json.IsFlat]

/-! ## Segments -/

def flatOf? (segment : Text) : Option (List (Text × Json)) := do
  let bytes ← Base64.decodeUnpadded? .urlSafe segment
  let text ← Utf8.decode? bytes
  Json.readFlat? text

theorem flatOf?_jsonSegment {fields : List (Text × Json)} (hflat : ∀ f ∈ fields, f.2.IsFlat) :
    flatOf? (jsonSegment (.object fields)) = some fields := by
  simp only [flatOf?, jsonSegment, segment, Base64.decodeUnpadded?_encodeUnpadded,
    Utf8.decode?_encode, Json.readFlat?_write hflat, Option.bind_eq_bind, Option.bind_some]

/-- Whether a text is not empty and stands in a URL as it is. -/
def IsSegment (t : Text) : Prop := t ≠ [] ∧ ∀ c ∈ t, Base64.IsUrlSafe c

theorem isSegment_segment {bytes : Bytes} (hne : bytes ≠ []) : IsSegment (segment bytes) :=
  ⟨Base64.encodeUnpadded_ne_nil .urlSafe hne, fun _ => Base64.isUrlSafe_of_mem_encodeUnpadded⟩

theorem isSegment_jsonSegment (fields : List (Text × Json)) :
    IsSegment (jsonSegment (.object fields)) := by
  refine isSegment_segment fun hnil => ?_
  have hdecoded := Utf8.decode?_encode (Json.write .compact (.object fields))
  rw [hnil] at hdecoded
  cases hdecoded

/-! ## Tokens -/

/-- Whether a token decodes to claims and to the name of a key: its three segments hold a header, an
object that states the claims, and the signature of the key over the first two. -/
def Decodes (token : Text) (key : PrivateKey) (claims : Claims) (keyId : Text) : Prop :=
  ∃ first second third header payload signature,
    token.splitOn '.' = [first, second, third] ∧
    (∀ part ∈ [first, second, third], IsSegment part) ∧
    flatOf? first = some header ∧ IsHeader keyId header ∧
    flatOf? second = some payload ∧ claims.IsStatedBy payload ∧
    Base64.decodeUnpadded? .urlSafe third = some signature ∧
    key.sign? (Utf8.encode (first ++ '.' :: second)) = some signature

theorem decodes_of_sign (h : sign claims key keyId = .ok token) :
    Decodes token key claims keyId := by
  obtain ⟨-, signature, hsignature, rfl⟩ := sign_eq_ok_iff.1 h
  obtain ⟨fields, hheader, hfields, hflat⟩ := exists_fields_header keyId
  have hsplit := splitOn_withSignature claims keyId signature
  have hsegments : ∀ part ∈ [jsonSegment (header keyId), jsonSegment claims.payload,
      segment signature], IsSegment part := by
    simp only [List.mem_cons, List.not_mem_nil, or_false]
    rintro part (rfl | rfl | rfl)
    · rw [hheader]
      exact isSegment_jsonSegment fields
    · exact isSegment_jsonSegment claims.fields
    · exact isSegment_segment (PrivateKey.ne_nil_of_sign? hsignature)
  have hfirst : flatOf? (jsonSegment (header keyId)) = some fields := by
    rw [hheader]
    exact flatOf?_jsonSegment hflat
  exact ⟨_, _, _, fields, claims.fields, signature, hsplit, hsegments, hfirst, hfields,
    flatOf?_jsonSegment Claims.isFlat_of_mem_fields, claims.isStatedBy_fields,
    Base64.decodeUnpadded?_encodeUnpadded .urlSafe signature, hsignature⟩

/-- A token decodes to nothing else. -/
theorem Decodes.unique {key' : PrivateKey} {claims' : Claims} {keyId' : Text}
    (h : Decodes token key claims keyId) (h' : Decodes token key' claims' keyId') :
    claims = claims' ∧ keyId = keyId' := by
  obtain ⟨first, second, third, header, payload, -, hsplit, -, hfirst, hheader, hsecond, hpayload,
    -⟩ := h
  obtain ⟨first', second', third', header', payload', -, hsplit', -, hfirst', hheader', hsecond',
    hpayload', -⟩ := h'
  rw [hsplit] at hsplit'
  cases hsplit'
  rw [hfirst] at hfirst'
  cases hfirst'
  rw [hsecond] at hsecond'
  cases hsecond'
  exact ⟨hpayload.unique hpayload', hheader.unique hheader'⟩

/-! ## Signing -/

deriving instance DecidableEq for AnyKey

/-- Whether a private key is what a text holds. -/
def HoldsKey (text : Text) (key : PrivateKey) : Prop :=
  lineStart.isPrefixOf text = false ∧ KeyFile.loadText text = .ok (.rsa key)

instance (text : Text) (key : PrivateKey) : Decidable (HoldsKey text key) :=
  inferInstanceAs (Decidable (_ ∧ _))

theorem exists_sign_of_canSign (hkey : key.CanSign) (htimes : claims.HasShortTimes)
    (keyId : Text) : ∃ token, sign claims key keyId = .ok token := by
  obtain ⟨signature, hsignature⟩ :=
    PrivateKey.exists_sign?_of_canSign hkey (Utf8.encode (signingInput claims keyId))
  exact ⟨_, sign_eq_ok_iff.2 ⟨htimes, signature, hsignature, rfl⟩⟩

theorem sign_of_not_hasShortTimes (htimes : ¬claims.HasShortTimes) (key : PrivateKey)
    (keyId : Text) : sign claims key keyId = .error (.signing .claims) := by
  rw [sign, if_neg (mt Claims.isWritable_payload_iff.1 htimes)]

theorem signWithText_of_not_hasShortTimes (htimes : ¬claims.HasShortTimes) (text keyId : Text) :
    signWithText claims text keyId = .error (.signing .claims) := by
  rw [← Claims.isWritable_payload_iff] at htimes
  rw [signWithText, if_pos (by simpa using htimes)]

theorem signWithText_of_holdsKey {text : Text} (h : HoldsKey text key) (claims : Claims)
    (keyId : Text) : signWithText claims text keyId = sign claims key keyId := by
  obtain ⟨hstart, hload⟩ := h
  by_cases htimes : claims.HasShortTimes
  · rw [signWithText, Claims.isWritable_payload_iff.2 htimes, hstart, hload]
    rfl
  · rw [signWithText_of_not_hasShortTimes htimes, sign_of_not_hasShortTimes htimes]

theorem sign_of_not_canSign (hkey : ¬key.CanSign) (claims : Claims) (keyId : Text) :
    sign claims key keyId = .error (.signing .claims) := by
  unfold sign
  split
  · simp only [PrivateKey.sign?_eq_none_of_not_canSign hkey]
  · rfl

/-- A key that can sign, or a text that holds it, makes a token out of any claims with times of at
most 4300 digits and any name of a key.  The token decodes to both, and no others give it under this
key.  Claims with a longer time give no token. -/
theorem sign_decodes (hkey : key.CanSign) (claims : Claims) (keyId : Text) :
    (claims.HasShortTimes → ∃ token, sign claims key keyId = .ok token ∧
      (∀ text, HoldsKey text key → signWithText claims text keyId = .ok token) ∧
      Decodes token key claims keyId ∧
      ∀ claims' keyId', sign claims' key keyId' = .ok token →
        claims' = claims ∧ keyId' = keyId) ∧
    (¬claims.HasShortTimes → sign claims key keyId = .error (.signing .claims) ∧
      ∀ text, signWithText claims text keyId = .error (.signing .claims)) := by
  refine ⟨fun htimes => ?_, fun htimes => ⟨sign_of_not_hasShortTimes htimes key keyId, ?_⟩⟩
  · obtain ⟨token, htoken⟩ := exists_sign_of_canSign hkey htimes keyId
    have hdecodes := decodes_of_sign htoken
    refine ⟨token, htoken, ?_, hdecodes, ?_⟩
    · intro text htext
      rw [signWithText_of_holdsKey htext]
      exact htoken
    · intro claims' keyId' h
      exact (decodes_of_sign h).unique hdecodes
  · exact fun text => signWithText_of_not_hasShortTimes htimes text keyId

/-- Texts with marks of JSON, control characters and characters beyond the first plane come back,
and so do an empty claim and times that no double holds. -/
theorem sign_decodes_rare_texts :
    let text := TokenSource.accountWithAudience.privateKey
    let claims : Claims := ⟨"a\"\\\n.😀".toList, some [], none, [Char.ofNat 0, Char.ofNat 0x7F],
      -1180591620717411303425, 1180591620717411303425, by decide⟩
    PrivateKey.short.CanSign ∧ HoldsKey text PrivateKey.short ∧ claims.HasShortTimes ∧
      ∃ token, signWithText claims text "é".toList = .ok token ∧
        Decodes token PrivateKey.short claims "é".toList := by
  intro text claims
  have htext : HoldsKey text PrivateKey.short := by decide +kernel
  have htimes : claims.HasShortTimes := Claims.isWritable_payload_iff.1 (by decide +kernel)
  obtain ⟨token, -, htoken, hdecodes, -⟩ :=
    (sign_decodes PrivateKey.canSign_short claims "é".toList).1 htimes
  exact ⟨PrivateKey.canSign_short, htext, htimes, token, htoken text htext, hdecodes⟩

/-- Claims that are issued at the first second after 1970 began. -/
def claimsUntil (expires : Nat) (h : 1 < expires) : Claims :=
  ⟨"i".toList, none, none, "a".toList, 1, expires, by exact_mod_cast h⟩

theorem hasShortTimes_claimsUntil_iff {expires : Nat} (h : 1 < expires) :
    (claimsUntil expires h).HasShortTimes ↔ expires < 10 ^ Decimal.maxDigits := by
  constructor
  · intro htimes
    exact (Int.natAbs_natCast expires).symm.trans_lt htimes.expires
  · intro hlt
    exact ⟨h.trans hlt, (Int.natAbs_natCast expires).trans_lt hlt⟩

/-- There is no token for a time of 4301 digits, and none under an RSA key of 81 bytes with a
private exponent that has a bit more than the modulus. -/
theorem sign_long_fails :
    let long := claimsUntil (10 ^ Decimal.maxDigits) (Nat.one_lt_pow (by decide) (by decide))
    let brief := claimsUntil 2 (by decide)
    let key := PrivateKey.ofMersenne 6
    PrivateKey.short.CanSign ∧
      sign long PrivateKey.short "k".toList = .error (.signing .claims) ∧
      key.IsRsa ∧ 62 ≤ (Nat.size key.n + 7) / 8 ∧
      sign brief key "k".toList = .error (.signing .claims) := by
  intro long brief key
  have hlong : ¬long.HasShortTimes := by
    rw [hasShortTimes_claimsUntil_iff]
    exact Nat.lt_irrefl _
  have hexponent : key.hasUsableExponent ≠ true := by decide +kernel
  exact ⟨PrivateKey.canSign_short, sign_of_not_hasShortTimes hlong _ _,
    PrivateKey.isRsa_ofMersenne 6, by decide +kernel,
    sign_of_not_canSign (fun hcan => hexponent hcan.exponent) _ _⟩

end Jwt

end SignedAccess
