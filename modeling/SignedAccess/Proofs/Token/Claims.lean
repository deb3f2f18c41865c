import SignedAccess.Proofs.Json.Objects
import SignedAccess.Proofs.Number.Rounding
import SignedAccess.Proofs.Time.Instant
import SignedAccess.Token.Claims

/-!
# Claims

Claims are issued at the reading of a clock and expire with the reading one hour later.  Whatever
the clock shows, their times are short enough for every reader of JSON.

    issue issuer audience now subject scope = .ok c →
      ∃ expiry, c.Holds issuer audience subject scope now expiry     (exists_expiry_of_issue)
-/

namespace SignedAccess

/-! ## Times -/

/-- A count of seconds that fits a double is short. -/
theorem isPlain_wholeSeconds (micros : Int) : (Json.int (wholeSeconds micros)).IsPlain := by
  obtain ⟨k, hk, hle⟩ := Binary64.exists_natAbs_truncate_ofRatio_le (decide (micros < 0))
    micros.natAbs (show microsPerSecond ≠ 0 by decide)
  have hdigits : k < Decimal.maxDigits - 1 := Nat.lt_of_le_of_lt hk (by decide)
  calc (wholeSeconds micros).natAbs
    _ ≤ 2 ^ k := hle
    _ ≤ 10 ^ k := Nat.pow_le_pow_left (by decide) k
    _ < 10 ^ (Decimal.maxDigits - 1) := Nat.pow_lt_pow_right (by decide) hdigits

theorem DateTime.isPlain_timestamp {t : DateTime} {seconds : Int}
    (h : t.timestamp = .ok seconds) : (Json.int seconds).IsPlain := by
  unfold DateTime.timestamp at h
  split at h
  · cases h
  · cases h
    exact isPlain_wholeSeconds _

namespace Claims

/-! ## Fields -/

/-- Whether the times of claims are not too long to be read. -/
structure HasPlainTimes (c : Claims) : Prop where
  issuedAt : (Json.int c.issuedAt).IsPlain
  expires : (Json.int c.expires).IsPlain

theorem mem_optionalClaim {key : String} {value : Option Text} {f : Text × Json}
    (h : f ∈ optionalClaim key value) : f.1 = key.toList ∧ ∃ t, f.2 = .text t := by
  cases value with
  | none => cases h
  | some t =>
    rw [List.mem_singleton.1 h]
    exact ⟨rfl, t, rfl⟩

/-- A claim is a text or one of the two times. -/
theorem value_of_mem_fields {c : Claims} {f : Text × Json} (hf : f ∈ c.fields) :
    (∃ t, f.2 = .text t) ∨ f.2 = .int c.issuedAt ∨ f.2 = .int c.expires := by
  simp only [fields, List.mem_append, List.mem_cons, List.not_mem_nil, or_false] at hf
  rcases hf with (((rfl | hf) | hf) | rfl | rfl | rfl)
  · exact Or.inl ⟨_, rfl⟩
  · exact Or.inl (mem_optionalClaim hf).2
  · exact Or.inl (mem_optionalClaim hf).2
  · exact Or.inl ⟨_, rfl⟩
  · exact Or.inr (Or.inl rfl)
  · exact Or.inr (Or.inr rfl)

theorem isPlain_of_mem_fields {c : Claims} (htimes : c.HasPlainTimes) :
    ∀ f ∈ c.fields, f.2.IsPlain := by
  intro f hf
  rcases value_of_mem_fields hf with ⟨t, ht⟩ | hissued | hexpires
  · rw [ht]
    exact Json.isPlain_text t
  · rw [hissued]
    exact htimes.issuedAt
  · rw [hexpires]
    exact htimes.expires

/-- Whether the times of claims are not too long to be written. -/
structure HasShortTimes (c : Claims) : Prop where
  issuedAt : c.issuedAt.natAbs < 10 ^ Decimal.maxDigits
  expires : c.expires.natAbs < 10 ^ Decimal.maxDigits

/-- Claims are written just when their times are short enough. -/
theorem isWritable_payload_iff {c : Claims} : c.payload.isWritable = true ↔ c.HasShortTimes := by
  show Json.areFieldsWritable c.fields = true ↔ _
  rw [Json.areFieldsWritable_iff]
  constructor
  · intro h
    have hissued := h ("iat".toList, .int c.issuedAt) (by simp [fields])
    have hexpires := h ("exp".toList, .int c.expires) (by simp [fields])
    exact ⟨Json.isWritable_int_iff.1 hissued, Json.isWritable_int_iff.1 hexpires⟩
  · intro h f hf
    rcases value_of_mem_fields hf with ⟨t, ht⟩ | hissued | hexpires
    · rw [ht]
      rfl
    · rw [hissued]
      exact Json.isWritable_int_iff.2 h.issuedAt
    · rw [hexpires]
      exact Json.isWritable_int_iff.2 h.expires

theorem HasPlainTimes.hasShortTimes {c : Claims} (h : c.HasPlainTimes) : c.HasShortTimes := by
  have hpow : 10 ^ (Decimal.maxDigits - 1) ≤ 10 ^ Decimal.maxDigits :=
    Nat.pow_le_pow_right (by decide) (Nat.sub_le _ _)
  exact ⟨Nat.lt_of_lt_of_le h.issuedAt hpow, Nat.lt_of_lt_of_le h.expires hpow⟩

theorem isFlat_of_mem_fields {c : Claims} : ∀ f ∈ c.fields, f.2.IsFlat := by
  intro f hf
  rcases value_of_mem_fields hf with ⟨t, ht⟩ | hissued | hexpires
  · rw [ht]
    exact True.intro
  · rw [hissued]
    exact True.intro
  · rw [hexpires]
    exact True.intro

theorem keys_optionalClaim_sublist (key : String) (value : Option Text) :
    ((optionalClaim key value).map Prod.fst).Sublist [key.toList] := by
  cases value with
  | none => exact List.nil_sublist _
  | some t => exact List.Sublist.refl _

/-- No claim comes twice. -/
theorem nodup_keys_fields (c : Claims) : (c.fields.map Prod.fst).Nodup := by
  have hsub := keys_optionalClaim_sublist "sub" c.subject
  have hscope := keys_optionalClaim_sublist "scope" c.scope
  have hnames : (c.fields.map Prod.fst).Sublist
      ((("iss".toList :: ["sub".toList]) ++ ["scope".toList]) ++
        ["aud".toList, "iat".toList, "exp".toList]) := by
    simp only [fields, List.map_append, List.map_cons, List.map_nil]
    exact ((hsub.cons_cons _).append hscope).append (List.Sublist.refl _)
  exact hnames.nodup (by decide)

/-! ## Issue -/

/-- Whether claims say what is asked for, and are valid from one reading of a clock to another, one
hour later. -/
structure Holds (c : Claims) (issuer audience : Text) (subject scope : Option Text)
    (now : Moment) (expiry : DateTime) : Prop where
  issuer : c.issuer = issuer
  audience : c.audience = audience
  subject : c.subject = subject
  scope : c.scope = scope
  later : now.later lifetime = .ok expiry
  issuedAt : now.reading.timestamp = .ok c.issuedAt
  expires : expiry.timestamp = .ok c.expires

theorem exists_expiry_of_issue {issuer audience : Text} {now : Moment}
    {subject scope : Option Text} {c : Claims}
    (h : issue issuer audience now subject scope = .ok c) :
    ∃ expiry, c.Holds issuer audience subject scope now expiry := by
  obtain ⟨⟨issuedAt, expires⟩, hvalid, hparts⟩ := bind_eq_ok_iff.1 h
  obtain ⟨expiry, hlater, hvalid⟩ := bind_eq_ok_iff.1 hvalid
  obtain ⟨n, hissued, hvalid⟩ := bind_eq_ok_iff.1 hvalid
  obtain ⟨m, hexpires, hvalid⟩ := bind_eq_ok_iff.1 hvalid
  cases hvalid
  have hparts := mapError_eq_ok_iff.1 hparts
  unfold ofParts at hparts
  split at hparts
  · cases hparts
    exact ⟨expiry, rfl, rfl, rfl, rfl, hlater, mapError_eq_ok_iff.1 hissued,
      mapError_eq_ok_iff.1 hexpires⟩
  · cases hparts

theorem Holds.hasPlainTimes {c : Claims} {issuer audience : Text} {subject scope : Option Text}
    {now : Moment} {expiry : DateTime} (h : c.Holds issuer audience subject scope now expiry) :
    c.HasPlainTimes :=
  ⟨DateTime.isPlain_timestamp h.issuedAt, DateTime.isPlain_timestamp h.expires⟩

end Claims

end SignedAccess
