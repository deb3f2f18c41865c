import Mathlib.Data.Nat.ChineseRemainder
import Mathlib.FieldTheory.Finite.Basic
import Mathlib.NumberTheory.LucasLehmer
import SignedAccess.Key.Der
import SignedAccess.Proofs.Bytes.BigEndian
import SignedAccess.Proofs.Key.Signature

/-!
# Signatures and public keys

Who knows the modulus and the public exponent of a key raises a signature to that exponent, and
looks for the padded digest of the message.  This undoes the private exponent for every block below
the modulus, also for one that shares a prime with it.

    k ≡ 1 [MOD lcm (p - 1) (q - 1)] → m ^ k ≡ m [MOD p * q]          (pow_modEq_of_two_primes)
    key.IsRsa → key.sign? message = some signature →
      Accepts key.n key.e message signature                           (accepts_of_sign?)
-/

namespace SignedAccess

/-! ## Public keys -/

/-- The element that names SHA-256 and holds the digest of a message. -/
def digestInfo (message : Bytes) : Der.Element :=
  let sha256 := ObjectId.encode [2, 16, 840, 1, 101, 3, 4, 2, 1]
  Der.sequence
    [Der.sequence [⟨Der.objectIdTag, sha256⟩, ⟨Der.nullTag, []⟩],
     ⟨Der.octetStringTag, Sha256.digest message⟩]

/-- Whether a block of `size` bytes is the padded digest of a message. -/
structure IsPadded (size : Nat) (message block : Bytes) : Prop where
  length : block.length = size
  /-- At least eight bytes of filling stand between the marks and the digest. -/
  parts : ∃ filling : Bytes, 8 ≤ filling.length ∧ (∀ b ∈ filling, b = 0xFF) ∧
    block = [0x00, 0x01] ++ filling ++ [0x00] ++ (digestInfo message).encode

/-- Whether the public key of a modulus and an exponent accepts a signature of a message. -/
structure Accepts (n e : Nat) (message signature : Bytes) : Prop where
  /-- The signature has as many bytes as the bits of the modulus fill. -/
  length : signature.length = (Nat.size n + 7) / 8
  lt : BigEndian.value signature < n
  power : ∃ block, IsPadded ((Nat.size n + 7) / 8) message block ∧
    BigEndian.value signature ^ e % n = BigEndian.value block

/-! ## Powers -/

theorem pow_modEq_of_prime {p k : Nat} (hp : p.Prime) (hk : k ≠ 0) (hmod : k ≡ 1 [MOD p - 1])
    (m : Nat) : m ^ k ≡ m [MOD p] := by
  by_cases hdvd : p ∣ m
  · have hzero : m ≡ 0 [MOD p] := Nat.modEq_zero_iff_dvd.2 hdvd
    have hpow : m ^ k ≡ 0 [MOD p] := Nat.modEq_zero_iff_dvd.2 (dvd_pow hdvd hk)
    exact hpow.trans hzero.symm
  · have hcoprime : m.Coprime p := (Nat.coprime_comm.1 ((Nat.Prime.coprime_iff_not_dvd hp).2 hdvd))
    have hfermat : m ^ (p - 1) ≡ 1 [MOD p] := by
      rw [← Nat.totient_prime hp]
      exact Nat.ModEq.pow_totient hcoprime
    obtain ⟨j, hj⟩ := (Nat.modEq_iff_dvd' (Nat.one_le_iff_ne_zero.2 hk)).1 hmod.symm
    have hsplit : k = (p - 1) * j + 1 := by omega
    calc m ^ k = (m ^ (p - 1)) ^ j * m := by rw [hsplit, pow_succ, pow_mul]
      _ ≡ 1 ^ j * m [MOD p] := (hfermat.pow j).mul_right m
      _ = m := by rw [one_pow, one_mul]

/-- Exponents that are one modulo the common multiple leave every number as it is, whether or not it
shares a prime with the modulus. -/
theorem pow_modEq_of_two_primes {p q k : Nat} (hp : p.Prime) (hq : q.Prime) (hne : p ≠ q)
    (hk : k ≠ 0) (hmod : k ≡ 1 [MOD Nat.lcm (p - 1) (q - 1)]) (m : Nat) :
    m ^ k ≡ m [MOD p * q] := by
  have hmodp : m ^ k ≡ m [MOD p] := pow_modEq_of_prime hp hk (hmod.of_dvd (Nat.dvd_lcm_left _ _)) m
  have hmodq : m ^ k ≡ m [MOD q] := pow_modEq_of_prime hq hk (hmod.of_dvd (Nat.dvd_lcm_right _ _)) m
  exact (Nat.modEq_and_modEq_iff_modEq_mul ((Nat.coprime_primes hp hq).2 hne)).1 ⟨hmodp, hmodq⟩

namespace PrivateKey

variable {key : PrivateKey}

/-! ## Keys -/

/-- Whether a key is one of RSA with two primes, whatever its other numbers. -/
structure IsRsa (key : PrivateKey) : Prop where
  prime_p : key.p.Prime
  prime_q : key.q.Prime
  distinct : key.p ≠ key.q
  modulus : key.n = key.p * key.q
  exponents : key.e * key.d ≡ 1 [MOD Nat.lcm (key.p - 1) (key.q - 1)]

/-- One of two primes is odd, so that the exponents are not zero. -/
theorem IsRsa.exponents_ne_zero (h : key.IsRsa) : key.d * key.e ≠ 0 := by
  intro hzero
  have hone : 1 ≡ 0 [MOD Nat.lcm (key.p - 1) (key.q - 1)] := by
    rw [← hzero, mul_comm]
    exact h.exponents.symm
  have hdvd : Nat.lcm (key.p - 1) (key.q - 1) ∣ 1 := Nat.modEq_zero_iff_dvd.1 hone
  have hp : key.p - 1 = 1 := Nat.dvd_one.1 ((Nat.dvd_lcm_left _ _).trans hdvd)
  have hq : key.q - 1 = 1 := Nat.dvd_one.1 ((Nat.dvd_lcm_right _ _).trans hdvd)
  exact h.distinct (by omega)

theorem IsRsa.modulus_ne_zero (h : key.IsRsa) : key.n ≠ 0 := by
  rw [h.modulus]
  exact Nat.mul_ne_zero h.prime_p.ne_zero h.prime_q.ne_zero

/-- The public exponent undoes the private one. -/
theorem IsRsa.pow_pow_mod (h : key.IsRsa) {m : Nat} (hm : m < key.n) :
    (m ^ key.d % key.n) ^ key.e % key.n = m := by
  have hpow : m ^ (key.d * key.e) ≡ m [MOD key.n] := by
    rw [h.modulus]
    refine pow_modEq_of_two_primes h.prime_p h.prime_q h.distinct h.exponents_ne_zero ?_ m
    rw [mul_comm]
    exact h.exponents
  calc (m ^ key.d % key.n) ^ key.e % key.n = m ^ (key.d * key.e) % key.n := by
        rw [← Nat.pow_mod, ← pow_mul]
    _ = m % key.n := hpow
    _ = m := Nat.mod_eq_of_lt hm

theorem size_eq (key : PrivateKey) : key.size = (Nat.size key.n + 7) / 8 := BigEndian.width_eq key.n

/-- The exponent is usable if it has no more bits than the modulus. -/
theorem hasUsableExponent_iff (key : PrivateKey) :
    key.hasUsableExponent = true ↔ Nat.size key.d ≤ Nat.size key.n := by
  have hbits : key.bits = Nat.size key.n := by
    unfold bits
    split
    · next hzero =>
      rw [hzero]
      rfl
    · next hne => exact (BigEndian.size_eq_log2_succ hne).symm
  unfold hasUsableExponent
  rw [hbits]
  by_cases hzero : key.d = 0
  · simp [hzero]
  · rw [BigEndian.size_eq_log2_succ hzero, Nat.add_one_le_iff]
    simp [hzero]

theorem canSign_iff (key : PrivateKey) :
    key.CanSign ↔ 62 ≤ (Nat.size key.n + 7) / 8 ∧ Nat.size key.d ≤ Nat.size key.n := by
  rw [← size_eq, ← hasUsableExponent_iff]
  exact ⟨fun h => ⟨h.size, h.exponent⟩, fun h => ⟨h.1, h.2⟩⟩

/-! ## Blocks -/

theorem encode_digestInfo (message : Bytes) :
    (digestInfo message).encode = digestFrame ++ Sha256.digest message := by
  have hframe : (Der.sequence [⟨Der.objectIdTag, ObjectId.encode [2, 16, 840, 1, 101, 3, 4, 2, 1]⟩,
      ⟨Der.nullTag, []⟩]).encode = (digestFrame.drop 2).take 15 := by decide
  have hdigest : (⟨Der.octetStringTag, Sha256.digest message⟩ : Der.Element).encode =
      [0x04, 0x20] ++ Sha256.digest message := by
    unfold Der.Element.encode
    rw [Sha256.digest_length]
    rfl
  have hcontent : (digestInfo message).content =
      (digestFrame.drop 2).take 15 ++ ([0x04, 0x20] ++ Sha256.digest message) := by
    rw [← hframe, ← hdigest]
    simp [digestInfo, Der.sequence]
  have hlength : (digestInfo message).content.length = 49 := by
    rw [hcontent, List.length_append, List.length_append, Sha256.digest_length]
    rfl
  show Der.sequenceTag :: Der.encodeLength (digestInfo message).content.length ++
    (digestInfo message).content = _
  rw [hlength, hcontent]
  rfl

/-- The block that is signed is the padded digest. -/
theorem isPadded_of_encodeDigest {size : Nat} {message block : Bytes}
    (h : encodeDigest size message = some block) : IsPadded size message block := by
  refine ⟨encodeDigest_length h, ?_⟩
  have hframed : (digestFrame ++ Sha256.digest message).length = 51 := by
    rw [List.length_append, Sha256.digest_length]
    rfl
  simp only [encodeDigest, hframed] at h
  split at h
  · next hsize =>
    refine ⟨List.replicate (size - 51 - 3) 0xFF, ?_, fun b hb => List.eq_of_mem_replicate hb, ?_⟩
    · rw [List.length_replicate]
      omega
    · rw [encode_digestInfo, ← Option.some.inj h]
      simp
  · cases h

/-- A block begins with a zero byte, and so is below a modulus of its length. -/
theorem value_lt_of_encodeDigest {message block : Bytes} (hn : key.n ≠ 0)
    (h : encodeDigest key.size message = some block) : BigEndian.value block < key.n := by
  obtain ⟨filling, -, -, hblock⟩ := (isPadded_of_encodeDigest h).parts
  have hlength := encodeDigest_length h
  generalize hrest : [0x01] ++ filling ++ [0x00] ++ (digestInfo message).encode = rest at *
  have hcons : block = 0x00 :: rest := by
    rw [hblock, ← hrest]
    rfl
  have hsize : rest.length = BigEndian.width key.n - 1 := by
    rw [hcons, List.length_cons] at hlength
    unfold size at hlength
    omega
  calc BigEndian.value block = BigEndian.value rest := by
        rw [hcons, BigEndian.value_cons]
        simp
    _ < 256 ^ rest.length := BigEndian.value_lt rest
    _ = 256 ^ (BigEndian.width key.n - 1) := by rw [hsize]
    _ ≤ key.n := BigEndian.pow_pred_width_le hn

/-! ## Signatures -/

/-- The public key of an RSA key accepts all its signatures. -/
theorem accepts_of_sign? (hkey : key.IsRsa) {message signature : Bytes}
    (h : key.sign? message = some signature) : Accepts key.n key.e message signature := by
  have hlength := length_of_sign? h
  unfold sign? at h
  split at h
  · obtain ⟨block, hblock, rfl⟩ := Option.map_eq_some_iff.1 h
    have hpos : 0 < key.n := Nat.pos_of_ne_zero hkey.modulus_ne_zero
    have hpower : powMod key.n (BigEndian.value block) key.d =
        BigEndian.value block ^ key.d % key.n := powMod_eq _ _ _
    have hlt : BigEndian.value block ^ key.d % key.n < key.n := Nat.mod_lt _ hpos
    have hvalue : BigEndian.value (BigEndian.encode key.size
        (powMod key.n (BigEndian.value block) key.d)) =
          BigEndian.value block ^ key.d % key.n := by
      rw [hpower]
      exact BigEndian.value_encode _ _ (hlt.trans (BigEndian.lt_pow_width key.n))
    have hbelow := value_lt_of_encodeDigest hkey.modulus_ne_zero hblock
    refine ⟨hlength.trans key.size_eq, hvalue.trans_lt hlt, block, ?_, ?_⟩
    · rw [← key.size_eq]
      exact isPadded_of_encodeDigest hblock
    · rw [hvalue]
      exact hkey.pow_pow_mod hbelow
  · cases h

/-- A key that has room for the digest and a usable exponent signs every message, so that its public
key accepts it. -/
theorem exists_accepted (hkey : key.IsRsa) (hcan : key.CanSign) (message : Bytes) :
    ∃ signature, key.sign? message = some signature ∧ Accepts key.n key.e message signature := by
  obtain ⟨signature, hsignature⟩ := exists_sign?_of_canSign hcan message
  exact ⟨signature, hsignature, accepts_of_sign? hkey hsignature⟩

/-! ## Keys of Mersenne primes -/

/-- The least private exponent to 65537 for the Mersenne primes of 127 and 521 bits. -/
def mersenneExponent : Nat :=
  0x2a7fd5802a7fd5802a7fd5802a7fd57f80807f7f80807f7f80807f7f80807f7f80807f7f80807f7f8 <<< 324 +
    0x0807f7f80807f7f80807f7f80807f7f80807f7f80807f7f8055ffaa0055ffaa0055ffaa0055ffaa01

/-- A key of these primes, the private exponent greater by a number of periods. -/
def ofMersenne (periods : Nat) : PrivateKey :=
  let p := mersenne 127
  let q := mersenne 521
  let d := mersenneExponent + periods * Nat.lcm (p - 1) (q - 1)
  { n := p * q
    e := 65537
    d := d
    p := p
    q := q
    dp := d % (p - 1)
    dq := d % (q - 1)
    qInv := 0x6dbb6ddb6edb76dbb6ddb6edb76dbb6d }

theorem isRsa_ofMersenne (periods : Nat) : (ofMersenne periods).IsRsa where
  prime_p := lucas_lehmer_sufficiency 127 (by norm_num) (by norm_num)
  prime_q := lucas_lehmer_sufficiency 521 (by norm_num) (by norm_num)
  distinct := by
    show mersenne 127 ≠ mersenne 521
    exact strictMono_mersenne.injective.ne (by decide)
  modulus := rfl
  exponents := by
    have hleast : 65537 * mersenneExponent ≡
        1 [MOD Nat.lcm (mersenne 127 - 1) (mersenne 521 - 1)] := by decide +kernel
    have hperiods : 65537 * (periods * Nat.lcm (mersenne 127 - 1) (mersenne 521 - 1)) ≡
        0 [MOD Nat.lcm (mersenne 127 - 1) (mersenne 521 - 1)] :=
      Nat.modEq_zero_iff_dvd.2 ((dvd_mul_left _ _).mul_left _)
    show 65537 * (mersenneExponent +
      periods * Nat.lcm (mersenne 127 - 1) (mersenne 521 - 1)) ≡ 1 [MOD _]
    rw [Nat.mul_add]
    exact hleast.add hperiods

end PrivateKey

end SignedAccess
