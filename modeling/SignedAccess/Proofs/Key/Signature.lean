import SignedAccess.Key.Rsa

/-!
# Which keys sign

A key signs every message or none: its modulus has room for the framed digest, and its private
exponent is not longer than the modulus.  A signature is as long as the modulus.

    (key.sign? message).isSome ↔ key.CanSign                         (isSome_sign?_iff)
-/

namespace SignedAccess.PrivateKey

/-- Whether a key can sign. -/
structure CanSign (key : PrivateKey) : Prop where
  /-- The modulus has room for the framed digest. -/
  size : 62 ≤ key.size
  exponent : key.hasUsableExponent = true

/-- Whether a key signs does not depend on the message. -/
theorem isSome_sign?_iff (key : PrivateKey) (message : Bytes) :
    (key.sign? message).isSome ↔ key.CanSign := by
  unfold sign?
  split
  · next hexponent =>
    rw [Option.isSome_map, isSome_encodeDigest_iff]
    exact ⟨fun hsize => ⟨hsize, hexponent⟩, CanSign.size⟩
  · next hexponent =>
    constructor
    · intro h
      cases h
    · intro h
      exact absurd h.exponent hexponent

theorem exists_sign?_of_canSign {key : PrivateKey} (h : key.CanSign) (message : Bytes) :
    ∃ signature, key.sign? message = some signature :=
  Option.isSome_iff_exists.1 ((isSome_sign?_iff key message).2 h)

theorem sign?_eq_none_of_not_canSign {key : PrivateKey} (h : ¬key.CanSign) (message : Bytes) :
    key.sign? message = none := by
  rw [← isSome_sign?_iff key message] at h
  exact Option.not_isSome_iff_eq_none.1 h

theorem length_of_sign? {key : PrivateKey} {message signature : Bytes}
    (h : key.sign? message = some signature) : signature.length = key.size := by
  unfold sign? at h
  split at h
  · obtain ⟨block, -, rfl⟩ := Option.map_eq_some_iff.1 h
    exact BigEndian.encode_length _ _
  · cases h

/-- A signature is not shorter than the framed digest. -/
theorem le_length_of_sign? {key : PrivateKey} {message signature : Bytes}
    (h : key.sign? message = some signature) : 62 ≤ signature.length := by
  rw [length_of_sign? h]
  exact ((isSome_sign?_iff key message).1 (by rw [h]; rfl)).size

theorem ne_nil_of_sign? {key : PrivateKey} {message signature : Bytes}
    (h : key.sign? message = some signature) : signature ≠ [] :=
  List.ne_nil_of_length_pos (by have := le_length_of_sign? h; omega)

def short : PrivateKey where
  n := 0xe4d57d25db5962fbb643fe67828cadc2401166ddd333de396edb3f6119802ee3 <<< 256 +
    0x7e6e540d3020d632aef7d8ab5aa22fbe4e0b19922ddf9baa4b6055a61d14f6a5
  e := 65537
  d := 0x3e60f7f97eded1fdbdc4b12ff445770451c4ac9ee178ed2608d31966d5b5bc91 <<< 256 +
    0xe12a16835bee04bd1b1fe54fcc7f314e8b5d7b7ebc9f458a07397bd2b0a48521
  p := 0xf3e2c7e01c8bc922d58b2e0f48cc2d2087773ee02c696f95c8ef34af99916fed
  q := 0xf0334f57120b25940743e0bcbe7e9dc0dc075a8703d36d72a8b58d6857971a99
  dp := 0xef30849d0d021f92f5625a1b0d6789feb43d444231ec7a4ea9d1c8974c02b285
  dq := 0x71ae4709956f931c6907d6105e33fca36f3f47b808b682e136399eb0586c1a59
  qInv := 0x90d2bdf662f0dd43275d4d87ecf662f08dd8fca454cc6ed3fb2d55c8ea4a6840

theorem canSign_short : short.CanSign := ⟨by decide +kernel, by decide +kernel⟩

end SignedAccess.PrivateKey
