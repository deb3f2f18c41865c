import SignedAccess.Digest.Sha256
import SignedAccess.Key.Prime

/-!
# RSA keys and signatures

Main definitions:

* `PrivateKey` — an RSA private key with its primes;
* `PrivateKey.isConsistent` — whether its numbers belong together;
* `PrivateKey.encodeDigest` — the padded block that is signed, for a modulus of a given length;
* `PrivateKey.sign?` — the PKCS #1 version 1.5 signature over SHA-256.
-/

namespace SignedAccess

/-- A prime of a modulus beyond the first two. -/
structure FurtherPrime where
  prime : Nat
  /-- The private exponent modulo `prime - 1`. -/
  exponent : Nat
  /-- The inverse, modulo `prime`, of the product of all primes before it. -/
  coefficient : Nat
  deriving DecidableEq, Repr

structure PrivateKey where
  /-- The modulus. -/
  n : Nat
  /-- The public exponent. -/
  e : Nat
  /-- The private exponent. -/
  d : Nat
  p : Nat
  q : Nat
  /-- `d` modulo `p - 1`. -/
  dp : Nat
  /-- `d` modulo `q - 1`. -/
  dq : Nat
  /-- The inverse of `q` modulo `p`. -/
  qInv : Nat
  /-- The primes beyond `p` and `q`. -/
  further : List FurtherPrime := []
  deriving DecidableEq, Repr

namespace PrivateKey

/-- The bits of the modulus. -/
def bits (k : PrivateKey) : Nat := if k.n = 0 then 0 else k.n.log2 + 1

/-- Whether further primes fit to the private exponent `d` and to the product of the primes before
them. -/
def areConsistent (d product : Nat) : List FurtherPrime → Bool
  | [] => true
  | f :: rest =>
    isProbablePrime f.prime && f.exponent = d % (f.prime - 1)
      && f.coefficient < f.prime && f.coefficient * product % f.prime = 1
      && areConsistent d (product * f.prime) rest

/-- How many further primes a modulus may have. -/
def mostFurther (bits : Nat) : Nat :=
  if bits < 1024 then 0 else if bits < 4096 then 1 else if bits < 8192 then 2 else 3

/-- All primes of the modulus. -/
def primes (k : PrivateKey) : List Nat := k.p :: k.q :: k.further.map FurtherPrime.prime

/-- What the product of the exponents leaves the remainder one to: the least common multiple of all
`prime - 1`. -/
def period (k : PrivateKey) : Nat := (k.primes.map (· - 1)).foldl Nat.lcm 1

/-- Whether the numbers of a key belong together: `e` is odd and not one, `p` and `q` are odd, all
primes are prime and have the product `n`, the exponents are inverse to each other, and the rest is
what `d` and the primes determine. -/
def isConsistent (k : PrivateKey) : Bool :=
  k.e ≠ 1 && k.e % 2 = 1 && k.p % 2 = 1 && k.q % 2 = 1 && k.n = k.primes.foldl (· * ·) 1
    && isProbablePrime k.p && isProbablePrime k.q
    && k.d * k.e % k.period = 1 % k.period
    && k.dp = k.d % (k.p - 1) && k.dq = k.d % (k.q - 1)
    && k.qInv < k.p && k.qInv * k.q % k.p = 1
    && k.further.length ≤ mostFurther k.bits && areConsistent k.d (k.p * k.q) k.further

/-- The bytes of the modulus. -/
def size (k : PrivateKey) : Nat := BigEndian.width k.n

/-- The DER frame that names SHA-256 in front of a digest. -/
def digestFrame : Bytes :=
  [0x30, 0x31, 0x30, 0x0d, 0x06, 0x09, 0x60, 0x86, 0x48, 0x01, 0x65, 0x03, 0x04, 0x02, 0x01, 0x05,
   0x00, 0x04, 0x20]

/-- The block of `size` bytes that carries the digest of a message, if it fits: at least eight
bytes of filling stand before the framed digest. -/
def encodeDigest (size : Nat) (message : Bytes) : Option Bytes :=
  let framed := digestFrame ++ Sha256.digest message
  if framed.length + 11 ≤ size then
    some (0x00 :: 0x01 :: List.replicate (size - framed.length - 3) 0xFF ++ 0x00 :: framed)
  else none

/-- Whether the private exponent has no more bits than the modulus. -/
def hasUsableExponent (k : PrivateKey) : Bool := k.d = 0 || k.d.log2 < k.bits

/-- The signature of a message, as long as the modulus; none if the modulus is too short or the
private exponent too long. -/
def sign? (k : PrivateKey) (message : Bytes) : Option Bytes :=
  if k.hasUsableExponent then
    (encodeDigest k.size message).map fun block =>
      BigEndian.encode k.size (powMod k.n (BigEndian.value block) k.d)
  else none

/-! ## Lemmas -/

/-- The block is as long as the modulus. -/
theorem encodeDigest_length {size : Nat} {message block : Bytes}
    (h : encodeDigest size message = some block) : block.length = size := by
  simp only [encodeDigest, List.length_append, Sha256.digest_length] at h
  split at h
  · rename_i hs
    simp only [Option.some.injEq] at h
    subst h
    simp [Sha256.digest_length, digestFrame] at hs ⊢
    omega
  · simp at h

/-- A message can be signed as soon as the modulus has sixty-two bytes. -/
theorem isSome_encodeDigest_iff (size : Nat) (message : Bytes) :
    (encodeDigest size message).isSome ↔ 62 ≤ size := by
  have hf : (digestFrame ++ Sha256.digest message).length + 11 = 62 := by
    simp [Sha256.digest_length, digestFrame]
  simp only [encodeDigest, hf]
  split <;> simp_all

end PrivateKey

end SignedAccess
