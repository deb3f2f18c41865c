import SignedAccess.Key.Ber
import SignedAccess.Key.Curve.Table
import SignedAccess.Key.Rsa

/-!
# Layouts of private keys

A private key stands in a layout of its algorithm, or in a wrapper that names the algorithm.

Main definitions:

* `AnyKey`, `LoadFault` — a private key of any algorithm, or why there is none;
* `Layout.rsaKey`, `Layout.ellipticKey`, `Layout.dsaKey` — the layouts of algorithms;
* `Layout.wrappedKey` — the wrapper;
* `Layout.Wrapped.outcome?` — the key in a wrapper.
-/

namespace SignedAccess

/-- A private key, as far as keys are told apart. -/
inductive AnyKey where
  | rsa (key : PrivateKey)
  /-- A key of another algorithm that signs. -/
  | signing
  /-- A key for agreeing on a secret. -/
  | agreement
  deriving Repr

/-- Why a file yields no private key. -/
inductive LoadFault where
  /-- There is none, or its numbers do not belong together. -/
  | unreadable
  /-- It is encrypted. -/
  | encrypted
  /-- Its curve or its algorithm is not supported. -/
  | unsupported
  deriving DecidableEq, Repr

/-- A private key, or why there is none. -/
abbrev LoadOutcome := Except LoadFault AnyKey

namespace Layout

open Ber

/-! ## Algorithms -/

/-- The algorithm of a key and its parameters, as they are encoded. -/
structure Algorithm where
  id : Bytes
  parameters : Option Bytes

def algorithm : Reader Algorithm := inSequence do
  let id ← objectId
  let parameters ← if ← atEnd then pure none else some <$> passed any
  return ⟨id, parameters⟩

/-- The algorithms of private keys. -/
inductive Family where
  | rsa
  /-- An RSA key for signatures with a given padding. -/
  | rsaPss
  | elliptic
  | dsa
  | dh
  /-- A key of the other layout for agreeing on a secret modulo a prime. -/
  | dhx
  /-- A key of so many octets. -/
  | octets (size : Nat) (signs : Bool)
  deriving DecidableEq, Repr

/-- The names of the algorithms. -/
def families : List (List Nat × Family) :=
  [([1, 2, 840, 113549, 1, 1, 1], .rsa), ([1, 2, 840, 113549, 1, 1, 10], .rsaPss),
   ([1, 2, 840, 10045, 2, 1], .elliptic), ([1, 2, 840, 10040, 4, 1], .dsa),
   ([1, 2, 840, 113549, 1, 3, 1], .dh), ([1, 2, 840, 10046, 2, 1], .dhx),
   ([1, 3, 101, 110], .octets 32 false), ([1, 3, 101, 111], .octets 56 false),
   ([1, 3, 101, 112], .octets 32 true), ([1, 3, 101, 113], .octets 57 true)]

/-- Further names, which only a second reading knows. -/
def furtherFamilies : List (List Nat × Family) :=
  [([2, 5, 8, 1, 1], .rsa), ([1, 3, 14, 3, 2, 12], .dsa), ([1, 3, 14, 3, 2, 13], .dsa),
   ([1, 3, 14, 3, 2, 27], .dsa), ([1, 2, 840, 10040, 4, 3], .dsa)]

/-- The algorithm of an object identifier. -/
def familyOf? (names : List (List Nat × Family)) (id : Bytes) : Option Family :=
  (names.find? fun p => ObjectId.encode p.1 = id).map Prod.snd

/-- The digests that paddings are made with; a name of a signature stands for its digest. -/
def digests : List (List Nat) :=
  [[1, 2, 840, 113549, 2, 4], [1, 2, 840, 113549, 2, 5], [1, 2, 840, 113549, 1, 1, 3],
   [1, 2, 840, 113549, 1, 1, 4], [1, 2, 840, 113549, 1, 1, 5], [1, 2, 840, 113549, 1, 1, 11],
   [1, 2, 840, 113549, 1, 1, 12], [1, 2, 840, 113549, 1, 1, 13], [1, 2, 840, 113549, 1, 1, 14],
   [1, 2, 840, 113549, 1, 1, 15], [1, 2, 840, 113549, 1, 1, 16], [1, 3, 14, 3, 2, 26],
   [1, 3, 14, 3, 2, 29], [1, 3, 36, 3, 2, 1], [1, 3, 36, 3, 3, 1, 2], [2, 5, 8, 3, 100],
   [2, 5, 8, 3, 101], [1, 0, 10118, 3, 0, 55], [1, 3, 6, 1, 4, 1, 1722, 12, 2, 1, 16],
   [1, 3, 6, 1, 4, 1, 1722, 12, 2, 2, 8], [1, 2, 156, 10197, 1, 401], [1, 2, 156, 10197, 1, 504]]
  ++ (List.range 12).map (fun n => [2, 16, 840, 1, 101, 3, 4, 2, n + 1])
  ++ (List.range 4).map (fun n => [2, 16, 840, 1, 101, 3, 4, 3, n + 13])

def Algorithm.isDigest (a : Algorithm) : Bool := digests.any fun name => ObjectId.encode name = a.id

/-- Whether an algorithm makes a mask from a digest. -/
def Algorithm.isMask (a : Algorithm) : Bool :=
  a.id = ObjectId.encode [1, 2, 840, 113549, 1, 1, 8] &&
    (a.parameters >>= first? algorithm).any Algorithm.isDigest

/-- Parameters of a padding: a digest, a mask, the size of the salt and a trailer.  The answer says
whether the digest and the mask are known. -/
def paddingParameters : Reader Bool := inSequence do
  let digest ← optionally (context 0) (group (context 0) algorithm)
  let mask ← optionally (context 1) (group (context 1) algorithm)
  let _ ← optionally (context 2) (group (context 2) integer)
  let _ ← optionally (context 3) (group (context 3) integer)
  return digest.all Algorithm.isDigest && mask.all Algorithm.isMask

/-! ## RSA -/

/-- A prime beyond the first two. -/
def furtherPrime : Reader FurtherPrime := inSequence do
  return ⟨← natural, ← natural, ← natural⟩

/-- An RSA key: a version, eight numbers and perhaps further primes, which version one requires. -/
def rsaKey : Reader PrivateKey := inSequence do
  let version ← shortInteger
  let n ← natural
  let e ← natural
  let d ← natural
  let p ← natural
  let q ← natural
  let dp ← natural
  let dq ← natural
  let qInv ← natural
  let further ← optionally (universal 16) (listOf (universal 16) furtherPrime)
  let further := further.getD []
  guard (version ≠ [1] || !further.isEmpty)
  return ⟨n, e, d, p, q, dp, dq, qInv, further⟩

/-- A key whose numbers belong together. -/
def rsaOutcome (key : PrivateKey) : LoadOutcome :=
  if key.isConsistent then .ok (.rsa key) else .error .unreadable

/-! ## Elliptic curves -/

/-- How a key tells its curve. -/
inductive CurveChoice where
  | named (curve : Curve)
  /-- By the numbers of its equation. -/
  | explicit

/-- The numbers of an equation: the field, the coefficients, the base point, its order and perhaps a
cofactor. -/
def explicitCurve : Reader Unit := inSequence do
  let _ ← shortInteger
  inSequence do
    let _ ← objectId
    any
  inSequence do
    let _ ← string 4
    let _ ← string 4
    let _ ← optionally (universal 3) bitString
  let _ ← string 4
  let _ ← integer
  let _ ← optionally (universal 2) integer

def curveOf? (parameters : Bytes) : Option CurveChoice :=
  match first? objectId parameters with
  | some id => (Curve.named? id).map .named
  | none => (first? explicitCurve parameters).map fun _ => .explicit

structure EllipticKey where
  scalar : Nat
  parameters : Option Bytes
  /-- The bytes of the public point. -/
  point : Option Bytes

/-- A version, a number, and perhaps the curve and the public point. -/
def ellipticKey : Reader EllipticKey := inSequence do
  let _ ← shortInteger
  let scalar ← string 4
  let parameters ← optionally (context 0) (group (context 0) (passed any))
  let point ← optionally (context 1) (group (context 1) bitString)
  return ⟨BigEndian.value scalar, parameters, point⟩

/-- The public point of a key: the one that stands there, or the multiple of the base point. -/
def EllipticKey.point? (k : EllipticKey) (c : Curve) : Option Point :=
  match k.point with
  | some bytes => c.readPoint? bytes
  | none => some (if k.scalar % c.order = 0 then .infinity else .finite)

/-- The key on a curve that `accepts` holds of.  The curve of the key comes before an outer one. -/
def EllipticKey.outcome? (k : EllipticKey) (accepts : Curve → Bool) (outer : Option CurveChoice) :
    Option LoadOutcome := do
  let choice ← match k.parameters with
    | some parameters => curveOf? parameters
    | none => outer
  match choice with
  | .explicit => some (.error .unreadable)
  | .named c =>
    let point ← k.point? c
    if !accepts c then none
    else if !c.isSupported then some (.error .unsupported)
    else if point = .infinity then some (.error .unreadable)
    else some (.ok .signing)

/-! ## Keys modulo a prime -/

/-- A key for signatures modulo a prime: a version and five numbers. -/
def dsaKey : Reader Unit := inSequence do
  let _ ← shortInteger
  let _ ← natural
  let _ ← natural
  let _ ← natural
  let _ ← natural
  let _ ← natural

/-- Parameters for signatures modulo a prime, of which the answer is the prime. -/
def dsaParameters : Reader Nat := inSequence do
  let p ← natural
  let _ ← natural
  let _ ← natural
  return p

/-- Parameters for agreeing on a secret modulo a prime, of which the answer is the prime. -/
def dhParameters : Reader Nat := inSequence do
  let p ← natural
  let _ ← natural
  let _ ← optionally (universal 2) shortInteger
  return p

/-- Parameters in the other layout, of which the answer is the prime. -/
def dhxParameters : Reader Nat := inSequence do
  let p ← natural
  let _ ← natural
  let _ ← natural
  let _ ← optionally (universal 2) natural
  let _ ← optionally (universal 16) (inSequence do
    let _ ← bitString
    natural)
  return p

/-- Whether a number may be the prime of keys for agreeing on a secret. -/
def isDhModulus (p : Nat) : Bool := p % 2 = 1 && 511 ≤ p.log2 && p.log2 < 10000

/-! ## The wrapper -/

/-- A key in a wrapper. -/
structure Wrapped where
  algorithm : Algorithm
  key : Bytes

/-- A property of a key: a name and values. -/
def property : Reader Unit := inSequence do
  let _ ← objectId
  let _ ← listOf (universal 17) any

/-- A version, the algorithm, the key in a string, and perhaps properties. -/
def wrappedKey : Reader Wrapped := inSequence do
  let _ ← integer
  let algorithm ← algorithm
  let key ← string 4
  let _ ← optionally (context 0) (listOf (context 0) property)
  return ⟨algorithm, key⟩

/-- An encrypted key: the algorithm and a string. -/
def encryptedKey : Reader Unit := inSequence do
  let _ ← algorithm
  let _ ← string 4

/-- Whether the parameters of an algorithm suit an RSA key for a given padding. -/
def Algorithm.hasPadding (a : Algorithm) : Bool :=
  a.parameters.all fun parameters => first? paddingParameters parameters = some true

def Wrapped.outcome? (w : Wrapped) (accepts : Curve → Bool) : Family → Option LoadOutcome
  | .rsa => (first? rsaKey w.key).map rsaOutcome
  | .rsaPss => if w.algorithm.hasPadding then (first? rsaKey w.key).map rsaOutcome else none
  | .elliptic => do
    let parameters ← w.algorithm.parameters
    let outer ← curveOf? parameters
    (← first? ellipticKey w.key).outcome? accepts (some outer)
  | .dsa => do
    let p ← w.algorithm.parameters >>= first? dsaParameters
    let number ← first? integer w.key
    if p % 2 = 1 ∧ number.head?.all (fun b => b.toNat < 0x80) then some (.ok .signing) else none
  | .dh => agreement dhParameters
  | .dhx => agreement dhxParameters
  | .octets size signs => do
    let octets ← first? (string 4) w.key
    if w.algorithm.parameters.isNone ∧ octets.length = size then
      some (.ok (if signs then .signing else .agreement))
    else none
where
  /-- A key for agreeing on a secret modulo a prime. -/
  agreement (parameters : Reader Nat) : Option LoadOutcome := do
    let p ← w.algorithm.parameters >>= first? parameters
    let _ ← first? integer w.key
    if isDhModulus p then some (.ok .agreement) else none

end Layout

end SignedAccess
