import SignedAccess.Bytes.Base64
import SignedAccess.Key.Curve.Table
import SignedAccess.Key.Der
import SignedAccess.Text.Blank

/-!
# Public keys

A public key stands in a PEM block, in its one shortest encoding.

Main definitions:

* `PublicKey.Block` — a block of a text, whose marks need not stand on lines of their own;
* `PublicKey.checkWrapped` — whether a wrapper that names the algorithm holds a key;
* `PublicKey.check` — whether a text holds a public key.
-/

namespace SignedAccess.PublicKey

open Der

/-- Why a text holds no public key. -/
inductive Fault where
  | unreadable
  /-- A key for agreeing on a secret has not as many octets as its curve asks for. -/
  | wrongSize
  deriving DecidableEq, Repr

/-! ## Algorithms -/

structure Algorithm where
  id : Bytes
  parameters : Option Element

def algorithm? (e : Element) : Option Algorithm := do
  match ← sequence? e with
  | [id] => some ⟨← objectId? id, none⟩
  | [id, parameters] => some ⟨← objectId? id, some parameters⟩
  | _ => none

/-- Whether an algorithm has no parameters, or NULL in their place. -/
def Algorithm.isBare (a : Algorithm) : Bool := a.parameters.all isNull

/-- Digests, whose algorithms have no parameters. -/
def digests : List (List Nat) :=
  [1, 3, 14, 3, 2, 26] :: (List.range 10).map fun n => [2, 16, 840, 1, 101, 3, 4, 2, n + 1]

/-- Whether the parameters of an algorithm suit it, if it is a digest. -/
def Algorithm.isSound (a : Algorithm) : Bool :=
  !(digests.any fun name => ObjectId.encode name = a.id) || a.isBare

/-- SHA-1, which is not named where a digest is expected. -/
def defaultDigest : Element :=
  sequence [⟨objectIdTag, ObjectId.encode [1, 3, 14, 3, 2, 26]⟩, ⟨nullTag, []⟩]

/-- The mask with it, which is not named either. -/
def defaultMask : Element :=
  sequence [⟨objectIdTag, ObjectId.encode [1, 2, 840, 113549, 1, 1, 8]⟩, defaultDigest]

/-- Whether an element is the parameter of a padding with a number, and another one than `unnamed`,
for which `suits` holds. -/
def isParameter (number : Nat) (unnamed : Element) (suits : Element → Bool) (e : Element) : Bool :=
  (contentOf? (contextTag number) e >>= element?).any fun inner => inner ≠ unnamed && suits inner

/-- Whether an element is a mask: a name and a digest. -/
def isMask (e : Element) : Bool :=
  match sequence? e with
  | some [id, digest] => (objectId? id).isSome && (algorithm? digest).any Algorithm.isSound
  | _ => false

def paddingParameters : List (Element → Bool) :=
  [isParameter 0 defaultDigest fun e => (algorithm? e).any Algorithm.isSound,
   isParameter 1 defaultMask isMask,
   isParameter 2 (natural 20) fun e => (natural? e).any (· < 0x10000),
   isParameter 3 (natural 1) fun e => (natural? e).any (· < 0x100)]

/-- Whether elements are some of those that `tests` expect, in order. -/
def areSome : (tests : List (Element → Bool)) → List Element → Bool
  | _, [] => true
  | [], _ :: _ => false
  | test :: tests, e :: rest => if test e then areSome tests rest else areSome tests (e :: rest)

def isPadding (e : Element) : Bool := (sequence? e).any (areSome paddingParameters)

/-! ## Keys -/

def require (holds : Bool) : Except Fault Unit := if holds then .ok () else .error .unreadable

/-- Whether bytes are an RSA key: a modulus and an exponent. -/
def isRsa (bytes : Bytes) : Bool :=
  match element? bytes >>= sequence? with
  | some [n, e] => (natural? n).isSome && (natural? e).isSome
  | _ => false

/-- Whether bytes are a finite point on the curve that parameters name. -/
def isEllipticPoint (parameters : Option Element) (bytes : Bytes) : Bool :=
  match parameters >>= objectId? >>= Curve.named? with
  | some c => c.isSupported && c.readPoint? bytes = some .finite
  | none => false

def isNumber (bytes : Bytes) : Bool := (element? bytes >>= natural?).isSome

/-- Whether an element is a sequence of elements that pass the tests in `required`, and of some that
pass tests in `further`, in order. -/
def isRecord (required further : List (Element → Bool)) (e : Element) : Bool :=
  match sequence? e with
  | some es =>
    let first := es.take required.length
    first.length = required.length && areSome required first
      && areSome further (es.drop required.length)
  | none => false

/-- Whether an element is a natural number. -/
def isInteger (e : Element) : Bool := (natural? e).isSome

/-- Whether an element gives the size of a number. -/
def isSize (e : Element) : Bool := (natural? e).any (· < 0x100000000)

/-- Whether an element is the parameters for signatures modulo a prime: three numbers. -/
def isDsaParameters : Element → Bool := isRecord [isInteger, isInteger, isInteger] []

/-- Whether an element is the parameters for agreeing on a secret: two numbers, and perhaps the size
of a third. -/
def isDhParameters : Element → Bool := isRecord [isInteger, isInteger] [isSize]

/-- Whether an element is such parameters in the other layout: three numbers, perhaps a fourth one,
and perhaps a sequence. -/
def isDhxParameters : Element → Bool :=
  isRecord [isInteger, isInteger, isInteger] [isInteger, fun e => e.tag = sequenceTag]

/-- The algorithms of public keys, and whether parameters and the bytes of a key suit them. -/
def algorithms : List (List Nat × (Algorithm → Bytes → Except Fault Unit)) :=
  [([1, 2, 840, 113549, 1, 1, 1], fun a key => require (a.isBare && isRsa key)),
   ([1, 2, 840, 113549, 1, 1, 10], fun a key => require (a.parameters.all isPadding && isRsa key)),
   ([1, 2, 840, 10045, 2, 1], fun a key => require (isEllipticPoint a.parameters key)),
   ([1, 2, 840, 10040, 4, 1], fun a key =>
     require (a.parameters.any isDsaParameters && isNumber key)),
   ([1, 2, 840, 113549, 1, 3, 1],
    fun a key => require (a.parameters.any isDhParameters && isNumber key)),
   ([1, 2, 840, 10046, 2, 1],
    fun a key => require (a.parameters.any isDhxParameters && isNumber key)),
   ([1, 3, 101, 110], agreement 32), ([1, 3, 101, 111], agreement 56),
   ([1, 3, 101, 112], signature 32), ([1, 3, 101, 113], signature 57)]
where
  /-- A key for signatures of so many octets. -/
  signature (size : Nat) (a : Algorithm) (key : Bytes) : Except Fault Unit :=
    require (a.parameters.isNone && key.length = size)
  /-- A key of so many octets for agreeing on a secret. -/
  agreement (size : Nat) (a : Algorithm) (key : Bytes) : Except Fault Unit := do
    require a.parameters.isNone
    if key.length = size then .ok () else .error .wrongSize

def wrapped? (bytes : Bytes) : Option (Algorithm × Bytes) := do
  match ← element? bytes >>= sequence? with
  | [algorithm, key] => some (← algorithm? algorithm, ← bits? key)
  | _ => none

/-- Whether bytes are a key in the wrapper that names its algorithm. -/
def checkWrapped (bytes : Bytes) : Except Fault Unit :=
  match wrapped? bytes with
  | none => .error .unreadable
  | some (a, key) =>
    match algorithms.find? fun p => ObjectId.encode p.1 = a.id with
    | some (_, suits) => suits a key
    | none => .error .unreadable

def checkWrappedRsa (bytes : Bytes) : Except Fault Unit := do
  checkWrapped bytes
  let rsaIds := [[1, 2, 840, 113549, 1, 1, 1], [1, 2, 840, 113549, 1, 1, 10]].map ObjectId.encode
  require ((wrapped? bytes).any fun p => rsaIds.contains p.1.id)

/-! ## Blocks -/

/-- A label and a content. -/
structure Block where
  label : Text
  content : Bytes

/-- What stands before and behind a mark.  The search for it starts anew at the character behind one
that does not continue the mark. -/
def untilFrom? (mark : Text) (before : Text) (left : Text) : Text → Option (Text × Text)
  | [] => none
  | c :: rest =>
    let before := c :: before
    let left := if left.head? = some c then left.drop 1 else mark
    if left = [] then some ((before.drop mark.length).reverse, rest)
    else untilFrom? mark before left rest

/-- What stands before and behind a mark. -/
def until? (mark text : Text) : Option (Text × Text) := untilFrom? mark [] mark text

/-- A blank between the mark and the content. -/
def isGap (c : Char) : Bool := c = ' ' || c = '\n' || c = '\r' || c = '\t'

def linesOf (text : Text) : List Text :=
  let lines := text.splitOn '\n'
  let lines := if lines.getLast? = some [] then lines.dropLast else lines
  lines.map fun line => if line.getLast? = some '\r' then line.dropLast else line

/-- The header and the content of a body, which a blank line separates. -/
def sections (body : Text) : Text × Text :=
  ((until? "\n\n".toList body).or (until? "\r\n\r\n".toList body)).getD ([], body)

/-- The bytes of padded digits in which nothing is superfluous. -/
def decodeStrictly? (digits : Text) : Option Bytes := do
  let bytes ← Base64.decodePadded? digits
  if Base64.encodePadded bytes = digits then some bytes else none

def block? (text : Text) : Option Block := do
  let (_, text) ← until? "-----BEGIN ".toList text
  let (label, text) ← until? "-----".toList text
  let (body, text) ← until? "-----END ".toList (text.dropWhile isGap)
  let (close, _) ← until? "-----".toList text
  let (header, body) := sections body
  let content ← decodeStrictly? ((linesOf body).flatMap (Text.trimEnd Text.isSpace))
  if label ≠ [] ∧ label = close ∧ (linesOf header).all fun line => line.contains ':' then
    some ⟨label, content⟩
  else none

def check (text : Text) : Except Fault Unit :=
  match block? text with
  | none => .error .unreadable
  | some block =>
    if block.label = "PUBLIC KEY".toList then checkWrapped block.content
    else if block.label = "RSA PUBLIC KEY".toList then
      if isRsa block.content then .ok () else checkWrappedRsa block.content
    else .error .unreadable

end SignedAccess.PublicKey
