import SignedAccess.Bytes.Base64
import SignedAccess.Bytes.BigEndian

/-!
# Public keys on a line

A line holds the type of a key and, in base64, the fields of the key or of a certificate for it.

Main definitions:

* `KeyLine.rsaKey`, `KeyLine.certificate` — the fields of a key and of a certificate;
* `KeyLine.check` — whether a text begins with a line that holds an RSA key.
-/

namespace SignedAccess.KeyLine

/-- Why a line holds no RSA key. -/
inductive Fault where
  | malformed
  /-- It is said to hold a key of another type. -/
  | unsupported
  deriving DecidableEq, Repr

/-! ## Fields -/

/-- A reader takes what it reads off the front of the bytes. -/
abbrev Reader := StateT Bytes Option

def take (n : Nat) : Reader Bytes := fun bytes =>
  let taken := bytes.take n
  if taken.length = n then some (taken, bytes.drop n) else none

/-- A number in so many bytes. -/
def number (width : Nat) : Reader Nat := do return BigEndian.value (← take width)

/-- Bytes behind their count. -/
def field : Reader Bytes := do take (← number 4)

/-- A natural number in a field. -/
def natural : Reader Nat := do
  let bytes ← field
  guard (bytes.head?.all fun b => b.toNat < 0x80)
  return BigEndian.value bytes

/-- What a reader reads from bytes, all of which it takes. -/
def whole? {α : Type} (read : Reader α) (bytes : Bytes) : Option α :=
  match read bytes with
  | some (a, []) => some a
  | _ => none

/-- At most `fuel` fields that make up the bytes, behind those in `done`. -/
def fieldsFrom? : (fuel : Nat) → (done : List Bytes) → Bytes → Option (List Bytes)
  | _, done, [] => some done.reverse
  | 0, _, _ :: _ => none
  | fuel + 1, done, b :: rest =>
    match field (b :: rest) with
    | some (f, rest) => fieldsFrom? fuel (f :: done) rest
    | none => none

/-- The fields that make up bytes. -/
def fields? (bytes : Bytes) : Option (List Bytes) := fieldsFrom? bytes.length [] bytes

/-- The fields that make up a field. -/
def fields : Reader (List Bytes) := do
  match fields? (← field) with
  | some fs => return fs
  | none => failure

/-! ## Keys and certificates -/

/-- An RSA key: an odd exponent of at least three and a greater modulus. -/
def rsaKey : Reader Unit := do
  let e ← natural
  let n ← natural
  guard (3 ≤ e && e < n && e % 2 = 1)

/-- Whether a string of bytes stands before another one. -/
def precedes : (a b : Bytes) → Bool
  | _, [] => false
  | [], _ :: _ => true
  | x :: a, y :: b => x.toNat < y.toNat || (x == y && precedes a b)

/-- Whether fields are names in order, each with a value behind it, which is empty or consists of
one field. -/
def areOptions (last : Option Bytes) : List Bytes → Bool
  | [] => true
  | [_] => false
  | name :: value :: rest =>
    last.all (fun l => precedes l name) && (value = [] || (whole? field value).isSome)
      && areOptions (some name) rest

def ascii (s : String) : Bytes := s.toList.map fun c => UInt8.ofNat c.toNat

def rsaType : Bytes := ascii "ssh-rsa"

def rsaSignatureTypes : List Bytes :=
  [rsaType, ascii "rsa-sha2-256", ascii "rsa-sha2-512"]

/-- Whether a key of a type makes signatures of a type. -/
def makes (key signature : Bytes) : Bool :=
  if key = rsaType then rsaSignatureTypes.contains signature else signature = key

/-- A certificate behind its type. -/
def certificate : Reader Unit := do
  let _nonce ← field
  rsaKey
  let _serial ← number 8
  let role ← number 4
  let _name ← field
  let _principals ← fields
  let _start ← number 8
  let _finish ← number 8
  let restrictions ← fields
  let extensions ← fields
  let _reserved ← field
  let issuer ← field
  let signature ← field
  let signature := whole? (do
    let type ← field
    let _ ← field
    return type) signature
  let issuerType := (field issuer).map Prod.fst
  guard ((role = 1 || role = 2) && areOptions none restrictions && areOptions none extensions)
  match issuerType, signature with
  | some key, some signature => guard (makes key signature)
  | _, _ => failure

/-! ## Lines -/

/-- A blank that separates the parts of a line. -/
def isSpace (c : Char) : Bool := c = ' ' || c = '\t'

/-- A character that ends a part. -/
def isEnd (c : Char) : Bool := isSpace c || (0x0A ≤ c.toNat && c.toNat ≤ 0x0D)

/-- The type and the digits of a line. -/
def parts? (text : Text) : Option (Text × Text) :=
  let type := text.takeWhile fun c => !isEnd c
  let rest := text.dropWhile fun c => !isEnd c
  let digits := (rest.dropWhile isSpace).takeWhile fun c => !isEnd c
  if type = [] ∨ !rest.head?.any isSpace ∨ digits = [] then none else some (type, digits)

/-- The types of lines that hold an RSA key, and what they consist of behind the type. -/
def layouts : List (String × Reader Unit) :=
  [("ssh-rsa", rsaKey), ("ssh-rsa-cert-v01@openssh.com", certificate)]

/-- Whether a text begins with a line that holds an RSA key. -/
def check (text : Text) : Except Fault Unit :=
  match parts? text with
  | none => .error .malformed
  | some (type, digits) =>
    match layouts.find? fun p => p.1.toList = type with
    | none => .error .unsupported
    | some (type, read) =>
      let line : Reader Unit := do
        let inner ← field
        guard (inner = ascii type)
        read
      match Base64.decodeLoosely? digits >>= whole? line with
      | some () => .ok ()
      | none => .error .malformed

end SignedAccess.KeyLine
