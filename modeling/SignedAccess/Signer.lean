import SignedAccess.Error
import SignedAccess.Key.KeyFile

/-!
# Signers

A signature comes from a private key or from a function of the caller, behind which a remote
service may stand.

Main definitions:

* `SignReply` — what the caller's function may answer;
* `Signer` — a key or a function;
* `Signer.sign` — the signature of a message;
* `Signer.asked` — the messages that the caller's function is given meanwhile.
-/

namespace SignedAccess

/-- What the caller's function answers. -/
inductive SignReply where
  /-- Bytes. -/
  | signature (bytes : Bytes)
  /-- A value that is not a string of bytes. -/
  | otherValue
  /-- A signing error of its own. -/
  | signingError (message : Text)
  /-- Any other error. -/
  | failure
  /-- No error but an interruption of the program, such as one from the keyboard. -/
  | interruption
  deriving DecidableEq, Repr

abbrev SignFunction := Bytes → SignReply

inductive Signer where
  | caller (sign : SignFunction)
  | key (key : PrivateKey)

/-- The RSA key among the keys that a file may hold. -/
def PrivateKey.ofOutcome : LoadOutcome → Except SigningFault PrivateKey
  | .ok (.rsa key) => .ok key
  | .ok _ => .error .notRsa
  | .error _ => .error .unreadableKey

def PrivateKey.load (file : Bytes) : Except Error PrivateKey :=
  (PrivateKey.ofOutcome (KeyFile.load file)).mapError .signing

def PrivateKey.loadText (pem : Text) : Except Error PrivateKey := PrivateKey.load (Utf8.encode pem)

/-- The signature in an answer.  An interruption passes through. -/
def SignReply.result : SignReply → Except Error Bytes
  | .signature [] => .error (.signing .noSignature)
  | .signature bytes => .ok bytes
  | .otherValue => .error (.signing .noSignature)
  | .signingError message => .error (.signing (.reported message))
  | .failure => .error (.signing .functionFailed)
  | .interruption => .error .interrupted

namespace Signer

def sign : Signer → Bytes → Except Error Bytes
  | .caller f, message => (f message).result
  | .key k, message =>
    match k.sign? message with
    | some signature => .ok signature
    | none => .error (.signing .keyTooShort)

/-- The messages that the caller's function is given while a message is signed. -/
def asked : Signer → Bytes → List Bytes
  | .caller _, message => [message]
  | .key _, _ => []

end Signer

end SignedAccess
