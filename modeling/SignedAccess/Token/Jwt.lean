import SignedAccess.Bytes.Base64
import SignedAccess.Json.Writer
import SignedAccess.Key.KeyLine
import SignedAccess.Key.PublicKey
import SignedAccess.Signer
import SignedAccess.Token.Claims

/-!
# Signed tokens

A token of three segments: a header, the claims and a signature over both, each in base64 for
URLs.

Main definitions:

* `Jwt.header` — the header, which names the algorithm and perhaps the key;
* `Jwt.signingInput` — the first two segments, over which the signature is made;
* `Jwt.sign`, `Jwt.signWithText` — the token, under a key or the text of one.
-/

namespace SignedAccess.Jwt

/-- The algorithm: an RSA signature over SHA-256. -/
def algorithm : Text := "RS256".toList

/-- The header.  The key is named unless its name is empty. -/
def header (keyId : Text) : Json :=
  .object (("alg".toList, .text algorithm)
    :: (if keyId = [] then [] else [("kid".toList, .text keyId)])
    ++ [("typ".toList, .text "JWT".toList)])

def segment (bytes : Bytes) : Text := Base64.encodeUnpadded .urlSafe bytes

def jsonSegment (j : Json) : Text := segment (Utf8.encode (Json.write .compact j))

/-- The first two segments. -/
def signingInput (claims : Claims) (keyId : Text) : Text :=
  jsonSegment (header keyId) ++ '.' :: jsonSegment claims.payload

def withSignature (input : Text) (signature : Bytes) : Text := input ++ '.' :: segment signature

/-- Claims as a token that is signed with a key.  Claims with a time that is too long to be written
are not signed. -/
def sign (claims : Claims) (key : PrivateKey) (keyId : Text) : Except Error Text :=
  if claims.payload.isWritable then
    let input := signingInput claims keyId
    match key.sign? (Utf8.encode input) with
    | some signature => .ok (withSignature input signature)
    | none => .error (.signing .claims)
  else .error (.signing .claims)

/-- Why a text that holds no private key signs nothing.  A public key is told apart from a text that
holds none. -/
def publicError (text : Text) : Error :=
  match PublicKey.check text with
  | .ok () => .cannotSign
  | .error .unreadable => .signing .claims
  | .error .wrongSize => .wrongKeySize

/-- How a text that holds a public key on a line begins. -/
def lineStart : Text := "ssh-rsa".toList

/-- Claims as a token that is signed with the key of a text.  The claims are written before the text
is looked at. -/
def signWithText (claims : Claims) (text keyId : Text) : Except Error Text :=
  if !claims.payload.isWritable then .error (.signing .claims)
  else if lineStart.isPrefixOf text then
    match KeyLine.check text with
    | .ok () => .error .cannotSign
    | .error .unsupported => .error .unsupportedKey
    | .error .malformed => .error (publicError text)
  else match KeyFile.loadText text with
    | .ok (.rsa key) => sign claims key keyId
    | .ok .signing => .error (.signing .claims)
    | .ok .agreement => .error .cannotSign
    | .error .encrypted => .error (.signing .claims)
    | .error .unsupported => .error .unsupportedKey
    | .error .unreadable => .error (publicError text)

/-! ## Lemmas -/

theorem withSignature_ne_nil (input : Text) (signature : Bytes) :
    withSignature input signature ≠ [] := by
  simp [withSignature]

theorem ne_nil_of_sign {claims : Claims} {key : PrivateKey} {keyId token : Text}
    (h : sign claims key keyId = .ok token) : token ≠ [] := by
  simp only [sign] at h
  split at h
  · split at h
    · cases h
      exact withSignature_ne_nil _ _
    · cases h
  · cases h

end SignedAccess.Jwt
