import SignedAccess.Record.Field

/-!
# Tokens

Main definitions:

* `Token` — a credential that its bearer sends with a request;
* `TokenResponse` — what a token endpoint reports;
* `Token.read`, `TokenResponse.read` — either from a raw record.
-/

namespace SignedAccess

/-! ## Tokens -/

/-- A credential that its bearer sends with a request. -/
structure Token where
  accessToken : Text
  type : CodeText
  /-- When the token expires, if that is known. -/
  expiry : Option DateTime
  idToken : Option CodeText
  accessToken_ne : accessToken ≠ []
  deriving DecidableEq

namespace Token

/-- The usual type of a token. -/
def bearer : CodeText := .ofText "Bearer".toList

/-- The value of the header that carries a token. -/
def authorization (t : Token) : CodeText := t.type ++ .char ' ' :: CodeText.ofText t.accessToken

/-- The token of a text that is not empty. -/
def ofText (accessToken : { t : Text // t ≠ [] }) (type : CodeText) (expiry : Option DateTime)
    (idToken : Option CodeText) : Token :=
  ⟨accessToken.val, type, expiry, idToken, accessToken.property⟩

/-- A token of a raw record. -/
def read : Json → Except Rejection Token :=
  Field.record .token fun fields =>
    let start : Decoded _ := .ok ofText
    start
      |>.ap (Field.required fields "access_token" Field.nonempty)
      |>.ap (Field.withDefault fields "token_type" bearer Field.string)
      |>.ap (Field.withDefault fields "expiry" none (Field.optional Field.instant))
      |>.ap (Field.withDefault fields "id_token" none (Field.optional Field.string))

end Token

/-! ## Responses -/

/-- What a token endpoint reports. -/
structure TokenResponse where
  accessToken : Text
  type : CodeText
  idToken : Option CodeText
  /-- Seconds until the token expires. -/
  expiresIn : Option Int
  accessToken_ne : accessToken ≠ []
  deriving DecidableEq

namespace TokenResponse

/-- A response of a raw record. -/
def read : Json → Except Rejection TokenResponse :=
  Field.record .tokenResponse fun fields =>
    let start : Decoded _ := .ok fun (accessToken : { t : Text // t ≠ [] }) type idToken
        expiresIn =>
      (⟨accessToken.val, type, idToken, expiresIn, accessToken.property⟩ : TokenResponse)
    start
      |>.ap (Field.required fields "access_token" Field.nonempty)
      |>.ap (Field.required fields "token_type" Field.string)
      |>.ap (Field.withDefault fields "id_token" none (Field.optional Field.string))
      |>.ap (Field.withDefault fields "expires_in" none (Field.optional Field.int))

def token (r : TokenResponse) (expiry : Option DateTime) : Token :=
  ⟨r.accessToken, r.type, expiry, r.idToken, r.accessToken_ne⟩

end TokenResponse

end SignedAccess
