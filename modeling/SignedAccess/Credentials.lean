import SignedAccess.Error
import SignedAccess.Json.Reader
import SignedAccess.Json.Repeats
import SignedAccess.Record.Field

/-!
# Credentials

The contents of a credentials file.

Main definitions:

* `Credentials` — the record;
* `Credentials.read`, `Credentials.readText` — the record of a raw value or of a JSON text;
* `Credentials.requirePrivateKey` — its private key, or the error that there is none.
-/

namespace SignedAccess

/-- The contents of a credentials file. -/
structure Credentials where
  type : Text
  clientEmail : Text
  privateKeyId : Text
  /-- A private key in PEM, empty for none. -/
  privateKey : Text
  authUri : Option Text
  tokenUri : Option Text
  projectId : Option Text
  clientId : Option Text
  clientSecret : Option Text
  refreshToken : Option Text
  audience : Option Text
  subjectTokenType : Option Text
  tokenUrlExternal : Option Text
  tokenInfoUrl : Option Text
  serviceAccountImpersonationUrl : Option Text
  credentialSource : Option (List (Text × Json))
  quotaProjectId : Option Text

namespace Credentials

/-! ## Types -/

def serviceAccount : Text := "service_account".toList
def externalAccount : Text := "external_account".toList
def authorizedUser : Text := "authorized_user".toList

/-! ## Raw records -/

def anyValue (j : Json) : Decoded Json := .ok j

/-- Credentials of a raw record. -/
def read : Json → Except Rejection Credentials :=
  Field.record .credentials fun fields =>
    let text (key : String) : Decoded Text := Field.withDefault fields key [] Field.text
    let text? (key : String) : Decoded (Option Text) :=
      Field.withDefault fields key none (Field.optional Field.text)
    let start : Decoded _ := .ok Credentials.mk
    start
      |>.ap (Field.withDefault fields "type" serviceAccount Field.text)
      |>.ap (text "client_email")
      |>.ap (text "private_key_id")
      |>.ap (text "private_key")
      |>.ap (text? "auth_uri")
      |>.ap (text? "token_uri")
      |>.ap (text? "project_id")
      |>.ap (text? "client_id")
      |>.ap (text? "client_secret")
      |>.ap (text? "refresh_token")
      |>.ap (text? "audience")
      |>.ap (text? "subject_token_type")
      |>.ap (text? "token_url_external")
      |>.ap (text? "token_info_url")
      |>.ap (text? "service_account_impersonation_url")
      |>.ap (Field.withDefault fields "credential_source" none
        (Field.optional (Field.mapping anyValue)))
      |>.ap (text? "quota_project_id")

/-- The keys of a record, in order. -/
def keys : List Text :=
  ["type", "client_email", "private_key_id", "private_key", "auth_uri", "token_uri", "project_id",
    "client_id", "client_secret", "refresh_token", "audience", "subject_token_type",
    "token_url_external", "token_info_url", "service_account_impersonation_url",
    "credential_source", "quota_project_id"].map String.toList

/-- How a credentials file is read: strictly, and to a moderate depth. -/
def strictness : Json.Strictness := ⟨200, true⟩

def readText (t : Text) : Except Rejection Credentials :=
  match Json.read strictness t with
  | .ok (.object fields) => read (Json.object (Json.sought fields keys)).merged
  | .ok j => read j
  | .error _ => Decoded.orReject .credentials (Decoded.fault .jsonInvalid)

/-! ## Private key -/

/-- The private key, or the error that there is none. -/
def requirePrivateKey (c : Credentials) : Except Error Text :=
  if c.privateKey = [] then .error (.missingPrivateKey c.clientEmail) else .ok c.privateKey

end Credentials

end SignedAccess
