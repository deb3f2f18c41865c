import SignedAccess.Signer
import SignedAccess.SignedUrl.Style

/-!
# Options of a signed URL

Main definitions:

* `SignedUrlOptions` — what a signed URL allows, and who signs it;
* `SignedUrlOptions.read` — the options of a raw record.
-/

namespace SignedAccess

structure SignedUrlOptions where
  /-- The account in whose name the URL is signed. -/
  accessId : Text
  /-- The private key of the account, empty for none. -/
  privateKey : Text
  /-- A function that signs instead of a private key. -/
  signBytes : Option SignFunction
  method : Text
  expires : Option DateTime
  /-- The content type that the client sends, empty for none. -/
  contentType : Text
  /-- Further headers `name:value` that the client sends. -/
  headers : List Text
  /-- Further query parameters with their values. -/
  queryParameters : List (Text × List Text)
  /-- The MD5 digest of the body in base64, empty for none. -/
  md5 : Text
  style : UrlStyle
  /-- Whether the URL is one without transport security. -/
  insecure : Bool

namespace SignedUrlOptions

/-- A function cannot stand in a raw record. -/
def noFunction : Json → Decoded (Option SignFunction)
  | .null => .ok none
  | _ => Decoded.fault .callableType

def scheme : Json → Decoded Unit
  | .text t => if t = "V4".toList then .ok () else Decoded.fault .enumValue
  | _ => Decoded.fault .enumValue

/-- The options of a raw record.  A signing function and a style that are given stand in place of
those of the record. -/
def read (signBytes : Option SignFunction) (style : Option UrlStyle) :
    Json → Except Rejection SignedUrlOptions :=
  Field.record .options fun fields =>
    let text (key : String) : Decoded Text := Field.withDefault fields key [] Field.text
    let function : Decoded (Option SignFunction) := match signBytes with
      | some f => .ok (some f)
      | none => Field.withDefault fields "sign_bytes" none noFunction
    let place : Decoded UrlStyle := match style with
      | some style => .ok style
      | none => Field.withDefault fields "style" (.path none) UrlStyle.decode
    let start : Decoded _ := .ok SignedUrlOptions.mk
    start
      |>.ap (text "google_access_id")
      |>.ap (text "private_key")
      |>.ap function
      |>.ap (text "method")
      |>.ap (Field.withDefault fields "expires" none (Field.optional Field.instant))
      |>.ap (text "content_type")
      |>.ap (Field.withDefault fields "headers" [] (Field.list Field.text))
      |>.ap (Field.withDefault fields "query_parameters" [] (Field.mapping (Field.list Field.text)))
      |>.ap (text "md5")
      |>.ap place
      |>.ap (Field.withDefault fields "insecure" false Field.bool)
      |>.also (Field.withDefault fields "scheme" () scheme)

end SignedUrlOptions

end SignedAccess
